import TrivialFtp.Net.Ip

/-!
# Endpoints

A host and a port on it, and what travels from one port to an endpoint.
-/

namespace TrivialFtp

/-- A host and one of its ports.  The scope tells apart the links on which an IPv6 address is
meant; it is 0 where none is named. -/
structure Endpoint where
  ip : Ip
  port : UInt16
  scope : UInt32 := 0
  deriving DecidableEq, Repr

namespace Endpoint

/-- The port written after a host. -/
def port? (cs : List Char) : Option (UInt16 × List Char) := do
  let (n, rest) ← Ip.number? 10 Numeral.word16 cs.length true (← Ip.after? ':' cs)
  return (.ofNat n, rest)

/-- The scope written after an IPv6 address, 0 if there is none. -/
def scope? (cs : List Char) : Option (UInt32 × List Char) :=
  match cs with
  | '%' :: rest =>
    (Ip.number? 10 Numeral.word32 rest.length true rest).map fun r => (.ofNat r.1, r.2)
  | _ => some (0, cs)

/-- The endpoint at the front of a text: `a.b.c.d:port` or `[groups]:port`. -/
def take? (cs : List Char) : Option (Endpoint × List Char) :=
  match cs with
  | '[' :: rest => do
    let (groups, rest) ← Ip.groups? rest
    let (scope, rest) ← scope? rest
    let (port, rest) ← port? (← Ip.after? ']' rest)
    return (⟨.v6 groups, port, scope⟩, rest)
  | _ => do
    let ((a, b, c, d), rest) ← Ip.octets? cs
    let (port, rest) ← port? rest
    return (⟨.v4 a b c d, port, 0⟩, rest)

/-- The endpoint that a whole text stands for. -/
def read? (s : String) : Option Endpoint :=
  match take? s.toList with
  | some (e, []) => some e
  | _ => none

/-- An endpoint as text. -/
def text (e : Endpoint) : String :=
  let port := ":" ++ Numeral.write e.port.toNat
  match e.ip with
  | .v4 .. => e.ip.text ++ port
  | .v6 _ =>
    let scope := if e.scope = 0 then "" else "%" ++ Numeral.write e.scope.toNat
    "[" ++ e.ip.text ++ scope ++ "]" ++ port

end Endpoint

/-- Bytes on their way from a local port. -/
structure Datagram where
  source : UInt16
  target : Endpoint
  bytes : Bytes
  deriving DecidableEq, Repr

end TrivialFtp
