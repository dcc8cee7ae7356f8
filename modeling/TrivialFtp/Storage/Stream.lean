import TrivialFtp.Host

/-!
# Streams

Where the bytes of a transfer come from or go to.  A stream moves in one direction only: a
download writes, an upload reads, and a closed stream does neither.
-/

namespace TrivialFtp

/-- The path that stands for a standard stream. -/
def standardPath : String := "-"

/-- Where bytes come from. -/
inductive Origin where
  | input
  /-- A file, or bytes that were never in a file. -/
  | held
  deriving DecidableEq, Repr

/-- Where bytes go to. -/
inductive Target where
  | file (path : String)
  | output
  deriving DecidableEq, Repr

/-- The stream of a transfer. -/
inductive Stream where
  | closed
  /-- What is still to be read of a node as it was when it was opened. -/
  | reading (origin : Origin) (rest : Node)
  | writing (target : Target)
  deriving DecidableEq, Repr

namespace Stream

/-- A stream that reads what a node holds now. -/
def ofNode (node : Node) : Stream := .reading .held node

/-- Open a path for reading, or the standard input. -/
def source (host : Host) (path : String) : Except Fault Stream :=
  if path = standardPath then .ok (.reading .input host.input)
  else (host.store.openNode path).map ofNode

/-- Make a path an empty file and open it for writing. -/
def create (host : Host) (path : String) : Except Fault (Stream × Host) := do
  let store ← host.store.create path
  return (.writing (.file path), { host with store })

/-- Make a path an empty file and open it for writing, or open the standard output. -/
def sink (host : Host) (path : String) : Except Fault (Stream × Host) :=
  if path = standardPath then .ok (.writing .output, host) else create host path

/-- Read up to `size` bytes, fewer only at the end. -/
def read (size : Nat) : Stream → Except Mishap Bytes × Stream
  | reading origin rest =>
    let (block, rest) := rest.fill size
    (block, .reading origin rest)
  | stream => (.error (.fault .notReading), stream)

/-- Write bytes. -/
def write (host : Host) (bytes : Bytes) : Stream → Option Fault × Host
  | writing (.file path) =>
    let (fault, store) := host.store.append path bytes
    (fault, { host with store })
  | writing .output => (none, { host with output := host.output ++ bytes })
  | _ => (some .notWriting, host)

/-- What is met when a stream is closed: a file written is flushed first. -/
def closeFault (host : Host) : Stream → Option Fault
  | writing (.file path) =>
    let node := (host.store.find? path).getD {}
    node.flushFault <|> node.closeFault
  | _ => none

end Stream

end TrivialFtp
