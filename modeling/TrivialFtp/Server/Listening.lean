import TrivialFtp.Client
import TrivialFtp.Server.Roster

/-!
# Listening

A server waits for requests at its listening port and carries out each transfer from a separate
one.  A client that has a transfer under way is not given another.
-/

namespace TrivialFtp

/-- What makes a server end its work. -/
inductive Shutdown where
  | never
  /-- Being told to. -/
  | order
  /-- An interrupt from the terminal. -/
  | interrupt
  deriving DecidableEq, Repr

/-- A transfer that a server has begun; it has no session any more once it has ended. -/
structure Transfer where
  ticket : Nat
  client : Endpoint
  session : Option Session

/-- A server at work. -/
structure Listening where
  port : UInt16
  service : Service
  timing : Timing
  shutdown : Shutdown := .never
  /-- The transfers that have been begun and not yet struck off. -/
  transfers : List Transfer := []
  roster : Roster := {}
  /-- The ticket of the next transfer. -/
  nextTicket : Nat := 0
  /-- The server finishes its transfers and takes up no more. -/
  stopping : Bool := false

namespace Listening

/-- The most bytes of a request that are read. -/
def longestRequest : Nat := 2048

/-- The session of a run, unless it has ended. -/
def sessionOf : Run → Option Session
  | .waiting session => some session
  | .ended _ => none

/-- Begin a transfer for a client from a separate port.  Without a port it ends at once. -/
def begin (l : Listening) (packet : Packet) (client : Endpoint) (host : Host) :
    Option Session × Host × List Deed :=
  match host.bindFor client.ip l.timing with
  | (.error _, host) => (none, host, [])
  | (.ok port, host) =>
    let (now, host) := host.readClock
    let session := Session.server l.service port client l.timing now
    let (run, host, deeds) := Run.start session (.answer packet client) host
    (sessionOf run, host, deeds)

/-- What a server makes of a datagram at its listening port. -/
def accept (l : Listening) (client : Endpoint) (bytes : Bytes) (host : Host) :
    Listening × Host × List Deed :=
  if l.roster.contains client then (l, host, [])
  else match Packet.decode (bytes.take longestRequest) with
    | .error _ => (l, host, [])
    | .ok packet =>
      let (session, host, deeds) := l.begin packet client host
      ({ l with
          transfers := l.transfers ++ [⟨l.nextTicket, client, session⟩]
          roster := l.roster.enrol client l.nextTicket
          nextTicket := l.nextTicket + 1 }, host, deeds)

/-- What transfers make of an arrival at one of their ports. -/
def forward (port : UInt16) (arrival : Arrival) (host : Host) :
    List Transfer → List Transfer × Host × List Deed
  | [] => ([], host, [])
  | t :: rest =>
    match t.session with
    | some session =>
      if session.port = port then
        let (run, host, deeds) := (Run.waiting session).step arrival host
        ({ t with session := sessionOf run } :: rest, host, deeds)
      else
        let (rest, host, deeds) := forward port arrival host rest
        (t :: rest, host, deeds)
    | none =>
      let (rest, host, deeds) := forward port arrival host rest
      (t :: rest, host, deeds)

/-- Strike off one transfer. -/
def strike (l : Listening) (ticket : Nat) : Listening :=
  { l with
    transfers := l.transfers.filter fun t => t.ticket ≠ ticket
    roster := l.roster.strike ticket }

/-- Strike off the transfers that have ended. -/
def sweep (l : Listening) : Listening :=
  (l.transfers.filter fun t => t.session.isNone).foldl (fun l t => l.strike t.ticket) l

/-- Give back every port a server holds. -/
def releaseAll (l : Listening) (host : Host) : Host :=
  (l.transfers.filterMap Transfer.session).foldl (fun host s => host.release s.port)
    (host.release l.port)

end Listening

end TrivialFtp
