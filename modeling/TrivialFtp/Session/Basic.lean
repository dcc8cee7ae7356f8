import TrivialFtp.Options.Terms
import TrivialFtp.Storage.Stream
import TrivialFtp.Tally

/-!
# Sessions

One transfer as seen from one side: the role played, the peer, the terms, and how far it has come.

- `advance_nextBlock`: after block 65535 comes block 0.
-/

namespace TrivialFtp

/-- How long a session waits, how often it asks again, and which local address it uses. -/
structure Timing where
  /-- Milliseconds. -/
  timeout : Nat := 3000
  retries : Nat := 8
  localIp : Option Ip := none
  deriving DecidableEq, Repr

/-- What stands in for a file that a server does not have. -/
inductive Resolution where
  | content (node : Node)
  | crash
  deriving DecidableEq, Repr

/-- What a server serves. -/
structure Service where
  root : String
  /-- The source of files that are not under the root. -/
  resolver : Option (String → Option Resolution) := none
  /-- Whether the size of a file is told to those who ask for it. -/
  reportSize : Bool := false

/-- The part a session plays. -/
inductive Role where
  | download
  | upload
  | serve (service : Service)

/-- What a server's session serves. -/
def Role.service? : Role → Option Service
  | serve service => some service
  | _ => none

/-- A transfer. -/
structure Session where
  role : Role
  phase : Phase
  /-- The local port. -/
  port : UInt16
  /-- The peer's host, and the port that requests go to. -/
  remote : Endpoint
  /-- The port the peer uses for this transfer, once it is known. -/
  tid : Option UInt16 := none
  timing : Timing := {}
  terms : Terms := {}
  /-- What a client asked for. -/
  requested : Options := ∅
  stream : Stream := .closed
  /-- The block to be sent or received next, or awaiting its acknowledgement. -/
  nextBlock : UInt16 := 0
  /-- How often the last packet was sent again since something was heard. -/
  retries : Nat := 0
  /-- The packet to be sent again if nothing is heard. -/
  lastSent : Option Packet := none
  /-- The block sent was the last one of the file. -/
  finalSent : Bool := false
  /-- When the peer was last heard, or its silence last answered. -/
  heardAt : Nat := 0
  tally : Tally := {}
  /-- Someone is shown every packet received. -/
  watched : Bool := false

namespace Session

/-- The session of a client that is about to send its request. -/
def client (role : Role) (port : UInt16) (remote : Endpoint) (stream : Stream)
    (requested : Options) (timing : Timing) (watched : Bool) (now : Nat) : Session :=
  { role, phase := .requested, port, remote, stream, requested, timing, watched, heardAt := now
    tally := { started := now } }

/-- The session of a server that has a request of `remote` before it. -/
def server (service : Service) (port : UInt16) (remote : Endpoint) (timing : Timing)
    (now : Nat) : Session :=
  { role := .serve service, phase := .idle, port, remote, tid := some remote.port, timing
    heardAt := now, tally := { started := now } }

/-- The endpoint that packets go to. -/
def peer (s : Session) : Endpoint := ⟨s.remote.ip, s.tid.getD s.remote.port, 0⟩

/-- Take a port as the peer's for the whole transfer, unless there is one already. -/
def pin (s : Session) (port : UInt16) : Session := { s with tid := some (s.tid.getD port) }

/-- The number of payload bytes in a full block. -/
def blockSize (s : Session) : Nat := s.terms.blockSize.size

/-- Set the block that is next.  A number past 65535 stands for block 0. -/
def setNextBlock (s : Session) (n : Nat) : Session :=
  { s with nextBlock := if n < 65536 then .ofNat n else 0 }

/-- Go on to the next block. -/
def advance (s : Session) : Session := s.setNextBlock (s.nextBlock.toNat + 1)

/-- Whether the peer has been silent for longer than the timeout. -/
def overdue (s : Session) (now : Nat) : Bool :=
  1000000 * s.timing.timeout < now - s.heardAt

/-- A datagram from `source` is none of the session's. -/
def isForeign (s : Session) (source : Endpoint) : Bool :=
  source.ip ≠ s.remote.ip || s.tid.any (· ≠ source.port)

theorem advance_nextBlock (s : Session) : s.advance.nextBlock = s.nextBlock + 1 := by
  have := s.nextBlock.toNat_lt
  apply UInt16.toNat_inj.1
  simp only [advance, setNextBlock]
  split
  · simp only [UInt16.toNat_ofNat', UInt16.toNat_add]
    rfl
  · have : s.nextBlock.toNat = 65535 := by omega
    simp [UInt16.toNat_add, this]

end Session

end TrivialFtp
