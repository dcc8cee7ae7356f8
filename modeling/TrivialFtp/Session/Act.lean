import TrivialFtp.Packet.Wire
import TrivialFtp.Session.Basic

/-!
# Acts

What a session does when something happens to it: a computation that may change the session and
its host, that leaves a record of its deeds, and that may fail.  What was done before a failure
stays done.
-/

namespace TrivialFtp

/-- What a session does for others to see. -/
inductive Deed where
  /-- A datagram went out, for the first time or as a repetition after silence. -/
  | sent (d : Datagram) (again : Bool)
  /-- A datagram that could not be sent. -/
  | unsent (d : Datagram) (fault : Fault)
  /-- A packet received was shown to whoever watches the session. -/
  | observed (packet : Packet)
  /-- A server asked after a path, opened it or made it anew. -/
  | touched (path : String)
  /-- A server asked its resolver for a file. -/
  | consulted (name : String)
  /-- What was written was flushed, so that the stream could be closed. -/
  | flushed (target : Target)
  deriving DecidableEq, Repr

/-- What stops a session in the middle of an act: a failure of the transfer, or the end of the
program that carries it out. -/
inductive Halt where
  | failure (f : Failure)
  | crash
  deriving DecidableEq, Repr

/-- A session at work. -/
structure Scene where
  session : Session
  host : Host
  /-- The deeds so far, in order. -/
  deeds : List Deed := []

/-- A computation of a session at work. -/
abbrev Act := EStateM Halt Scene

namespace Act

/-- End in a failure of the transfer. -/
def fail {α : Type} (f : Failure) : Act α := throw (.failure f)

/-- End in a failure of the transfer if there is a fault. -/
def check : Option Fault → Act Unit
  | some f => fail (.io f)
  | none => pure ()

/-- The session as it stands. -/
def session : Act Session := return (← get).session

/-- Change the session. -/
def update (f : Session → Session) : Act Unit :=
  modify fun scene => { scene with session := f scene.session }

/-- Change the counts of the session. -/
def count (f : Tally → Tally) : Act Unit := update fun s => { s with tally := f s.tally }

/-- Put a deed on record. -/
def record (d : Deed) : Act Unit :=
  modify fun scene => { scene with deeds := scene.deeds ++ [d] }

/-- Read the clock of the host. -/
def now : Act Nat := modifyGet fun scene =>
  let (time, host) := scene.host.readClock
  (time, { scene with host })

/-- Try to send bytes to the peer. -/
def attempt (bytes : Bytes) (again : Bool := false) : Act (Option Fault) := do
  let scene ← get
  let d : Datagram := ⟨scene.session.port, scene.session.peer, bytes⟩
  let (fault, host) := scene.host.transmit d
  set { scene with host }
  record (match fault with
    | none => .sent d again
    | some f => .unsent d f)
  return fault

/-- Send bytes to the peer. -/
def transmit (bytes : Bytes) (again : Bool := false) : Act Unit := do
  check (← attempt bytes again)

/-- Send a packet without keeping it to be sent again. -/
def sendOnce (p : Packet) : Act Unit := transmit p.encode

/-- Send a packet and, if that succeeds, keep it to be sent again. -/
def send (p : Packet) : Act Unit := do
  sendOnce p
  update fun s => { s with lastSent := some p }

/-- Acknowledge a block. -/
def sendAck (block : UInt16) : Act Unit := send (.ack block)

/-- Read up to `size` bytes from the session's stream. -/
def readBlock (size : Nat) : Act Bytes := do
  let scene ← get
  let (result, stream) := scene.session.stream.read size
  set { scene with session := { scene.session with stream } }
  match result with
  | .ok bytes => return bytes
  | .error (.fault f) => fail (.io f)
  | .error .crash => throw .crash

/-- Write bytes to the session's stream. -/
def writeBlock (bytes : Bytes) : Act Unit := do
  let scene ← get
  let (fault, host) := scene.session.stream.write scene.host bytes
  set { scene with host }
  check fault

/-- Send the next block of the file, and tell whether it is the last one. -/
def sendData : Act Bool := do
  let size := (← session).blockSize
  let payload ← readBlock size
  count fun t => { t with bytes := t.bytes + payload.length }
  send (.data (← session).nextBlock payload)
  return payload.length < size

/-- Note a duplicate; one too many of a block is a failure. -/
def noteDuplicate (block : UInt16) : Act Unit := do
  count fun t => t.note block
  if (← session).tally.exceeds block then fail (.tooManyDuplicates block)

/-- Drop a datagram. -/
def discard : Act Unit := count fun t => { t with discarded := t.discarded + 1 }

/-! ### What each act does to a scene -/

variable (scene : Scene)

@[simp] theorem run_fail {α : Type} (f : Failure) :
    (fail f : Act α).run scene = .error (.failure f) scene := rfl

@[simp] theorem run_check (fault : Option Fault) :
    (check fault).run scene =
      match fault with
      | some f => .error (.failure (.io f)) scene
      | none => .ok () scene := by
  cases fault <;> rfl

@[simp] theorem run_session : session.run scene = .ok scene.session scene := rfl

@[simp] theorem run_update (f : Session → Session) :
    (update f).run scene = .ok () { scene with session := f scene.session } := rfl

@[simp] theorem run_count (f : Tally → Tally) :
    (count f).run scene =
      .ok () { scene with session := { scene.session with tally := f scene.session.tally } } := rfl

@[simp] theorem run_record (d : Deed) :
    (record d).run scene = .ok () { scene with deeds := scene.deeds ++ [d] } := rfl

@[simp] theorem run_now :
    now.run scene = .ok (scene.host.clock + 1)
      { scene with host := { scene.host with clock := scene.host.clock + 1 } } := rfl

@[simp] theorem run_attempt (bytes : Bytes) (again : Bool) :
    (attempt bytes again).run scene =
      .ok (scene.host.transmit ⟨scene.session.port, scene.session.peer, bytes⟩).1
        { scene with
          host := (scene.host.transmit ⟨scene.session.port, scene.session.peer, bytes⟩).2
          deeds := scene.deeds ++
            [match (scene.host.transmit ⟨scene.session.port, scene.session.peer, bytes⟩).1 with
              | none => .sent ⟨scene.session.port, scene.session.peer, bytes⟩ again
              | some f => .unsent ⟨scene.session.port, scene.session.peer, bytes⟩ f] } := rfl

@[simp] theorem run_noteDuplicate (block : UInt16) :
    (noteDuplicate block).run scene =
      let noted := { scene with
        session := { scene.session with tally := scene.session.tally.note block } }
      if noted.session.tally.exceeds block then .error (.failure (.tooManyDuplicates block)) noted
      else .ok () noted := by
  simp only [noteDuplicate, EStateM.run_bind, run_count, run_session]
  split <;> rfl

@[simp] theorem run_discard :
    discard.run scene =
      .ok () { scene with
        session := { scene.session with
          tally := { scene.session.tally with
            discarded := scene.session.tally.discarded + 1 } } } := rfl

end Act

end TrivialFtp
