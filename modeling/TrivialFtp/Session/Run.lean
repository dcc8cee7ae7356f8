import TrivialFtp.Session.Hear

/-!
# Runs

A session from its opening to its end.  Between two arrivals a run waits; once it has ended it
holds no port and no stream, and nothing reaches it.
-/

namespace TrivialFtp

/-- How a session begins. -/
inductive Opening where
  /-- A client sends its request. -/
  | request (packet : Packet)
  /-- A server takes up the packet that came to its listening port. -/
  | answer (packet : Packet) (source : Endpoint)
  deriving DecidableEq, Repr

/-- How a session ends. -/
inductive Ending where
  | completed (tally : Tally)
  | failed (failure : Failure) (tally : Tally)
  | crashed
  deriving DecidableEq, Repr

/-- A session in the course of its run. -/
inductive Run where
  | waiting (session : Session)
  | ended (ending : Ending)

namespace Act

/-- Begin a session. -/
def start : Opening → Act Unit
  | .request packet => do
    send packet
    update fun s => { s with phase := .requested }
  | .answer packet source => dispatch packet source

/-- Close the stream.  What was written is flushed first, and that may still fail. -/
def closeStream : Act (Option Failure) := do
  let scene ← get
  set { scene with session := { scene.session with stream := .closed } }
  if let .writing target := scene.session.stream then record (.flushed target)
  return (scene.session.stream.closeFault scene.host).map .io

/-- Tell the peer of a failure, if it is one to be told of.  Whether that succeeds makes no
difference. -/
def notify (f : Failure) : Act Unit := do
  if let some (code, message) := f.notice then
    let _ ← attempt (Packet.report code message).encode

/-- End a session.  One that came through closes its stream; one that failed tells its peer and
drops its stream as it is, without flushing it. -/
def conclude (outcome : Option Failure) : Act Ending := do
  let outcome ← match outcome with
    | none => closeStream
    | some f => pure (some f)
  if let some f := outcome then
    notify f
    update fun s => { s with stream := .closed }
  let time ← now
  count fun t => t.finish time
  let tally := (← session).tally
  match outcome with
  | none =>
    update fun s => { s with phase := .done }
    return .completed tally
  | some f =>
    update fun s => { s with phase := .failed f.message }
    return .failed f tally

end Act

namespace Run

/-- Whether a run has ended. -/
def isEnded : Run → Bool
  | waiting _ => false
  | ended _ => true

/-- End a run, and give its port back. -/
def finish (outcome : Option Failure) (scene : Scene) : Run × Host × List Deed :=
  match (Act.conclude outcome).run scene with
  | .ok ending scene => (.ended ending, scene.host.release scene.session.port, scene.deeds)
  | .error _ scene => (.ended .crashed, scene.host.release scene.session.port, scene.deeds)

/-- Let a session act, and then wait or end. -/
def settle (act : Act Unit) (session : Session) (host : Host) : Run × Host × List Deed :=
  match act.run { session, host } with
  | .ok () scene =>
    if scene.session.phase.isTerminal then finish none scene
    else (.waiting scene.session, scene.host.wait scene.session.timing.timeout, scene.deeds)
  | .error (.failure f) scene => finish (some f) scene
  | .error .crash scene =>
    (.ended .crashed, scene.host.release scene.session.port, scene.deeds)

/-- Begin the run of a session. -/
def start (session : Session) (opening : Opening) (host : Host) : Run × Host × List Deed :=
  settle (Act.start opening) session host

/-- What a run makes of an arrival. -/
def step (run : Run) (arrival : Arrival) (host : Host) : Run × Host × List Deed :=
  match run with
  | waiting session => settle (Act.step arrival) session host
  | ended _ => (run, host, [])

/-- What a run makes of an arrival at a port, which need not be its own. -/
def receive (run : Run) (port : UInt16) (arrival : Arrival) (host : Host) :
    Run × Host × List Deed :=
  match run with
  | waiting session => if session.port = port then run.step arrival host else (run, host, [])
  | ended _ => (run, host, [])

end Run

end TrivialFtp
