import TrivialFtp.Session.Handle

/-!
# Hearing

What reaches a waiting session, and what it does about silence.  Datagrams from strangers are
dropped; so is what cannot be read before the peer's port is known.
-/

namespace TrivialFtp

/-- What ends a session's wait. -/
inductive Arrival where
  | datagram (source : Endpoint) (bytes : Bytes)
  /-- The timeout passed. -/
  | silence
  | fault (f : Fault)
  deriving DecidableEq, Repr

/-- What came of an arrival. -/
inductive Heard where
  | processed
  | discarded
  | timedOut
  deriving DecidableEq, Repr

namespace Act

/-- The most bytes of a datagram that are read: a full block of the largest size. -/
def longestPacket : Nat := BlockSize.most + 4

/-- Begin to wait. -/
def wait : Act Unit := modify fun scene =>
  { scene with host := scene.host.wait scene.session.timing.timeout }

/-- Take in an arrival. -/
def hear : Arrival → Act Heard
  | .silence => return .timedOut
  | .fault f => fail (.io f)
  | .datagram source bytes => do
    if (← session).isForeign source then
      discard
      return .discarded
    let time ← now
    update fun s => { s with heardAt := time }
    match Packet.decode (bytes.take longestPacket) with
    | .ok packet =>
      dispatch packet source
      return .processed
    | .error m =>
      if (← session).tid.isSome then fail (.malformed m)
      discard
      return .discarded

/-- Send the last packet again, which counts as a duplicate of its block. -/
def resend : Act Unit := do
  match (← session).lastSent with
  | none => return
  | some p =>
    let bytes := p.encode
    count fun t => { t with resentBytes := t.resentBytes + bytes.length }
    noteDuplicate p.block
    transmit bytes true
    let time ← now
    update fun s => { s with heardAt := time }

/-- Answer silence: send the last packet again, unless that was done often enough. -/
def retry : Act Unit := do
  let s ← session
  if s.timing.retries ≤ s.retries then fail (.timedOut s.retries)
  update fun s => { s with retries := s.retries + 1 }
  resend

/-- Take in an arrival and do what silence calls for.  A datagram that was dropped does not break
the silence. -/
def step (arrival : Arrival) : Act Unit := do
  match ← hear arrival with
  | .processed => return
  | .discarded => if (← session).overdue (← now) then retry
  | .timedOut => retry

end Act

end TrivialFtp
