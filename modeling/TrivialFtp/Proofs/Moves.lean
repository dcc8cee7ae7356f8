import TrivialFtp.Proofs.Turns

/-!
# Proofs: what a waiting session does

Around the handling of a packet: strangers are dropped, silence is answered by sending the last
packet again, and a session that is done or stopped comes to its end.

- `Act.step_ends`: an arrival makes a waiting session take one of its moves, or halts it.
- `Run.step_outcome`: after that a run waits on or has ended.
-/

namespace TrivialFtp

namespace Scene

/-- The scene after a packet was shown to whoever watches the session. -/
def showing (scene : Scene) (packet : Packet) : Scene :=
  if scene.session.watched then { scene with deeds := scene.deeds ++ [.observed packet] }
  else scene

/-- The scene in which the session enters a phase and is patient again. -/
def enter (scene : Scene) (phase : Phase) : Scene :=
  scene.become { scene.session with phase, retries := 0 }

/-- The scene after the clock was read. -/
def tick (scene : Scene) : Scene :=
  { scene with host := { scene.host with clock := scene.host.clock + 1 } }

/-- The scene after the peer was heard. -/
def heard (scene : Scene) : Scene :=
  scene.tick.become { scene.session with heardAt := scene.host.clock + 1 }

/-- The scene after a datagram was dropped. -/
def dropping (scene : Scene) : Scene :=
  scene.become { scene.session with
    tally := { scene.session.tally with discarded := scene.session.tally.discarded + 1 } }

variable (scene : Scene) (packet : Packet)

/-- To show a packet to those who watch changes nothing of the session. -/
@[simp] theorem showing_session : (scene.showing packet).session = scene.session := by
  unfold showing
  split <;> rfl

/-- Nor does it change anything of the host. -/
@[simp] theorem showing_host : (scene.showing packet).host = scene.host := by
  unfold showing
  split <;> rfl

/-- What is shown to those who watch is not sent. -/
@[simp] theorem sent_showing :
    World.sent (scene.showing packet).deeds = World.sent scene.deeds := by
  unfold showing
  split
  · exact World.sent_append_silent _ rfl
  · rfl

end Scene

/-- A datagram is dropped. -/
inductive Drop (source : Endpoint) (bytes : Bytes) (scene : Scene) : Scene → Prop where
  | foreign (hforeign : scene.session.isForeign source = true) :
    Drop source bytes scene scene.dropping
  /-- The peer's port is not known yet, and this is no packet. -/
  | unreadable {m : Malformed} (hown : scene.session.isForeign source = false)
      (hread : Packet.decode (bytes.take Act.longestPacket) = .error m)
      (htid : scene.session.tid = none) :
    Drop source bytes scene scene.heard.dropping

/-- The last packet is sent again. -/
inductive Repeat (scene : Scene) : Scene → Prop where
  | nothing (hretries : scene.session.retries < scene.session.timing.retries)
      (hlast : scene.session.lastSent = none) :
    Repeat scene (scene.become { scene.session with retries := scene.session.retries + 1 })
  | again {p : Packet} (hretries : scene.session.retries < scene.session.timing.retries)
      (hlast : scene.session.lastSent = some p)
      (hfew : (scene.session.tally.note p.block).exceeds p.block = false)
      (hsend : scene.CanSend p) :
    Repeat scene
      { session := { scene.session with
          retries := scene.session.retries + 1
          tally := { scene.session.tally.note p.block with
            resentBytes := scene.session.tally.resentBytes + p.encode.length }
          heardAt := scene.host.clock + 1 }
        host := { scene.host with sends := scene.host.sends + 1, clock := scene.host.clock + 1 }
        deeds := scene.deeds ++ [.sent (scene.session.letter p) true] }

/-- What a waiting session can do when its wait ends. -/
inductive Move : Arrival → Scene → Scene → Prop where
  | handled {source : Endpoint} {bytes : Bytes} {packet : Packet} {phase : Phase}
      {scene scene' : Scene} (hown : scene.session.isForeign source = false)
      (hread : Packet.decode (bytes.take Act.longestPacket) = .ok packet)
      (hturn : Turn source (scene.heard.showing packet) scene.session.phase packet phase scene') :
    Move (.datagram source bytes) scene (scene'.enter phase)
  | dropped {source : Endpoint} {bytes : Bytes} {scene scene' : Scene}
      (hdrop : Drop source bytes scene scene')
      (hpatient : scene'.session.overdue (scene'.host.clock + 1) = false) :
    Move (.datagram source bytes) scene scene'.tick
  | impatient {source : Endpoint} {bytes : Bytes} {scene scene₁ scene' : Scene}
      (hdrop : Drop source bytes scene scene₁)
      (hoverdue : scene₁.session.overdue (scene₁.host.clock + 1) = true)
      (hrepeat : Repeat scene₁.tick scene') : Move (.datagram source bytes) scene scene'
  | silent {scene scene' : Scene} (hrepeat : Repeat scene scene') : Move .silence scene scene'

/-- A session is halted before it has touched a file or sent anything. -/
structure Bare (scene : Scene) (halt : Halt) (scene' : Scene) : Prop where
  cause : (∃ f, halt = .failure f ∧ ∀ fault, f ≠ .io fault) ∨
    ∃ d fault, (scene.host.transmit d).1 = some fault ∧ halt = .failure (.io fault)
  files : scene.host.SameFiles scene'.host
  silent : World.sent scene'.deeds = World.sent scene.deeds

/-- A stop that follows on a dropped datagram is one of the scene before it. -/
theorem Bare.of_drop {source : Endpoint} {bytes : Bytes} {scene scene₁ scene' : Scene} {halt : Halt}
    (hbare : Bare scene₁.tick halt scene') (hdrop : Drop source bytes scene scene₁) :
    Bare scene halt scene' := by
  obtain ⟨hcause, hfiles, hsilent⟩ := hbare
  cases hdrop with
  | foreign => exact ⟨hcause, ⟨hfiles.store, hfiles.output⟩, hsilent⟩
  | unreadable => exact ⟨hcause, ⟨hfiles.store, hfiles.output⟩, hsilent⟩

/-- What can halt a waiting session. -/
inductive Halting : Arrival → Scene → Halt → Scene → Prop where
  | setback {source : Endpoint} {bytes : Bytes} {packet : Packet} {scene scene' : Scene}
      {halt : Halt} (hown : scene.session.isForeign source = false)
      (hread : Packet.decode (bytes.take Act.longestPacket) = .ok packet)
      (hsetback : Setback (scene.heard.showing packet) packet halt scene') :
    Halting (.datagram source bytes) scene halt scene'
  | fault {f : Fault} {scene : Scene} : Halting (.fault f) scene (.failure (.io f)) scene
  /-- The datagram is no packet, or the session has no patience left. -/
  | bare {arrival : Arrival} {scene scene' : Scene} {halt : Halt} (hbare : Bare scene halt scene') :
    Halting arrival scene halt scene'

namespace Act

/-- A packet is shown to those who watch, and then it leads to a turn or to a setback. -/
theorem dispatch_ends (scene : Scene) (packet : Packet) (source : Endpoint)
    {done : Unit → Scene → Prop} {stopped : Halt → Scene → Prop}
    (hturn : ∀ phase scene',
      Turn source (scene.showing packet) scene.session.phase packet phase scene' →
        done () (scene'.enter phase))
    (hsetback : ∀ halt scene', Setback (scene.showing packet) packet halt scene' →
      stopped halt scene') :
    (dispatch packet source).Ends scene done stopped := by
  have hhandle : (handle packet source >>= fun phase =>
      update fun s => { s with phase, retries := 0 }).Ends (scene.showing packet) done stopped := by
    refine Ends.bind ((handle_ends _ packet source).mono (fun phase scene' h => ?_) hsetback)
    rw [Scene.showing_session] at h
    exact hturn phase scene' h
  refine ends_session ?_
  unfold Scene.showing at hhandle
  split
  · next hwatched =>
    rw [if_pos hwatched] at hhandle
    exact ends_record hhandle
  · next hwatched =>
    rwa [if_neg hwatched] at hhandle

/-- After a timeout the last packet goes out again, or nothing does, or the session stops. -/
theorem retry_ends (scene : Scene) {stopped : Halt → Scene → Prop}
    (hbare : ∀ halt scene', Bare scene halt scene' → stopped halt scene') :
    retry.Ends scene (fun _ => Repeat scene) stopped := by
  have hrefused : ∀ (f : Failure) session, (∀ fault, f ≠ .io fault) →
      stopped (.failure f) (scene.become session) := fun f _ hf =>
    hbare _ _ ⟨.inl ⟨f, rfl, hf⟩, .refl _, rfl⟩
  refine ends_session ?_
  change Ends (ite (scene.session.timing.retries ≤ scene.session.retries) (fail _ >>= _)
    (update _ >>= fun _ => resend)) _ _ _
  split
  · exact Ends.bind (ends_fail (hrefused _ scene.session fun _ => Failure.noConfusion))
  · next hretries =>
    have hretries := Nat.lt_of_not_le hretries
    refine ends_update (ends_session ?_)
    dsimp only
    split
    · next hlast => exact .nothing hretries hlast
    · next p hlast =>
      refine ends_count (Ends.bind (ends_noteDuplicate ?_ ?_))
      · intro hfew
        refine Ends.bind (ends_transmit ?_ ?_)
        · intro hsend
          exact .again hretries hlast hfew hsend
        · intro f hsend
          exact hbare _ _ ⟨.inr ⟨_, f, hsend, rfl⟩, ⟨rfl, rfl⟩, World.sent_append_silent _ rfl⟩
      · intro _
        exact hrefused _ _ fun _ => Failure.noConfusion

/-- **What an arrival comes to.**  A waiting session makes one of its moves, or is halted. -/
theorem step_ends (scene : Scene) (arrival : Arrival) :
    (step arrival).Ends scene (fun _ => Move arrival scene) (Halting arrival scene) := by
  match arrival with
  | .silence =>
    exact (retry_ends scene fun _ _ hbare => .bare hbare).mono (fun _ _ => .silent) fun _ _ => id
  | .fault f => exact .fault
  | .datagram source bytes =>
    have hdiscarded : ∀ scene₁, Drop source bytes scene scene₁ →
        Ends (do if (← session).overdue (← now) then retry) scene₁
          (fun _ => Move (.datagram source bytes) scene)
          (Halting (.datagram source bytes) scene) := by
      intro scene₁ hdrop
      change Ends (ite (scene₁.session.overdue (scene₁.host.clock + 1) = true) retry (pure ()))
        scene₁.tick _ _
      split
      · next hoverdue =>
        refine (retry_ends scene₁.tick fun halt scene' hbare => ?_).mono
          (fun _ _ => .impatient hdrop hoverdue) fun _ _ => id
        exact .bare (hbare.of_drop hdrop)
      · next hpatient => exact .dropped hdrop (Bool.eq_false_iff.2 hpatient)
    unfold step
    refine Ends.bind (ends_session ?_)
    split
    · next hforeign => exact hdiscarded _ (.foreign hforeign)
    · next hown =>
      have hown := Bool.eq_false_iff.2 hown
      refine ends_now (ends_update ?_)
      cases hread : Packet.decode (bytes.take longestPacket) with
      | ok packet =>
        refine Ends.bind (dispatch_ends scene.heard packet source ?_ ?_)
        · intro phase scene' hturn
          exact .handled hown hread hturn
        · intro halt scene' hsetback
          exact .setback hown hread hsetback
      | error m =>
        refine ends_session ?_
        change Ends (ite (scene.session.tid.isSome = true) (fail _ >>= _) (discard >>= _))
          scene.heard _ _
        split
        · exact Ends.bind (ends_fail (.bare
            ⟨.inl ⟨_, rfl, fun _ => Failure.noConfusion⟩, ⟨rfl, rfl⟩, rfl⟩))
        · next htid =>
          exact hdiscarded _ (.unreadable hown hread (Option.not_isSome_iff_eq_none.1 htid))

end Act

/-! ### Openings and endings -/

/-- How a session opens. -/
inductive Opened : Opening → Scene → Scene → Prop where
  | asked {packet : Packet} {scene : Scene} (hsend : scene.CanSend packet) :
    Opened (.request packet) scene
      (scene.post packet { scene.session with lastSent := some packet, phase := .requested })
  | answered {packet : Packet} {source : Endpoint} {phase : Phase} {scene scene' : Scene}
      (hturn : Turn source (scene.showing packet) scene.session.phase packet phase scene') :
    Opened (.answer packet source) scene (scene'.enter phase)

/-- What can keep a session from opening. -/
inductive Refused : Opening → Scene → Halt → Scene → Prop where
  | unasked {packet : Packet} {scene scene' : Scene} {halt : Halt}
      (hbare : Bare scene halt scene') :
    Refused (.request packet) scene halt scene'
  | unanswered {packet : Packet} {source : Endpoint} {scene scene' : Scene} {halt : Halt}
      (hsetback : Setback (scene.showing packet) packet halt scene') :
    Refused (.answer packet source) scene halt scene'

/-- A session opens or is refused, and nothing else happens at its start. -/
theorem Act.start_ends (scene : Scene) (opening : Opening) :
    (start opening).Ends scene (fun _ => Opened opening scene) (Refused opening scene) := by
  match opening with
  | .request packet =>
    refine Ends.bind (ends_send ?_ ?_)
    · intro hsend
      exact .asked hsend
    · intro f hsend
      exact .unasked ⟨.inr ⟨_, f, hsend, rfl⟩, ⟨rfl, rfl⟩, World.sent_append_silent _ rfl⟩
  | .answer packet source =>
    exact dispatch_ends scene packet source (fun _ _ => .answered) fun _ _ => .unanswered

/-- What becomes of a run whose session has acted. -/
inductive Outcome (done : Scene → Prop) (stopped : Halt → Scene → Prop) :
    Run × Host × List Deed → Prop where
  | waits {scene : Scene} (hdone : done scene) (hphase : scene.session.phase.isTerminal = false) :
    Outcome done stopped
      (.waiting scene.session, scene.host.wait scene.session.timing.timeout, scene.deeds)
  | concludes {scene : Scene} (hdone : done scene)
      (hphase : scene.session.phase.isTerminal = true) :
    Outcome done stopped (Run.finish none scene)
  | fails {f : Failure} {scene : Scene} (hstopped : stopped (.failure f) scene) :
    Outcome done stopped (Run.finish (some f) scene)
  | crashes {scene : Scene} (hstopped : stopped .crash scene) :
    Outcome done stopped
      (.ended .crashed, scene.host.release scene.session.port, scene.deeds)

/-- What is done to a stream that is closed: what was written to it is flushed. -/
def Stream.flushes : Stream → List Deed
  | writing target => [.flushed target]
  | closed | reading .. => []

/-- Nothing but a flush is done to a stream that is closed. -/
theorem Stream.eq_of_mem_flushes {stream : Stream} {d : Deed} (hd : d ∈ stream.flushes) :
    ∃ target, d = .flushed target := by
  cases stream with
  | writing target => exact ⟨target, List.mem_singleton.1 hd⟩
  | closed | reading => exact absurd hd List.not_mem_nil

/-- The scene after the session's stream was flushed. -/
def Scene.flushing (scene : Scene) : Scene :=
  { scene with deeds := scene.deeds ++ scene.session.stream.flushes }

/-- To flush a file sends nothing. -/
@[simp] theorem Scene.sent_flushing (scene : Scene) :
    World.sent scene.flushing.deeds = World.sent scene.deeds := by
  unfold flushing
  cases scene.session.stream with
  | writing target => exact World.sent_append_silent _ rfl
  | closed | reading => rw [Stream.flushes, List.append_nil]

/-- A stream is closed whatever comes of it, and what is written to is flushed first. -/
theorem Act.run_closeStream (scene : Scene) :
    closeStream.run scene = .ok ((scene.session.stream.closeFault scene.host).map .io)
      { scene.flushing with session := { scene.session with stream := .closed } } := by
  unfold closeStream Scene.flushing
  cases hstream : scene.session.stream with
  | writing target =>
    simp only [EStateM.run_bind, EStateM.run_get, hstream]
    rfl
  | closed | reading =>
    simp only [EStateM.run_bind, EStateM.run_get, hstream, Stream.flushes, List.append_nil]
    rfl

namespace Run

/-- What an act ends in decides how its run is left. -/
theorem settle_outcome {act : Act Unit} {session : Session} {host : Host} {done : Scene → Prop}
    {stopped : Halt → Scene → Prop} (h : act.Ends ⟨session, host, []⟩ (fun _ => done) stopped) :
    Outcome done stopped (settle act session host) := by
  unfold settle
  cases hrun : act.run ⟨session, host, []⟩ with
  | ok a scene =>
    have hdone := h.ok hrun
    change Outcome done stopped (ite _ _ _)
    split
    · next hphase => exact .concludes hdone hphase
    · next hphase => exact .waits hdone (Bool.eq_false_iff.2 hphase)
  | error halt scene =>
    have hstopped := h.error hrun
    cases halt with
    | failure f => exact .fails hstopped
    | crash => exact .crashes hstopped

/-- **What an arrival comes to.**  A waiting session makes a move or halts. -/
theorem step_outcome (session : Session) (arrival : Arrival) (host : Host) :
    Outcome (Move arrival ⟨session, host, []⟩) (Halting arrival ⟨session, host, []⟩)
      ((waiting session).step arrival host) :=
  settle_outcome (Act.step_ends _ arrival)

/-- What the start of a session comes to: it opens, or it is refused. -/
theorem start_outcome (session : Session) (opening : Opening) (host : Host) :
    Outcome (Opened opening ⟨session, host, []⟩) (Refused opening ⟨session, host, []⟩)
      (start session opening host) :=
  settle_outcome (Act.start_ends _ opening)

/-- A session that came through and closes its stream without a fault has completed. -/
theorem finish_none {scene : Scene} (h : scene.session.stream.closeFault scene.host = none) :
    finish none scene =
      (.ended (.completed (scene.session.tally.finish (scene.host.clock + 1))),
        Host.release { scene.host with clock := scene.host.clock + 1 } scene.session.port,
        scene.flushing.deeds) := by
  unfold finish Act.conclude
  simp only [EStateM.run_bind, Act.run_closeStream, h]
  rfl

/-- What a session that failed leaves behind when it has tried to tell its peer. -/
def notified (f : Failure) (scene : Scene) : Scene :=
  match f.notice with
  | none => scene
  | some (code, message) =>
    { scene with
      host := { scene.host with sends := scene.host.sends + 1 }
      deeds := scene.deeds ++
        [match (scene.host.transmit (scene.session.letter (.report code message))).1 with
          | none => .sent (scene.session.letter (.report code message)) false
          | some fault => .unsent (scene.session.letter (.report code message)) fault] }

/-- To notify the peer never stops a session, even if the notice cannot be sent. -/
theorem run_notify (f : Failure) (scene : Scene) :
    (Act.notify f).run scene = .ok () (notified f scene) := by
  unfold Act.notify notified
  cases f.notice <;> rfl

/-- A notice changes nothing of the session that is ending. -/
@[simp] theorem notified_session (f : Failure) (scene : Scene) :
    (notified f scene).session = scene.session := by
  unfold notified
  cases f.notice <;> rfl

/-- It takes no time either. -/
@[simp] theorem notified_clock (f : Failure) (scene : Scene) :
    (notified f scene).host.clock = scene.host.clock := by
  unfold notified
  cases f.notice <;> rfl

/-- A notice leaves every file as it was. -/
theorem notified_files (f : Failure) (scene : Scene) :
    scene.host.SameFiles (notified f scene).host := by
  unfold notified
  cases f.notice <;> exact ⟨rfl, rfl⟩

/-- A notice sends one error packet, or nothing at all. -/
theorem sent_notified (f : Failure) (scene : Scene) :
    World.sent (notified f scene).deeds = World.sent scene.deeds ∨
      ∃ code message, World.sent (notified f scene).deeds =
        World.sent scene.deeds ++ [scene.session.letter (.error code message)] := by
  unfold notified
  cases f.notice with
  | none => exact .inl rfl
  | some notice =>
    simp only [World.sent_append]
    split
    · exact .inr ⟨notice.1.code, notice.2, rfl⟩
    · exact .inl (List.append_nil _)

/-- A session that fails notifies its peer and lets its port go, and flushes nothing. -/
theorem finish_some (f : Failure) (scene : Scene) :
    finish (some f) scene =
      (.ended (.failed f (scene.session.tally.finish (scene.host.clock + 1))),
        Host.release { (notified f scene).host with clock := scene.host.clock + 1 }
          scene.session.port,
        (notified f scene).deeds) := by
  unfold finish Act.conclude
  simp only [EStateM.run_bind, EStateM.run_pure, run_notify, Act.run_update, Act.run_now,
    Act.run_count, Act.run_session, notified_session, notified_clock]

/-- A fault met when the stream is flushed and closed is a failure like any other. -/
theorem finish_fault {scene : Scene} {fault : Fault}
    (h : scene.session.stream.closeFault scene.host = some fault) :
    finish none scene = finish (some (.io fault)) scene.flushing := by
  rw [finish_some]
  unfold finish Act.conclude
  simp only [EStateM.run_bind, EStateM.run_pure, Act.run_closeStream, h, Option.map_some,
    run_notify, Act.run_update, Act.run_now, Act.run_count, Act.run_session, notified_session,
    notified_clock]
  unfold notified
  cases (Failure.io fault).notice <;> rfl

/-- What the end of a session leaves behind. -/
structure Closing (outcome : Option Failure) (scene : Scene) (result : Run × Host × List Deed) :
    Prop where
  ended : ∃ ending, result.1 = .ended ending ∧
    ((∃ tally, ending = .completed tally) →
      outcome = none ∧ scene.session.stream.closeFault scene.host = none)
  files : scene.host.SameFiles result.2.1
  sent : World.sent result.2.2 = World.sent scene.deeds ∨
    ∃ code message, World.sent result.2.2 =
      World.sent scene.deeds ++ [scene.session.letter (.error code message)]

/-- A failure closes a session as a failure, whatever was to come of it. -/
theorem finish_some_closing (f : Failure) {outcome : Option Failure} (scene : Scene) :
    Closing outcome scene (finish (some f) scene) := by
  rw [finish_some]
  have hfiles := notified_files f scene
  exact ⟨⟨_, rfl, fun ⟨_, h⟩ => nomatch h⟩, ⟨hfiles.store, hfiles.output⟩, sent_notified f scene⟩

/-- However a session ends, its files stay as they are, and at most a notice goes out. -/
theorem finish_closing (outcome : Option Failure) (scene : Scene) :
    Closing outcome scene (finish outcome scene) := by
  match outcome with
  | some f => exact finish_some_closing f scene
  | none =>
    cases h : scene.session.stream.closeFault scene.host with
    | some fault =>
      rw [finish_fault h]
      have hclosing : Closing none scene.flushing _ := finish_some_closing (.io fault) scene.flushing
      exact ⟨hclosing.ended, hclosing.files, scene.sent_flushing ▸ hclosing.sent⟩
    | none =>
      rw [finish_none h]
      exact ⟨⟨_, rfl, fun _ => ⟨rfl, h⟩⟩, ⟨rfl, rfl⟩, .inl scene.sent_flushing⟩

/-- A session that was concluded has ended. -/
theorem isEnded_finish (outcome : Option Failure) (scene : Scene) :
    (finish outcome scene).1.isEnded = true := by
  obtain ⟨ending, hended, -⟩ := (finish_closing outcome scene).ended
  rw [hended]
  rfl

end Run

/-- A run that waits has been left by an act that was done, before its end. -/
theorem Outcome.waiting {done : Scene → Prop} {stopped : Halt → Scene → Prop}
    {result : Run × Host × List Deed} (h : Outcome done stopped result) {s : Session}
    (hrun : result.1 = .waiting s) :
    ∃ scene, done scene ∧ scene.session.phase.isTerminal = false ∧ scene.session = s := by
  cases h with
  | @waits scene hdone hphase => exact ⟨scene, hdone, hphase, Run.waiting.inj hrun⟩
  | concludes hdone hphase =>
    obtain ⟨ending, hended, -⟩ := (Run.finish_closing none _).ended
    exact nomatch hended.symm.trans hrun
  | fails hstopped =>
    obtain ⟨ending, hended, -⟩ := (Run.finish_closing (some _) _).ended
    exact nomatch hended.symm.trans hrun
  | crashes => exact nomatch hrun

end TrivialFtp
