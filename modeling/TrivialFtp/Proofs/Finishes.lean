import TrivialFtp.Proofs.Accounts

/-!
# Proofs: what a session gets, and when it is done

Which packet an arrival brings to a session, what a turn that stops it leaves on its record, and
which packets bring it to its end.

- `Stop.same`, `Run.same_finish`: the end of a session adds nothing to what it sent of its file.
- `Session.isDoneBy_iff`: a session is done by a packet it handles, or not at all.
-/

namespace TrivialFtp

namespace Session

/-- An arrival brings a packet to a session. -/
def Gets (s : Session) (arrival : Arrival) (packet : Packet) : Prop :=
  ∃ source bytes, arrival = .datagram source bytes ∧ s.isForeign source = false ∧
    Packet.decode (bytes.take Act.longestPacket) = .ok packet

/-- A session has come through when it has dealt with an arrival: it has only to close its
stream. -/
def IsDoneBy (s : Session) (arrival : Arrival) (host : Host) : Prop :=
  ∃ scene, (Act.step arrival).run ⟨s, host, []⟩ = .ok () scene ∧ scene.session.phase = .done

end Session

theorem Refuses.alike {s s' : Session} {packet : Packet} {f : Failure} (h : Refuses s packet f)
    (halike : s.Alike s') : Refuses s' packet f := by
  rw [halike]
  cases h with
  | offer hphase => exact .offer hphase
  | blockZero hphase hnext => exact .blockZero hphase hnext
  | future hphase hfuture => exact .future hphase hfuture
  | unsent hphase hunsent => exact .unsent hphase hunsent

/-- A session that refuses a packet tells its peer why. -/
theorem Refuses.reports {s : Session} {source : Endpoint} {bytes : Bytes} {packet : Packet}
    {f : Failure} {host : Host} {code : ErrorCode} {message : String} (h : Refuses s packet f)
    (hown : s.isForeign source = false)
    (hread : Packet.decode (bytes.take Act.longestPacket) = .ok packet)
    (hnotice : f.notice = some (code, message))
    (hsend : (host.transmit (s.letter (.report code message))).1 = none) :
    World.sent ((Run.waiting s).step (.datagram source bytes) host).2.2 =
      [s.letter (.report code message)] := by
  obtain ⟨deeds, hsilent, hscene⟩ := Scene.heard_showing s host packet
  have hrefused : Refuses (Scene.session ⟨{ s with heardAt := host.clock + 1 },
      { host with clock := host.clock + 1 }, deeds⟩) packet f := h.alike rfl
  rw [Run.step_failed hown hread (by
    rw [hscene]
    exact Act.run_handle_refused source hrefused), Run.finish_some, Run.notified, hnotice]
  dsimp only
  have hsent : (Host.transmit { host with clock := host.clock + 1 }
      (Session.letter { s with heardAt := host.clock + 1 } (.report code message))).1 = none := hsend
  rw [hsent, World.sent_append, hsilent]
  rfl

/-! ### The record of a turn -/

section Record

variable {scene scene' : Scene} {source : Endpoint} {bytes : Bytes} {arrival : Arrival}
  {halt : Halt}

/-- Hearing a packet and showing it, no datagram is to go out. -/
theorem Scene.heard_hushed (s : Session) (host : Host) (packet : Packet) :
    ∃ deeds, World.tried deeds = [] ∧ (Scene.mk s host []).heard.showing packet =
      ⟨{ s with heardAt := host.clock + 1 }, { host with clock := host.clock + 1 }, deeds⟩ := by
  unfold Scene.showing
  split <;> exact ⟨_, rfl, rfl⟩

/-- A session that handles a packet has shown it at most, and no block has gone out yet. -/
theorem Run.step_shown {s : Session} (hown : s.isForeign source = false) {packet : Packet}
    (hread : Packet.decode (bytes.take Act.longestPacket) = .ok packet) (host : Host) :
    ∃ deeds, World.tried deeds = [] ∧ World.pages deeds = [] ∧ ∀ phase scene,
      Turn source ⟨{ s with heardAt := host.clock + 1 }, { host with clock := host.clock + 1 },
        deeds⟩ s.phase packet phase scene →
      (waiting s).step (.datagram source bytes) host = rest (scene.enter phase) := by
  obtain ⟨deeds, htried, hscene⟩ := Scene.heard_hushed s host packet
  have hhushed : World.Hushed [] deeds := ⟨deeds, rfl, htried⟩
  exact ⟨deeds, htried, hhushed.same.pages, fun phase scene hturn =>
    step_handled hown hread (hscene ▸ hturn)⟩

theorem Repeat.pages (h : Repeat scene scene') :
    World.pages scene'.deeds = World.pages scene.deeds := by
  cases h with
  | nothing => rfl
  | again => exact World.pages_silent _ rfl

theorem Stumble.same (h : Stumble scene halt scene') : World.Same scene.deeds scene'.deeds := by
  cases h with
  | quiet _ _ hhushed | tooMany _ _ hhushed => exact hhushed.same
  | @unsent packet d fault deeds scene' _ _ hhushed hdeeds =>
    exact hdeeds ▸ World.same_unsent hhushed.same d fault

theorem Falter.same (h : Falter scene halt scene') : World.Same scene.deeds scene'.deeds := by
  cases h with
  | impatient => exact .refl _
  | tooMany _ _ _ hdeeds => exact hdeeds ▸ .refl _
  | unsent _ _ _ hdeeds => exact hdeeds ▸ World.same_unsent (.refl _) _ _

/-- A stop puts neither a block nor a repetition on the wire. -/
theorem Stop.same (h : Stop arrival scene halt scene') :
    World.Same scene.deeds scene'.deeds := by
  cases h with
  | stumble _ _ hstumble => exact hstumble.same
  | malformed | fault => exact .refl _
  | impatient hdrop hfalter => exact (hdrop.deeds ▸ .refl _ : World.Same _ _).trans hfalter.same
  | silent hfalter => exact hfalter.same

/-- Nor does the end of a session. -/
theorem Run.same_finish (outcome : Option Failure) (scene : Scene) :
    World.Same scene.deeds (Run.finish outcome scene).2.2 := by
  have hfailed : ∀ f scene, World.Same scene.deeds (Run.finish (some f) scene).2.2 := by
    intro f scene
    rw [Run.finish_some]
    exact Run.same_notified f scene
  match outcome with
  | some f => exact hfailed f scene
  | none =>
    cases hclose : scene.session.stream.closeFault scene.host with
    | none =>
      rw [Run.finish_none hclose]
      exact scene.hushed_flushing.same
    | some fault =>
      rw [Run.finish_fault hclose]
      exact scene.hushed_flushing.same.trans (hfailed _ scene.flushing)

end Record

/-! ### Coming through -/

section Done

variable {s : Session} {arrival : Arrival} {host : Host}

/-- **When a session is done.**  A session that waits is done by a packet that it handles; nothing
else brings it to its end. -/
theorem Session.isDoneBy_iff (hwaits : s.phase.isTerminal = false) :
    s.IsDoneBy arrival host ↔ ∃ source bytes packet scene, arrival = .datagram source bytes ∧
      s.isForeign source = false ∧ Packet.decode (bytes.take Act.longestPacket) = .ok packet ∧
      Turn source ((Scene.mk s host []).heard.showing packet) s.phase packet .done scene := by
  constructor
  · rintro ⟨scene, hrun, hdone⟩
    have hundone : s.phase ≠ .done := fun h => nomatch h ▸ hwaits
    have hdrop : ∀ {source bytes scene₁}, Drop source bytes ⟨s, host, []⟩ scene₁ →
        scene₁.session.phase = s.phase := by
      intro _ _ _ hdrop
      cases hdrop <;> rfl
    have hrepeat : ∀ {scene₁ scene₂ : Scene}, Repeat scene₁ scene₂ →
        scene₂.session.phase = scene₁.session.phase := by
      intro _ _ hrepeat
      cases hrepeat <;> rfl
    cases (Act.step_ends ⟨s, host, []⟩ arrival).ok hrun with
    | @handled source bytes packet phase _ scene' hown hread hturn =>
      obtain rfl : phase = .done := hdone
      exact ⟨source, bytes, packet, scene', rfl, hown, hread, hturn⟩
    | dropped hdropped => exact absurd ((hdrop hdropped).symm.trans hdone) hundone
    | impatient hdropped _ hrepeated =>
      exact absurd ((hdrop hdropped).symm.trans ((hrepeat hrepeated).symm.trans hdone)) hundone
    | silent hrepeated => exact absurd ((hrepeat hrepeated).symm.trans hdone) hundone
  · rintro ⟨source, bytes, packet, scene, rfl, hown, hread, hturn⟩
    exact ⟨scene.enter .done, Act.run_step hown hread hturn, rfl⟩

end Done

end TrivialFtp
