import TrivialFtp.Proofs.Completion

/-!
# Proofs: packets that are refused

Which packets a session that waits for blocks or acknowledgements refuses, and that it ends over any
of them.  Among them is an offer that comes again: the server repeats it when it hears nothing, but
a client that has accepted it once does not allow it a second time.

- `Refuses.step`: a session ends over a packet that it refuses.
- `Run.accepted_again`: a client ends over an offer once it has accepted one.
-/

namespace TrivialFtp

/-- A packet that a waiting session refuses, and why. -/
inductive Refuses (s : Session) : Packet → Failure → Prop where
  /-- Options are granted to someone who is past the first answer. -/
  | offer {granted : Options}
      (hphase : s.phase = .awaitingData ∨ s.phase = .awaitingAck ∨ s.phase = .offering) :
    Refuses s (.optionAck granted) (.violation (.unexpected .optionAck s.phase))
  | blockZero {payload : Bytes} (hphase : s.phase = .awaitingData) (hnext : 0 < s.nextBlock) :
    Refuses s (.data 0 payload) (.violation .blockZero)
  | future {block : UInt16} {payload : Bytes} (hphase : s.phase = .awaitingData)
      (hfuture : s.nextBlock < block) :
    Refuses s (.data block payload) (.violation (.futureBlock block s.nextBlock))
  | unsent {block : UInt16} (hphase : s.phase = .awaitingAck ∨ s.phase = .offering)
      (hunsent : s.nextBlock < block) :
    Refuses s (.ack block) (.violation (.unsentBlock block s.nextBlock))

namespace Act

theorem run_bind_error {α β : Type} {act : Act α} {k : α → Act β} {scene scene' : Scene}
    {halt : Halt} (h : act.run scene = .error halt scene') :
    (act >>= k).run scene = .error halt scene' := by
  rw [EStateM.run_bind, h]

theorem run_handle_refused {scene : Scene} {packet : Packet} {f : Failure} (source : Endpoint)
    (h : Refuses scene.session packet f) :
    (handle packet source).run scene = .error (.failure f) scene := by
  unfold handle
  refine (run_bind_of (run_session scene)).trans ?_
  cases h with
  | offer hphase => rcases hphase with hphase | hphase | hphase <;> rw [hphase] <;> rfl
  | blockZero hphase hnext =>
    rw [hphase]
    refine (run_bind_of (run_session scene)).trans ?_
    rw [if_neg (UInt16.ne_of_lt hnext), if_pos hnext]
    exact run_bind_error (run_fail scene _)
  | future hphase hfuture =>
    rw [hphase]
    refine (run_bind_of (run_session scene)).trans ?_
    rw [if_neg (UInt16.ne_of_lt hfuture).symm, if_neg (UInt16.lt_asymm hfuture)]
    rfl
  | unsent hphase hunsent =>
    have hack : ∀ block, scene.session.nextBlock < block →
        (receiveAck block).run scene =
          .error (.failure (.violation (.unsentBlock block scene.session.nextBlock))) scene := by
      intro block hunsent
      refine (run_bind_of (run_session scene)).trans ?_
      rw [if_neg (UInt16.ne_of_lt hunsent).symm, if_neg (UInt16.lt_asymm hunsent)]
      rfl
    rcases hphase with hphase | hphase <;> rw [hphase] <;> exact hack _ hunsent

/-- What halts the handling of a packet halts the session that was given it. -/
theorem run_dispatch_halted {scene scene' : Scene} {packet : Packet} {source : Endpoint}
    {halt : Halt} (h : (handle packet source).run (scene.showing packet) = .error halt scene') :
    (dispatch packet source).run scene = .error halt scene' := by
  unfold dispatch
  refine (run_bind_of (run_session _)).trans ?_
  unfold Scene.showing at h
  split
  · next hwatched =>
    rw [if_pos hwatched] at h
    exact (run_bind_of (run_record _ _)).trans (run_bind_error h)
  · next hwatched =>
    rw [if_neg hwatched] at h
    exact run_bind_error h

end Act

namespace Run

variable {s : Session} {host : Host} {source : Endpoint} {bytes : Bytes} {packet : Packet}
  {f : Failure}

/-- A session ends where the handling of a packet fails. -/
theorem step_failed {scene : Scene} (hown : s.isForeign source = false)
    (hread : Packet.decode (bytes.take Act.longestPacket) = .ok packet)
    (h : (Act.handle packet source).run ((Scene.mk s host []).heard.showing packet) =
      .error (.failure f) scene) :
    (waiting s).step (.datagram source bytes) host = finish (some f) scene := by
  have hdispatch : (Act.dispatch packet source).run (Scene.mk s host []).heard =
      .error (.failure f) scene := Act.run_dispatch_halted h
  have hhear : (Act.hear (.datagram source bytes)).run ⟨s, host, []⟩ =
      .error (.failure f) scene := by
    unfold Act.hear
    refine (Act.run_bind_of (Act.run_session _)).trans ?_
    rw [hown, if_neg Bool.false_ne_true]
    refine (Act.run_bind_of (Act.run_now _)).trans ((Act.run_bind_of (Act.run_update _ _)).trans ?_)
    rw [hread]
    exact Act.run_bind_error hdispatch
  change settle (Act.step (.datagram source bytes)) s host = _
  unfold settle Act.step
  rw [Act.run_bind_error hhear]

/-- So does one that fails on the packet it was opened with. -/
theorem start_failed {scene : Scene}
    (h : (Act.handle packet source).run ((Scene.mk s host []).showing packet) =
      .error (.failure f) scene) :
    start s (.answer packet source) host = finish (some f) scene := by
  change settle (Act.dispatch packet source) s host = _
  unfold settle
  rw [Act.run_dispatch_halted h]

end Run

/-- **Refused packets are fatal.**  The session ends in the violation, whatever its host. -/
theorem Refuses.step {s : Session} {source : Endpoint} {bytes : Bytes} {packet : Packet}
    {f : Failure} (h : Refuses s packet f) (hown : s.isForeign source = false)
    (hread : Packet.decode (bytes.take Act.longestPacket) = .ok packet) (host : Host) :
    ∃ tally, ((Run.waiting s).step (.datagram source bytes) host).1 =
      .ended (.failed f tally) := by
  obtain ⟨deeds, -, hscene⟩ := Scene.heard_showing s host packet
  have hrefused : Refuses (Scene.session ⟨{ s with heardAt := host.clock + 1 },
      { host with clock := host.clock + 1 }, deeds⟩) packet f := by
    cases h with
    | offer hphase => exact .offer hphase
    | blockZero hphase hnext => exact .blockZero hphase hnext
    | future hphase hfuture => exact .future hphase hfuture
    | unsent hphase hunsent => exact .unsent hphase hunsent
  rw [Run.step_failed hown hread (hscene ▸ Act.run_handle_refused source hrefused),
    Run.finish_some]
  exact ⟨_, rfl⟩

/-! ### Offers that come again -/

namespace Session

/-- What a session may become while nothing but silence happens to it. -/
def Endures : Session → Session → Prop :=
  Relation.ReflTransGen fun s s' => ∃ host, ((Run.waiting s).step .silence host).1 = .waiting s'

variable {s s' s'' : Session}

theorem Alike.trans (h : s.Alike s') (h' : s'.Alike s'') : s.Alike s'' := by
  unfold Alike at h h' ⊢
  rw [h', h]

theorem Endures.alike (h : s.Endures s') : s.Alike s' := by
  induction h with
  | refl => rfl
  | tail _ hsilence ih =>
    obtain ⟨host, hrun⟩ := hsilence
    obtain ⟨scene, hmove, -, rfl⟩ := (Run.step_outcome _ _ _).waiting hrun
    refine ih.trans ?_
    cases hmove with
    | silent hrepeat => cases hrepeat <;> rfl

/-- Who is heard before the peer's port is known is heard from then on. -/
theorem isForeign_pin {source : Endpoint} (h : s.isForeign source = false) :
    (s.pin source.port).isForeign source = false := by
  cases htid : s.tid <;> simpa [isForeign, pin, htid] using h

theorem Alike.isForeign (h : s.Alike s') (source : Endpoint) :
    s'.isForeign source = s.isForeign source := by
  rw [h]
  rfl

end Session

/-- A client that has accepted an offer is past the first answer, and has not moved a block yet. -/
theorem Run.accepts_offer {c s : Session} {host : Host} {source : Endpoint} {bytes : Bytes}
    {granted : Options} (hphase : c.phase = .requested)
    (hread : Packet.decode (bytes.take Act.longestPacket) = .ok (.optionAck granted))
    (haccepts : ((Run.waiting c).step (.datagram source bytes) host).1 = .waiting s)
    (hpast : s.phase ≠ .requested) :
    (c.role = .download ∧ s.phase = .awaitingData ∨ c.role = .upload ∧ s.phase = .awaitingAck) ∧
      s.nextBlock = 1 ∧ s.isForeign source = false := by
  obtain ⟨scene, hmove, -, rfl⟩ := (Run.step_outcome _ _ _).waiting haccepts
  cases hmove with
  | handled hown hread' hturn =>
    obtain rfl := Except.ok.inj (hread'.symm.trans hread)
    obtain ⟨deeds, -, hscene⟩ := Scene.heard_showing c host (.optionAck granted)
    have hknown := Session.isForeign_pin hown
    rw [hscene, hphase] at hturn
    cases hturn with
    | grantedRead hrole => exact ⟨.inl ⟨hrole, rfl⟩, rfl, hknown⟩
    | grantedWrite hrole _ hgive =>
      cases hgive
      exact ⟨.inr ⟨hrole, rfl⟩, rfl, hknown⟩
  | dropped hdrop => cases hdrop <;> exact absurd hphase hpast
  | impatient hdrop _ hrepeat => cases hdrop <;> cases hrepeat <;> exact absurd hphase hpast

/-- **An offer is accepted once.**  Let a client that waits for its first answer accept the options
that it is granted.  It then waits for block 1, or for its acknowledgement, and however long nothing
else happens: when options are granted to it once more, be it in the same datagram, it ends over
them.  So it does not help that a server whose offer was not answered makes it again. -/
theorem Run.accepted_again {c s s' : Session} {host host' : Host} {source : Endpoint}
    {bytes bytes' : Bytes} {granted granted' : Options} (hphase : c.phase = .requested)
    (hread : Packet.decode (bytes.take Act.longestPacket) = .ok (.optionAck granted))
    (haccepts : ((Run.waiting c).step (.datagram source bytes) host).1 = .waiting s)
    (hpast : s.phase ≠ .requested) (hendures : s.Endures s')
    (hread' : Packet.decode (bytes'.take Act.longestPacket) = .ok (.optionAck granted')) :
    (c.role = .download ∧ s.phase = .awaitingData ∨ c.role = .upload ∧ s.phase = .awaitingAck) ∧
      s.nextBlock = 1 ∧ s.Alike s' ∧
      ∃ tally, ((Run.waiting s').step (.datagram source bytes') host').1 =
        .ended (.failed (.violation (.unexpected .optionAck s.phase)) tally) := by
  obtain ⟨hwaits, hnext, hown⟩ := Run.accepts_offer hphase hread haccepts hpast
  have halike := hendures.alike
  have hsame : s'.phase = s.phase := by rw [halike]
  have hrefuses : Refuses s' (.optionAck granted') (.violation (.unexpected .optionAck s.phase)) :=
    hsame ▸ .offer (hsame ▸ hwaits.imp And.right fun h => .inl h.2)
  exact ⟨hwaits, hnext, halike,
    hrefuses.step ((halike.isForeign source).trans hown) hread' host'⟩

/-- A client that asked for blocks of eight bytes. -/
def Session.asksForEight : Session :=
  .client .download 40001 ⟨.v4 127 0 0 1, 69, 0⟩ (.writing .output) (.ofList [("blksize", "8")]) {}
    false 1

theorem Run.accepted_again_asksForEight :
    let offer := (Packet.optionAck (.ofList [("blksize", "8")])).encode
    ∃ s, ((Run.waiting .asksForEight).step (.datagram ⟨.v4 127 0 0 1, 40002, 0⟩ offer) {}).1 =
        .waiting s ∧
      ∃ tally, ((Run.waiting s).step (.datagram ⟨.v4 127 0 0 1, 40002, 0⟩ offer) {}).1 =
        .ended (.failed (.violation (.unexpected .optionAck .awaitingData)) tally) := by
  intro offer
  have hread : Packet.decode (offer.take Act.longestPacket) =
      .ok (.optionAck (.ofList [("blksize", "8")])) := by decide
  obtain ⟨s, haccepts, hphase⟩ : ∃ s, ((Run.waiting .asksForEight).step
      (.datagram ⟨.v4 127 0 0 1, 40002, 0⟩ offer) {}).1 = .waiting s ∧ s.phase = .awaitingData :=
    ⟨_, rfl, rfl⟩
  have hagain := @Run.accepted_again _ s s {} {} _ offer offer _ _ rfl hread haccepts
    (hphase ▸ nofun) .refl hread
  exact ⟨s, haccepts, hphase ▸ hagain.2.2.2⟩

namespace Setting

/-- The download of nine bytes when the acknowledgement of the offer is lost, so that the server
makes its offer again. -/
theorem offer_again_nineBytes :
    let x := nineBytes.proceed (nineBytes.proceed (nineBytes.initial {} nineBytesHost))
    let y := Exchange.silence { x with flight := [] } .server
    nineBytes.Reachable (nineBytes.initial {} nineBytesHost) x ∧ nineBytes.Reachable x y ∧
      (∃ s, x.client = .waiting s ∧ y.client = .waiting s ∧ s.phase = .awaitingData ∧
        s.nextBlock = 1) ∧
      ∃ tally, (nineBytes.proceed y).client =
        .ended (.failed (.violation (.unexpected .optionAck .awaitingData)) tally) := by
  refine ⟨?_, .tail (.single (.lose (List.nil_append _).symm)) (.silence .server),
    ⟨_, rfl, rfl, rfl, rfl⟩, _, rfl⟩
  exact .trans (reachable_of_orderable _ (orderable_proceed _ _))
    (reachable_of_orderable _ (orderable_proceed _ _))

end Setting

end TrivialFtp
