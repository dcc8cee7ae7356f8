import Mathlib.Algebra.Order.BigOperators.Group.Finset
import TrivialFtp.Proofs.Chronicle
import TrivialFtp.Proofs.Destinations
import TrivialFtp.Proofs.Silence

/-!
# Proofs: how long a peer can stall

Every packet that a session in the middle of its transfer takes in brings it forward, ends it, or
counts against the packet's block; and a block that counts too often ends the session.  So a peer
cannot keep a session busy without end by what it has said before.

- `Tally.Justifies`: a session fails over a block just when the block has been noted once too often.
- `Turn.progress`: what a packet is good for in the middle of a transfer.
- `Begins.stalling`: the bounds for every run.
-/

namespace TrivialFtp

/-! ### Counts -/

namespace Tally

variable {t : Tally}

/-- The duplicates noted fit the reason for stopping: just the block that was one too many, if that
was the reason, has been noted once more than allowed. -/
def Justifies (t : Tally) (halt : Halt) : Prop :=
  ∀ block, halt = .failure (.tooManyDuplicates block) ∧ t.count block = mostDuplicates + 1 ∨
    halt ≠ .failure (.tooManyDuplicates block) ∧ t.count block ≤ mostDuplicates

/-- A bearable tally justifies every stop but one over duplicates. -/
theorem Bearable.justifies (h : t.Bearable) {halt : Halt}
    (hfew : ∀ block, halt ≠ .failure (.tooManyDuplicates block)) : t.Justifies halt :=
  fun block => .inr ⟨hfew block, h block⟩

/-- A note that is too much justifies a stop, and there is just one too many. -/
theorem Bearable.justifies_note (h : t.Bearable) {block : UInt16}
    (hmany : (t.note block).exceeds block = true) :
    (t.note block).Justifies (.failure (.tooManyDuplicates block)) := by
  rw [exceeds_note] at hmany
  have hfull := Nat.le_antisymm (h block) (of_decide_eq_true hmany)
  intro other
  rw [count_note]
  by_cases heq : block = other
  · subst heq
    exact .inl ⟨rfl, by rw [if_pos rfl, hfull]⟩
  · rw [if_neg heq]
    exact .inr ⟨fun h => heq (Failure.tooManyDuplicates.inj (Halt.failure.inj h)), h other⟩

/-- There are 65536 blocks, and so not many duplicates either. -/
theorem total_le {most : Nat} (h : ∀ block, t.count block ≤ most) : t.total ≤ 65536 * most := by
  have hblocks : t.duplicates.toFinset.card ≤ 65536 := by
    have hmaps : Set.MapsTo UInt16.toNat t.duplicates.toFinset (Finset.range 65536) :=
      fun block _ => Finset.mem_coe.2 (Finset.mem_range.2 block.toNat_lt)
    have hcard := Finset.card_le_card_of_injOn UInt16.toNat hmaps
      fun _ _ _ _ => UInt16.toNat_inj.1
    rwa [Finset.card_range] at hcard
  calc t.total = ∑ block ∈ t.duplicates.toFinset, t.count block :=
        (List.sum_toFinset_count_eq_length _).symm
    _ ≤ t.duplicates.toFinset.card • most := Finset.sum_le_card_nsmul _ _ _ fun block _ => h block
    _ ≤ 65536 * most := Nat.mul_le_mul_right _ hblocks

end Tally

section Stops

variable {scene scene' : Scene} {halt : Halt} {arrival : Arrival}

theorem Session.Charges.bearable {s : Session} {packet : Packet} {tally : Tally}
    (h : s.Charges packet tally) (ht : s.tally.Bearable) : tally.Bearable := by
  cases h with
  | oldBlock hfew => exact ht.note hfew
  | given | taken | other => exact ht

/-- A session that stumbles over a packet is justified in it. -/
theorem Stumble.justified (h : Stumble scene halt scene') (ht : scene.session.tally.Bearable) :
    scene'.session.tally.Justifies halt := by
  cases h with
  | quiet hfew htally =>
    rw [htally]
    exact ht.justifies hfew
  | tooMany hmany htally =>
    rw [htally]
    exact ht.justifies_note hmany
  | unsent hcharges => exact (hcharges.bearable ht).justifies fun _ => nofun

/-- So is one that falters over silence. -/
theorem Falter.justified (h : Falter scene halt scene') (ht : scene.session.tally.Bearable) :
    scene'.session.tally.Justifies halt := by
  cases h with
  | impatient => exact ht.justifies fun _ => nofun
  | tooMany hmany htally =>
    rw [htally]
    exact ht.justifies_note hmany
  | unsent _ hfew htally =>
    rw [htally]
    exact Tally.Bearable.justifies (ht.note hfew) fun _ => nofun

/-- **At a stop.** -/
theorem Stop.justified (h : Stop arrival scene halt scene') (ht : scene.session.tally.Bearable) :
    scene'.session.tally.Justifies halt := by
  cases h with
  | stumble _ _ hstumble => exact hstumble.justified ht
  | malformed | fault => exact ht.justifies fun _ => nofun
  | impatient hdrop hfalter => exact hfalter.justified (hdrop.bearable ht)
  | silent hfalter => exact hfalter.justified ht

end Stops

/-! ### Progress -/

/-- A session in the middle of its transfer. -/
def Session.Busy (s : Session) : Prop :=
  s.phase = .awaitingData ∨ s.phase = .awaitingAck ∨ s.phase = .offering

/-- What a packet has come to in the middle of a transfer: the session is at the next block, or
done, or it has counted a duplicate of the packet's block and nothing else. -/
def Session.Heeded (s : Session) (packet : Packet) (s' : Session) : Prop :=
  s'.nextBlock = s.nextBlock + 1 ∧ s'.tally.duplicates = s.tally.duplicates ∨
    s'.phase = .done ∨
    s'.nextBlock = s.nextBlock ∧
      s'.tally.duplicates = (s.tally.note packet.block).duplicates

section Progress

variable {scene scene' : Scene} {source : Endpoint} {packet : Packet} {phase phase' : Phase}
  {arrival : Arrival}

/-- **Progress or a count.**  A packet that a busy session processes leads on to another block, or
is counted as a duplicate of its own. -/
theorem Turn.progress (h : Turn source scene phase packet phase' scene')
    (hbusy : phase = .awaitingData ∨ phase = .awaitingAck ∨ phase = .offering) :
    scene.session.Heeded packet (scene'.enter phase').session := by
  cases h with
  | block htake =>
    obtain ⟨-, -⟩ := htake
    exact .inl ⟨Session.advance_nextBlock _, rfl⟩
  | oldBlock | oldAck => exact .inr (.inr ⟨rfl, rfl⟩)
  | lastAck => exact .inr (.inl rfl)
  | ack _ _ hgive =>
    obtain ⟨-, -⟩ := hgive
    exact .inl ⟨Session.advance_nextBlock _, rfl⟩
  | grantedRead | firstBlock | grantedWrite | firstAck | strayAck | offered | served | created =>
    exact absurd hbusy (by decide)

/-- **One packet.**  In the middle of a transfer a packet that is processed is heeded. -/
theorem Hears.heeded (h : Hears arrival scene .processed scene') (hbusy : scene.session.Busy) :
    ∃ source bytes packet, arrival = .datagram source bytes ∧
      Packet.decode (bytes.take Act.longestPacket) = .ok packet ∧
        scene.session.Heeded packet scene'.session := by
  cases h with
  | processed hown hread hturn =>
    have hheeded := hturn.progress hbusy
    rw [Scene.showing_session] at hheeded
    exact ⟨_, _, _, rfl, hread, hheeded⟩

end Progress

/-! ### Whole runs -/

section Justified

variable {done : Scene → Prop} {stopped : Halt → Scene → Prop} {run : Run} {deeds : List Deed}

/-- A run has noted no block too often, unless it has failed over that block. -/
def Run.Justified (run : Run) : Prop :=
  ∀ tally, run.tally? = some tally → ∀ block,
    run.failure? = some (.tooManyDuplicates block) ∧ tally.count block = 21 ∨
      run.failure? ≠ some (.tooManyDuplicates block) ∧ tally.count block ≤ 20

theorem Upshot.justified (h : Upshot done stopped run deeds)
    (hdone : ∀ scene, done scene → scene.session.tally.Bearable)
    (hstopped : ∀ halt scene, stopped halt scene → scene.session.tally.Justifies halt) :
    run.Justified := by
  intro tally htally block
  cases h with
  | waits h | completes h =>
    obtain rfl := Option.some.inj htally
    exact .inr ⟨nofun, hdone _ h block⟩
  | unclosed h =>
    obtain rfl := Option.some.inj htally
    exact .inr ⟨nofun, hdone _ h block⟩
  | fails h =>
    obtain rfl := Option.some.inj htally
    refine (hstopped _ _ h block).imp (And.imp_left fun hhalt => ?_) (And.imp_left fun hhalt => ?_)
    · exact congrArg some (Halt.failure.inj hhalt)
    · exact fun hf => hhalt (congrArg Halt.failure (Option.some.inj hf))
  | crashes => exact nomatch htally

end Justified

variable {session : Session} {opening : Opening}

/-- Every run that has stopped over duplicates had one more of a block than it bears. -/
theorem Reaches.justified {run : Run} {hosts : Host → Prop} {arrivals : Arrival → Prop}
    (hbegins : Begins session opening) (h : Reaches hosts arrivals session opening run) :
    run.Justified := by
  induction h with
  | start hhost =>
    refine (Run.start_stops hbegins _).upshot.justified (fun scene hopened => ?_)
      fun halt scene h => ?_
    · exact hopened.bearable hbegins.bearable
    · exact h.justified hbegins.bearable
  | @step run arrival host hreaches harrival hhost ih =>
    cases run with
    | ended => exact ih
    | waiting s =>
      have ht := hreaches.bearable hbegins
      refine (Run.step_stops _ _ _).upshot.justified (fun scene hmove => ?_) fun halt scene h => ?_
      · exact hmove.bearable ht
      · exact h.justified ht

/-! ### Packets absorbed -/

/-- A session in the middle of its transfer takes in a packet of a block, and waits for the same
block as before. -/
def Session.Absorbs (s : Session) (block : UInt16) (arrival : Arrival) (run : Run) : Prop :=
  s.Busy ∧
    (∃ source bytes packet, arrival = .datagram source bytes ∧ s.isForeign source = false ∧
      Packet.decode (bytes.take Act.longestPacket) = .ok packet ∧ packet.block = block) ∧
    ∃ s', run = .waiting s' ∧ s'.nextBlock = s.nextBlock

/-- A run has absorbed so many packets of a block. -/
inductive Absorbed (session : Session) (opening : Opening) (block : UInt16) : Nat → Run → Prop where
  | start (host : Host) : Absorbed session opening block 0 (Run.start session opening host).1
  | more {n : Nat} {s : Session} {arrival : Arrival} {host : Host}
      (habsorbed : Absorbed session opening block n (.waiting s))
      (hmore : s.Absorbs block arrival ((Run.waiting s).step arrival host).1) :
    Absorbed session opening block (n + 1) ((Run.waiting s).step arrival host).1
  | other {n : Nat} {run : Run} {arrival : Arrival} {host : Host}
      (habsorbed : Absorbed session opening block n run)
      (hother : ∀ s, run = .waiting s → ¬ s.Absorbs block arrival (run.step arrival host).1) :
    Absorbed session opening block n (run.step arrival host).1

section Absorbed

variable {scene scene' : Scene} {arrival : Arrival} {block : UInt16}

/-- Duplicates that were noted stay noted. -/
theorem Session.Charges.noted {s : Session} {packet : Packet} {tally : Tally}
    (h : s.Charges packet tally) : s.tally.duplicates <:+ tally.duplicates := by
  cases h with
  | oldBlock => exact List.suffix_cons _ _
  | given | taken | other => exact List.suffix_rfl

/-- What is noted stays noted. -/
theorem Speech.noted (h : Speech scene scene') :
    scene.session.tally.duplicates <:+ scene'.session.tally.duplicates := by
  cases h with
  | nothing htally =>
    rcases htally with htally | ⟨block, htally⟩
    · rw [htally]
    · rw [htally]
      exact List.suffix_cons _ _
  | packet hcharges => exact hcharges.noted

theorem Repeat.noted (h : Repeat scene scene') :
    scene.session.tally.duplicates <:+ scene'.session.tally.duplicates := by
  cases h with
  | nothing => exact List.suffix_rfl
  | again => exact List.suffix_cons _ _

/-- A datagram that is dropped is no duplicate. -/
theorem Drop.duplicates {source : Endpoint} {bytes : Bytes} (h : Drop source bytes scene scene') :
    scene'.session.tally.duplicates = scene.session.tally.duplicates := by
  cases h <;> rfl

theorem Move.noted (h : Move arrival scene scene') :
    scene.session.tally.duplicates <:+ scene'.session.tally.duplicates := by
  cases h with
  | handled _ _ hturn => exact hturn.speech_heard.noted
  | dropped hdrop => exact hdrop.duplicates ▸ List.suffix_rfl
  | impatient hdrop _ hrepeat => exact hdrop.duplicates ▸ hrepeat.noted
  | silent hrepeat => exact hrepeat.noted

/-- A packet that is absorbed is counted. -/
theorem Move.absorbed {s : Session} {host : Host} (h : Move arrival ⟨s, host, []⟩ scene')
    (habsorbs : s.Absorbs block arrival (.waiting scene'.session))
    (hwaits : scene'.session.phase.isTerminal = false) :
    scene'.session.tally.count block = s.tally.count block + 1 := by
  obtain ⟨hbusy, ⟨source, bytes, packet, rfl, hown, hread, rfl⟩, s', hs', hnext⟩ := habsorbs
  obtain rfl := Run.waiting.inj hs'
  -- Its peer sent it and it can be read: it is not dropped, and so no packet goes out for patience.
  have hkept : ∀ scene₁, ¬ Drop source bytes ⟨s, host, []⟩ scene₁ := fun scene₁ hdrop =>
    Bool.noConfusion (hdrop.drops.symm.trans
      (Session.not_drops hown (.inr (congrArg Except.isOk hread))))
  cases h with
  | @handled _ _ read phase _ scene' hown' hread' hturn =>
    obtain rfl := Except.ok.inj (hread.symm.trans hread')
    have hheeded := hturn.progress hbusy
    rw [Scene.showing_session] at hheeded
    rcases hheeded with ⟨hon, -⟩ | hdone | ⟨-, hnoted⟩
    · exact absurd (UInt16.left_eq_add.1 (hnext.symm.trans hon)) (by decide)
    · rw [hdone] at hwaits
      exact nomatch hwaits
    · have hcount := Tally.count_note s.tally packet.block packet.block
      rw [if_pos rfl] at hcount
      exact (congrArg (List.count packet.block) hnoted).trans hcount
  | dropped hdrop => exact absurd hdrop (hkept _)
  | impatient hdrop => exact absurd hdrop (hkept _)

/-- **So many packets.**  A session that waits has counted every packet that it absorbed. -/
theorem Absorbed.le_count {n : Nat} {run : Run} (h : Absorbed session opening block n run) :
    ∀ s, run = .waiting s → n ≤ s.tally.count block := by
  induction h with
  | start => exact fun _ _ => Nat.zero_le _
  | more _ hmore ih =>
    intro s' hrun
    obtain ⟨scene, hmove, hwaits, rfl⟩ := (Run.step_outcome _ _ _).waiting hrun
    rw [hrun] at hmore
    rw [hmove.absorbed hmore hwaits]
    exact Nat.succ_le_succ (ih _ rfl)
  | @other n run arrival host _ _ ih =>
    intro s' hrun
    cases run with
    | ended => exact nomatch hrun
    | waiting s =>
      obtain ⟨scene, hmove, -, rfl⟩ := (Run.step_outcome _ _ _).waiting hrun
      exact Nat.le_trans (ih s rfl) (hmove.noted.sublist.count_le block)

theorem Absorbed.reaches {n : Nat} {run : Run} (h : Absorbed session opening block n run) :
    Reaches (fun _ => True) (fun _ => True) session opening run := by
  induction h with
  | start host => exact .start trivial
  | more _ _ ih => exact .step ih trivial trivial
  | other _ _ ih => exact .step ih trivial trivial

/-- No block is absorbed more often than duplicates are borne. -/
theorem Absorbed.le {n : Nat} {run : Run} (hbegins : Begins session opening)
    (h : Absorbed session opening block n run) : n ≤ 20 := by
  induction h with
  | start => exact Nat.zero_le _
  | @more n s arrival host habsorbed hmore _ =>
    -- A session that has absorbed a packet still waits, so its count is still within the bound.
    obtain ⟨s', hrun, -⟩ := hmore.2.2
    have hmore := Absorbed.more habsorbed hmore
    rw [hrun] at hmore
    exact Nat.le_trans (hmore.le_count s' rfl) (hmore.reaches.bearable hbegins block)
  | other _ _ ih => exact ih

end Absorbed

/-- **The bound on stalling.**  Whatever arrives and whatever its hosts do, a session has noted no
block more than twenty times, unless it has failed over that block, which it has then noted
twenty-one times; so the number of all duplicates fits a word of 32 bits.  In the middle of the
transfer a packet that is processed brings the session to its next block, or ends it, or is noted
as a duplicate of its block; of no block more than twenty packets are absorbed. -/
theorem Begins.stalling (hbegins : Begins session opening) :
    (∀ run, Reaches (fun _ => True) (fun _ => True) session opening run →
      ∀ tally, run.tally? = some tally → tally.total < 2 ^ 32 ∧
        ∀ block, run.failure? = some (.tooManyDuplicates block) ∧ tally.count block = 21 ∨
          run.failure? ≠ some (.tooManyDuplicates block) ∧ tally.count block ≤ 20) ∧
    (∀ s, Reaches (fun _ => True) (fun _ => True) session opening (.waiting s) →
      ∀ arrival host,
        (∀ halt scene, (Act.step arrival).run ⟨s, host, []⟩ = .error halt scene → ∀ block,
          halt = .failure (.tooManyDuplicates block) ∧ scene.session.tally.count block = 21 ∨
            halt ≠ .failure (.tooManyDuplicates block) ∧
              scene.session.tally.count block ≤ 20) ∧
        (s.phase = .awaitingData ∨ s.phase = .awaitingAck ∨ s.phase = .offering →
          ∀ scene, (Act.hear arrival).run ⟨s, host, []⟩ = .ok .processed scene →
            ∃ source bytes packet, arrival = .datagram source bytes ∧
              Packet.decode (bytes.take Act.longestPacket) = .ok packet ∧
              (scene.session.nextBlock = s.nextBlock + 1 ∧
                  scene.session.tally.duplicates = s.tally.duplicates ∨
                scene.session.phase = .done ∨
                scene.session.nextBlock = s.nextBlock ∧
                  ∀ block, scene.session.tally.count block =
                    s.tally.count block + if packet.block = block then 1 else 0))) ∧
    ∀ block n run, Absorbed session opening block n run → n ≤ 20 := by
  refine ⟨fun run hreaches tally htally => ⟨?_, hreaches.justified hbegins tally htally⟩,
    fun s hreaches arrival host => ⟨fun halt scene hrun => ?_, fun hbusy scene hrun => ?_⟩,
    fun block n run habsorbed => habsorbed.le hbegins⟩
  · have htotal : tally.total ≤ 65536 * 21 := Tally.total_le fun block =>
      (hreaches.justified hbegins tally htally block).elim (fun h => Nat.le_of_eq h.2)
        fun h => Nat.le_succ_of_le h.2
    omega
  · exact ((Act.step_stops _ arrival).error hrun).justified (hreaches.bearable hbegins)
  · obtain ⟨source, bytes, packet, harrival, hread, hheeded⟩ :=
      ((Act.hear_ends _ arrival).ok hrun).heeded hbusy
    refine ⟨source, bytes, packet, harrival, hread, hheeded.imp id (.imp id ?_)⟩
    rintro ⟨hnext, hnoted⟩
    refine ⟨hnext, fun block => ?_⟩
    exact (congrArg (List.count block) hnoted).trans (Tally.count_note s.tally packet.block block)

/-- An upload that was told to begin is told so once more: it stays at block 1, and has a duplicate
of block 0. -/
theorem stalling_asking :
    ∃ s scene, Reaches (fun _ => True) (fun _ => True) Destinations.asking Destinations.request
        (.waiting s) ∧
      (Act.hear Destinations.answer).run ⟨s, {}, []⟩ = .ok .processed scene ∧
      s.tally.count 0 = 0 ∧ scene.session.tally.count 0 = 1 := by
  have hreaches : ∃ s, Reaches (fun _ => True) (fun _ => True) Destinations.asking
      Destinations.request (.waiting s) ∧ s.phase = .awaitingAck ∧ s.tally.count 0 = 0 ∧
      ∃ scene, (Act.hear Destinations.answer).run ⟨s, {}, []⟩ = .ok .processed scene ∧
        scene.session.phase ≠ .done ∧ scene.session.nextBlock = s.nextBlock :=
    ⟨_, @Reaches.step _ _ _ _ _ Destinations.answer {} (@Reaches.start _ _ _ _ {} trivial) trivial
      trivial, rfl, rfl, _, rfl, nofun, rfl⟩
  obtain ⟨s, hreaches, hphase, hcount, scene, hrun, hdone, hnext⟩ := hreaches
  obtain ⟨-, hwaiting, -⟩ := @Begins.stalling Destinations.asking Destinations.request .upload
  obtain ⟨source, bytes, packet, harrival, hread, hheeded⟩ :=
    (hwaiting s hreaches Destinations.answer {}).2 (.inr (.inl hphase)) scene hrun
  obtain ⟨-, rfl⟩ := Arrival.datagram.inj harrival
  obtain rfl : Packet.ack 0 = packet := Except.ok.inj hread
  rcases hheeded with ⟨hon, -⟩ | hended | ⟨-, hnoted⟩
  · exact absurd (UInt16.left_eq_add.1 (hnext.symm.trans hon)) (by decide)
  · exact absurd hended hdone
  · exact ⟨s, scene, hreaches, hrun, hcount, (hnoted 0).trans (by rw [hcount]; rfl)⟩

end TrivialFtp
