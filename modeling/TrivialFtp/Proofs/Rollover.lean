import TrivialFtp.Proofs.Refusals
import TrivialFtp.Proofs.Standing

/-!
# Proofs: what comes again when the numbers begin anew

After block 65535 comes block 0, and whether a packet has been there before is told from the bare
numbers.  How many blocks a session has moved is counted here without end, and what it makes of the
last one when it comes again is told from that count.

- `Moved.counts`: the number of the next block follows from the count.
- `Moved.tolerates_within_lap`: a packet that comes again is overlooked, but for those at the end
  of a lap.
-/

namespace TrivialFtp

/-! ### Counting blocks -/

namespace Session

/-- A packet by which a transfer comes to its next block: a receiver gets the one that it waits for,
and a sender is told to send another. -/
def MovesOn (s : Session) : Packet → Prop
  | .data block _ => s.Expects block
  | .ack block => s.Sends ∧ block = s.nextBlock
  | .optionAck _ => s.phase = .requested ∧ s.role = .upload
  | _ => False

/-- What arrives is a packet by which the transfer comes to its next block. -/
def IsMovedBy (s : Session) (arrival : Arrival) : Prop :=
  ∃ source bytes packet, arrival = .datagram source bytes ∧ s.isForeign source = false ∧
    Packet.decode (bytes.take Act.longestPacket) = .ok packet ∧ s.MovesOn packet

/-- The number of the next block, when so many were moved. -/
def Counts (k : Nat) (s : Session) : Prop :=
  match s.phase with
  | .requested | .offering => k = 0 ∧ s.nextBlock = 0
  | .awaitingData => s.nextBlock = .ofNat (k + 1)
  | .awaitingAck => 1 ≤ k ∧ s.nextBlock = .ofNat k
  | .idle | .done | .failed _ => False

end Session

/-- A session that waits has moved so many blocks: it has written them, or has sent them and waits
for the acknowledgement of the last. -/
inductive Moved (session : Session) (opening : Opening) : Nat → Session → Prop where
  | start {host : Host} {s : Session} (hrun : (Run.start session opening host).1 = .waiting s) :
    Moved session opening (if s.phase = .awaitingAck then 1 else 0) s
  | on {k : Nat} {s s' : Session} {arrival : Arrival} {host : Host}
      (hmoved : Moved session opening k s) (hon : s.IsMovedBy arrival)
      (hrun : ((Run.waiting s).step arrival host).1 = .waiting s') :
    Moved session opening (k + 1) s'
  | stay {k : Nat} {s s' : Session} {arrival : Arrival} {host : Host}
      (hmoved : Moved session opening k s) (hstays : ¬ s.IsMovedBy arrival)
      (hrun : ((Run.waiting s).step arrival host).1 = .waiting s') :
    Moved session opening k s'

variable {k : Nat} {scene scene' : Scene} {source : Endpoint}

theorem Session.Counts.congr {s s' : Session} (h : s.Counts k) (hphase : s'.phase = s.phase)
    (hnext : s'.nextBlock = s.nextBlock) : s'.Counts k := by
  unfold Counts at h ⊢
  rwa [hphase, hnext]

theorem Session.Counts.receiving {s : Session} (h : s.Counts k) (hphase : s.phase = .awaitingData) :
    s.nextBlock = .ofNat (k + 1) := by
  unfold Counts at h
  rwa [hphase] at h

theorem Session.Counts.sending {s : Session} (h : s.Counts k) (hphase : s.phase = .awaitingAck) :
    s.nextBlock = .ofNat k := by
  unfold Counts at h
  rw [hphase] at h
  exact h.2

theorem Session.advance_ofNat {s : Session} {n : Nat} (h : s.nextBlock = .ofNat n) :
    s.advance.nextBlock = .ofNat (n + 1) := by
  rw [advance_nextBlock, h, ← UInt16.ofNat_one, ← UInt16.ofNat_add]

theorem Take.counts {payload : Bytes} {phase : Phase} (h : Take scene payload phase scene')
    (hnext : scene.session.nextBlock = .ofNat (k + 1)) (hphase : phase.isTerminal = false) :
    (scene'.enter phase).session.Counts (k + 1) := by
  obtain ⟨-, -⟩ := h
  split at hphase
  · exact nomatch hphase
  · next hfull =>
    rw [if_neg hfull]
    exact Session.advance_ofNat hnext

theorem Give.counts (h : Give scene scene') (hnext : scene.session.nextBlock = .ofNat (k + 1)) :
    (scene'.enter .awaitingAck).session.Counts (k + 1) := by
  obtain ⟨-, -⟩ := h
  exact ⟨Nat.succ_pos k, hnext⟩

/-- **One turn.**  The count goes up when the transfer comes to its next block, and only then. -/
theorem Turn.counts {packet : Packet} {phase phase' : Phase}
    (h : Turn source scene phase packet phase' scene') (hbefore : scene.session.phase = phase)
    (hcounts : scene.session.Counts k) (hphase : phase'.isTerminal = false) :
    scene.session.MovesOn packet ∧ (scene'.enter phase').session.Counts (k + 1) ∨
      ¬ scene.session.MovesOn packet ∧ (scene'.enter phase').session.Counts k := by
  have hbegun := hcounts
  unfold Session.Counts at hbegun
  rw [hbefore] at hbegun
  cases h with
  | block htake => exact .inl ⟨.inl ⟨hbefore, rfl⟩, htake.counts hbegun hphase⟩
  | oldBlock _ hold =>
    refine .inr ⟨?_, hcounts.congr hbefore.symm rfl⟩
    rintro (⟨-, hnext⟩ | ⟨hrequested, -⟩)
    · exact UInt16.ne_of_lt hold hnext
    · exact nomatch hbefore.symm.trans hrequested
  | lastAck => exact nomatch hphase
  | ack hsender _ hgive =>
    have hsends : scene.session.Sends := by
      rw [← hbefore] at hsender
      exact hsender.imp id .inl
    refine .inl ⟨⟨hsends, rfl⟩, hgive.counts (Session.advance_ofNat ?_)⟩
    rcases hsender with rfl | rfl
    · exact hbegun.2
    · rw [hbegun.1, hbegun.2]
      rfl
  | @oldAck _ _ hsender hold =>
    refine .inr ⟨fun hon => UInt16.ne_of_lt hold hon.2, ?_⟩
    rcases hsender with rfl | rfl
    · exact hcounts.congr hbefore.symm rfl
    · rw [hbegun.2] at hold
      exact absurd hold (Nat.not_lt_zero _)
  | grantedRead hrole =>
    refine .inr ⟨?_, ?_⟩
    · rintro ⟨-, hupload⟩
      exact nomatch hrole.symm.trans hupload
    · rw [hbegun.1]
      rfl
  | firstBlock hrole htake =>
    refine .inl ⟨.inr ⟨hbefore, hrole, rfl⟩, htake.counts ?_ hphase⟩
    rw [hbegun.1]
    rfl
  | grantedWrite hrole _ hgive =>
    refine .inl ⟨⟨hbefore, hrole⟩, hgive.counts ?_⟩
    rw [hbegun.1]
    rfl
  | firstAck hrole hgive =>
    refine .inl ⟨⟨.inr (.inr ⟨hbefore, hrole⟩), hbegun.2.symm⟩, hgive.counts ?_⟩
    rw [hbegun.1]
    rfl
  | strayAck _ hzero =>
    exact .inr ⟨fun hon => hzero (hon.2.trans hbegun.2), hcounts.congr hbefore.symm rfl⟩
  | offered | served | created => exact hbegun.elim

theorem Drop.counts {bytes : Bytes} (h : Drop source bytes scene scene')
    (hcounts : scene.session.Counts k) : scene'.session.Counts k := by
  cases h <;> exact hcounts

theorem Repeat.counts (h : Repeat scene scene') (hcounts : scene.session.Counts k) :
    scene'.session.Counts k := by
  cases h <;> exact hcounts

/-- What was dropped is not counted. -/
theorem Drop.not_isMovedBy {bytes : Bytes} (h : Drop source bytes scene scene') :
    ¬ scene.session.IsMovedBy (.datagram source bytes) := by
  rintro ⟨source', bytes', packet, harrival, hown, hread, -⟩
  obtain ⟨rfl, rfl⟩ := Arrival.datagram.inj harrival
  cases h with
  | foreign hforeign => exact nomatch hown.symm.trans hforeign
  | unreadable _ hunread => exact nomatch hread.symm.trans hunread

/-- **One step.** -/
theorem Move.counts {arrival : Arrival} (h : Move arrival scene scene')
    (hcounts : scene.session.Counts k) (hphase : scene'.session.phase.isTerminal = false) :
    scene.session.IsMovedBy arrival ∧ scene'.session.Counts (k + 1) ∨
      ¬ scene.session.IsMovedBy arrival ∧ scene'.session.Counts k := by
  cases h with
  | @handled source bytes packet _ _ _ hown hread hturn =>
    have hturn := hturn.counts (k := k) (by rw [Scene.showing_session]; rfl)
      (by rw [Scene.showing_session]; exact hcounts) hphase
    rw [Scene.showing_session] at hturn
    refine hturn.imp (And.imp_left fun hon => ⟨_, _, packet, rfl, hown, hread, hon⟩)
      (And.imp_left fun hstays => ?_)
    rintro ⟨source', bytes', packet', harrival, -, hread', hon⟩
    obtain ⟨rfl, rfl⟩ := Arrival.datagram.inj harrival
    obtain rfl := Except.ok.inj (hread.symm.trans hread')
    exact hstays hon
  | dropped hdrop => exact .inr ⟨hdrop.not_isMovedBy, hdrop.counts hcounts⟩
  | impatient hdrop _ hrepeat =>
    exact .inr ⟨hdrop.not_isMovedBy, hrepeat.counts (hdrop.counts hcounts)⟩
  | silent hrepeat =>
    refine .inr ⟨?_, hrepeat.counts hcounts⟩
    rintro ⟨_, _, _, harrival, -⟩
    exact nomatch harrival

/-- A server that sends a reader block 1 at once has begun to count. -/
theorem Turn.counts_idle {packet : Packet} {phase : Phase}
    (h : Turn source scene .idle packet phase scene') :
    (scene'.enter phase).session.Counts (if phase = .awaitingAck then 1 else 0) := by
  cases h with
  | offered => exact ⟨rfl, rfl⟩
  | served _ _ _ hgive =>
    cases hgive
    exact ⟨Nat.le_refl 1, rfl⟩
  | created => exact rfl
  | lastAck hphase | ack hphase | oldAck hphase => exact nomatch hphase

variable {session s : Session} {opening : Opening} {host : Host}

theorem Opened.counts (hbegins : Begins session opening)
    (h : Opened opening ⟨session, host, []⟩ scene) :
    scene.session.Counts (if scene.session.phase = .awaitingAck then 1 else 0) := by
  cases hbegins with
  | download | upload =>
    cases h
    exact ⟨rfl, rfl⟩
  | serve =>
    rcases h with _ | hturn
    exact Turn.counts_idle hturn

/-- **The count and the number.**  Whatever happens to a session, the number of its next block
follows from how many blocks it has moved. -/
theorem Moved.counts (hbegins : Begins session opening) (h : Moved session opening k s) :
    s.Counts k := by
  induction h with
  | start hrun =>
    obtain ⟨scene, hopened, -, rfl⟩ := (Run.start_outcome _ _ _).waiting hrun
    exact hopened.counts hbegins
  | on _ hon hrun ih =>
    obtain ⟨scene, hmove, hphase, rfl⟩ := (Run.step_outcome _ _ _).waiting hrun
    exact ((hmove.counts ih hphase).resolve_right fun hstays => hstays.1 hon).2
  | stay _ hstays hrun ih =>
    obtain ⟨scene, hmove, hphase, rfl⟩ := (Run.step_outcome _ _ _).waiting hrun
    exact ((hmove.counts ih hphase).resolve_left fun hon => hstays hon.1).2

/-! ### Packets that come again -/

theorem Tally.exceeds_note (t : Tally) (block : UInt16) :
    (t.note block).exceeds block = decide (mostDuplicates ≤ t.count block) := by
  rw [exceeds, count_note, if_pos rfl]
  exact decide_eq_decide.2 Nat.lt_succ_iff

/-- A session has put up with a packet about a block: it has noted the block as a duplicate, has
sent some letters, and is otherwise as it was. -/
structure Session.Overlooks (s : Session) (block : UInt16) (host : Host) (letters : List Datagram)
    (result : Run × Host × List Deed) : Prop where
  run : result.1 = .waiting { s with
    tally := s.tally.note block, retries := 0, heardAt := host.clock + 1 }
  files : host.SameFiles result.2.1
  sent : World.sent result.2.2 = letters

/-- A session puts up with a packet about a block if it can send its letters, unless the block was
noted too often. -/
structure Session.Tolerates (s : Session) (block : UInt16) (host : Host) (letters : List Datagram)
    (result : Run × Host × List Deed) : Prop where
  few : s.tally.count block < Tally.mostDuplicates →
    (∀ letter ∈ letters, (host.transmit letter).1 = none) → s.Overlooks block host letters result
  many : Tally.mostDuplicates ≤ s.tally.count block →
    ∃ tally, result.1 = .ended (.failed (.tooManyDuplicates block) tally)

section Again

variable {block : UInt16} {payload bytes : Bytes}

/-- A packet about a block that was there before, noted too often. -/
theorem Act.run_handle_many {packet : Packet}
    (hagain : (∃ payload, packet = .data block payload ∧ scene.session.phase = .awaitingData ∧
        block ≠ 0) ∨
      packet = .ack block ∧ scene.session.phase = .awaitingAck)
    (hold : block < scene.session.nextBlock)
    (hmany : (scene.session.tally.note block).exceeds block = true) :
    (handle packet source).run scene = .error (.failure (.tooManyDuplicates block))
      (scene.become (scene.session.noted block)) := by
  have hnote : (noteDuplicate block).run scene = .error (.failure (.tooManyDuplicates block))
      (scene.become (scene.session.noted block)) := by
    rw [run_noteDuplicate]
    exact if_pos hmany
  unfold handle
  refine (run_bind_of (run_session scene)).trans ?_
  rcases hagain with ⟨payload, rfl, hphase, hzero⟩ | ⟨rfl, hphase⟩
  · rw [hphase]
    refine (run_bind_of (run_session scene)).trans ?_
    rw [if_neg (UInt16.ne_of_lt hold), if_pos hold, if_neg hzero]
    exact run_bind_error hnote
  · rw [hphase]
    refine (run_bind_of (run_session scene)).trans ?_
    rw [if_neg (UInt16.ne_of_lt hold), if_pos hold]
    exact run_bind_error hnote

theorem Run.step_many {packet : Packet}
    (hagain : (∃ payload, packet = .data block payload ∧ s.phase = .awaitingData ∧ block ≠ 0) ∨
      packet = .ack block ∧ s.phase = .awaitingAck)
    (hold : block < s.nextBlock) (hown : s.isForeign source = false)
    (hread : Packet.decode (bytes.take Act.longestPacket) = .ok packet)
    (hmany : Tally.mostDuplicates ≤ s.tally.count block) :
    ∃ tally, ((Run.waiting s).step (.datagram source bytes) host).1 =
      .ended (.failed (.tooManyDuplicates block) tally) := by
  obtain ⟨deeds, -, hscene⟩ := Scene.heard_showing s host packet
  have hmany : (s.tally.note block).exceeds block = true := by
    rw [Tally.exceeds_note]
    exact decide_eq_true hmany
  rw [Run.step_failed hown hread (by
    rw [hscene]
    exact Act.run_handle_many hagain hold hmany), Run.finish_some]
  exact ⟨_, rfl⟩

/-- A receiver that gets a block once more acknowledges it once more. -/
theorem Session.tolerates_block (hphase : s.phase = .awaitingData) (hzero : block ≠ 0)
    (hold : block < s.nextBlock) (hown : s.isForeign source = false)
    (hread : Packet.decode (bytes.take Act.longestPacket) = .ok (.data block payload)) :
    s.Tolerates block host [s.letter (.ack block)]
      ((Run.waiting s).step (.datagram source bytes) host) where
  few := by
    intro hfew hsend
    have hfew : (s.tally.note block).exceeds block = false := by
      rw [Tally.exceeds_note]
      exact decide_eq_false (Nat.not_le_of_lt hfew)
    obtain ⟨deeds, hsilent, hstep⟩ := Run.step_heard hown hread host
    rw [hstep _ _ (.of_phase hphase (.oldBlock hzero hold hfew (hsend _ List.mem_cons_self))),
      Run.rest_waiting rfl, ← hphase]
    refine ⟨rfl, ⟨rfl, rfl⟩, (World.sent_append deeds _).trans ?_⟩
    rw [hsilent]
    rfl
  many := Run.step_many (.inl ⟨payload, rfl, hphase, hzero⟩) hold hown hread

/-- A sender that gets an acknowledgement once more does nothing about it. -/
theorem Session.tolerates_ack (hphase : s.phase = .awaitingAck) (hold : block < s.nextBlock)
    (hown : s.isForeign source = false)
    (hread : Packet.decode (bytes.take Act.longestPacket) = .ok (.ack block)) :
    s.Tolerates block host [] ((Run.waiting s).step (.datagram source bytes) host) where
  few := by
    intro hfew _
    have hfew : (s.tally.note block).exceeds block = false := by
      rw [Tally.exceeds_note]
      exact decide_eq_false (Nat.not_le_of_lt hfew)
    obtain ⟨deeds, hsilent, hstep⟩ := Run.step_heard hown hread host
    rw [hstep _ _ (.oldAck (.inl hphase) hold hfew), Run.rest_waiting rfl, ← hphase]
    exact ⟨rfl, ⟨rfl, rfl⟩, hsilent⟩
  many := Run.step_many (.inr ⟨rfl, hphase⟩) hold hown hread

end Again

/-- Within a lap the numbers go up. -/
theorem ofNat_lt_ofNat_succ (h : k % 65536 ≠ 65535) : UInt16.ofNat k < .ofNat (k + 1) := by
  rw [UInt16.lt_iff_toNat_lt, UInt16.toNat_ofNat', UInt16.toNat_ofNat']
  omega

/-- At the end of a lap they begin anew. -/
theorem ofNat_of_last (h : k % 65536 = 65535) :
    UInt16.ofNat k = 65535 ∧ UInt16.ofNat (k + 1) = 0 := by
  constructor
  · apply UInt16.toNat_inj.1
    rw [UInt16.toNat_ofNat']
    exact h
  · apply UInt16.toNat_inj.1
    rw [UInt16.toNat_ofNat']
    change (k + 1) % 65536 = 0
    omega

theorem ofNat_eq_zero_iff : UInt16.ofNat k = 0 ↔ k % 65536 = 0 := by
  rw [← UInt16.toNat_inj, UInt16.toNat_ofNat']
  exact Iff.rfl

/-- **What comes again.**  Let a session have moved any number of blocks, and let its peer repeat
what it said of the last but the one that is next.  A receiver acknowledges the block once more and
a sender lets the acknowledgement pass; they note it, write nothing and wait on as before, unless it
was noted too often.  Not so at the end of a lap: block 65535 is then taken for a block still to
come, by a receiver and by a sender that wait for block 0, and block 0 itself for one that cannot
be, and the session ends. -/
theorem Moved.tolerates_within_lap (hbegins : Begins session opening) (source : Endpoint)
    (bytes : Bytes) (host : Host) :
    (∀ s payload, Moved session opening k s → s.phase = .awaitingData →
      s.isForeign source = false →
      Packet.decode (bytes.take Act.longestPacket) = .ok (.data (.ofNat k) payload) →
      let result := (Run.waiting s).step (.datagram source bytes) host
      (k % 65536 ≠ 65535 → k % 65536 ≠ 0 →
        s.Tolerates (.ofNat k) host [s.letter (.ack (.ofNat k))] result) ∧
      (k % 65536 = 65535 →
        ∃ tally, result.1 = .ended (.failed (.violation (.futureBlock 65535 0)) tally)) ∧
      (k % 65536 = 0 →
        ∃ tally, result.1 = .ended (.failed (.violation .blockZero) tally))) ∧
    (∀ s, Moved session opening (k + 1) s → s.phase = .awaitingAck →
      s.isForeign source = false →
      Packet.decode (bytes.take Act.longestPacket) = .ok (.ack (.ofNat k)) →
      let result := (Run.waiting s).step (.datagram source bytes) host
      (k % 65536 ≠ 65535 → s.Tolerates (.ofNat k) host [] result) ∧
      (k % 65536 = 65535 →
        ∃ tally, result.1 = .ended (.failed (.violation (.unsentBlock 65535 0)) tally))) := by
  refine ⟨fun s payload hmoved hphase hown hread => ?_, fun s hmoved hphase hown hread => ?_⟩
  · have hnext := (hmoved.counts hbegins).receiving hphase
    refine ⟨fun hlast hzero => ?_, fun hlast => ?_, fun hzero => ?_⟩
    · exact Session.tolerates_block hphase (fun h => hzero (ofNat_eq_zero_iff.1 h))
        (hnext ▸ ofNat_lt_ofNat_succ hlast) hown hread
    · obtain ⟨hblock, hwrap⟩ := ofNat_of_last hlast
      rw [hblock] at hread
      rw [hwrap] at hnext
      have hrefuses : Refuses s (.data 65535 payload) _ := .future hphase (hnext ▸ by decide)
      rw [hnext] at hrefuses
      exact hrefuses.step hown hread host
    · rw [ofNat_eq_zero_iff.2 hzero] at hread
      have hlt := ofNat_lt_ofNat_succ (k := k) (by omega)
      rw [ofNat_eq_zero_iff.2 hzero, ← hnext] at hlt
      exact (Refuses.blockZero hphase hlt).step hown hread host
  · have hnext := (hmoved.counts hbegins).sending hphase
    refine ⟨fun hlast => ?_, fun hlast => ?_⟩
    · exact Session.tolerates_ack hphase (hnext ▸ ofNat_lt_ofNat_succ hlast) hown hread
    · obtain ⟨hblock, hwrap⟩ := ofNat_of_last hlast
      rw [hblock] at hread
      rw [hwrap] at hnext
      have hrefuses : Refuses s (.ack 65535) _ := .unsent (.inl hphase) (hnext ▸ by decide)
      rw [hnext] at hrefuses
      exact hrefuses.step hown hread host

/-! ### A file of many blocks -/

/-- The peer that sends a file. -/
def Endpoint.writer : Endpoint := ⟨.v4 127 0 0 1, 40002, 0⟩

/-- The session of a server that is sent the file. -/
def Session.takesFile : Session := .server { root := "root" } 40001 .writer {} 1

/-- The request by which it is opened. -/
def Opening.ofFile : Opening := .answer (.octetRequest .write "file" ∅) .writer

theorem begins_takesFile : Begins .takesFile .ofFile := .serve

/-- A full block of the file. -/
theorem exists_fullBlock : ∃ block : Bytes, block.length = 512 ∧
    ∀ number, (Packet.data number block).Passes := by
  have hfull : (List.replicate 512 0 : Bytes).length = 512 := List.length_replicate
  exact ⟨_, hfull, fun number => Packet.passes_data number (Nat.le_trans (Nat.le_of_eq hfull)
    (by decide))⟩

/-- However many full blocks there are, they can all be taken, and nothing twice. -/
theorem Moved.takesFile {block : Bytes} (hfull : block.length = 512)
    (hpasses : ∀ number, (Packet.data number block).Passes) : ∀ k, ∃ s,
    Moved .takesFile .ofFile k s ∧ s.phase = .awaitingData ∧
      s.stream = .writing (.file "root/file") ∧ s.terms = {} ∧ s.isForeign .writer = false ∧
      s.tally.duplicates = []
  | 0 => by
    obtain ⟨s, hrun, hphase, hrest⟩ : ∃ s, (Run.start .takesFile .ofFile {}).1 = .waiting s ∧
        s.phase = .awaitingData ∧ s.stream = .writing (.file "root/file") ∧ s.terms = {} ∧
        s.isForeign .writer = false ∧ s.tally.duplicates = [] :=
      ⟨_, rfl, rfl, rfl, rfl, rfl, rfl⟩
    have hmoved := Moved.start hrun
    rw [hphase] at hmoved
    exact ⟨s, hmoved, hphase, hrest⟩
  | k + 1 => by
    obtain ⟨s, hmoved, hphase, hstream, hterms, hown, hclean⟩ := takesFile hfull hpasses k
    have hread := (hpasses s.nextBlock).decode_take
    obtain ⟨deeds, -, hstep⟩ := Run.step_heard hown hread {}
    obtain ⟨host, hwrite⟩ : ∃ host, s.stream.write { clock := 1 } block = (none, host) := by
      rw [hstream]
      exact ⟨_, rfl⟩
    have htake := @Take.mk ⟨{ s with heardAt := 1 }, { clock := 1 }, deeds⟩ block host hwrite
      (Host.Steady.canSend (fun _ => rfl) (Packet.passes_ack _).short)
    have hsize : ¬ block.length < Session.blockSize { s with heardAt := 1 } := by
      rw [hfull, Session.blockSize, hterms]
      decide
    rw [if_neg hsize] at htake
    have hrun := hstep _ _ (.of_phase hphase (.block htake))
    rw [Run.rest_waiting rfl] at hrun
    exact ⟨_, .on hmoved ⟨_, _, _, rfl, hown, hread, .inl ⟨hphase, rfl⟩⟩ (congrArg Prod.fst hrun),
      rfl, hstream, hterms, hown, hclean⟩

theorem again_secondBlock :
    ∃ s block, Moved .takesFile .ofFile 2 s ∧ s.Overlooks 2 {} [s.letter (.ack 2)]
      ((Run.waiting s).step (.datagram .writer (Packet.data 2 block).encode) {}) := by
  obtain ⟨block, hfull, hpasses⟩ := exists_fullBlock
  obtain ⟨s, hmoved, hphase, -, -, hown, hclean⟩ := Moved.takesFile hfull hpasses 2
  have hagain := (Moved.tolerates_within_lap begins_takesFile .writer _ {}).1 s block
    hmoved hphase hown (hpasses 2).decode_take
  refine ⟨s, block, hmoved, (hagain.1 (by decide) (by decide)).few ?_ ?_⟩
  · rw [Tally.count, hclean]
    decide
  · exact fun letter hletter => List.mem_singleton.1 hletter ▸ rfl

/-- The last block of a lap, when it comes again for the first time. -/
theorem again_lastOfLap :
    ∃ s block, Moved .takesFile .ofFile 65535 s ∧ s.phase = .awaitingData ∧
      s.isForeign .writer = false ∧ s.tally.duplicates = [] ∧
      ∃ tally, ((Run.waiting s).step (.datagram .writer (Packet.data 65535 block).encode) {}).1 =
        .ended (.failed (.violation (.futureBlock 65535 0)) tally) := by
  obtain ⟨block, hfull, hpasses⟩ := exists_fullBlock
  obtain ⟨s, hmoved, hphase, -, -, hown, hclean⟩ := Moved.takesFile hfull hpasses 65535
  have hnext : s.nextBlock = 0 :=
    ((hmoved.counts begins_takesFile).receiving hphase).trans (by decide)
  have hrefuses : Refuses s (.data 65535 block) _ := .future hphase (hnext ▸ by decide)
  rw [hnext] at hrefuses
  exact ⟨s, block, hmoved, hphase, hown, hclean,
    hrefuses.step hown (hpasses 65535).decode_take {}⟩

end TrivialFtp
