import TrivialFtp.Proofs.Finishes

/-!
# Proofs: the blocks that arrive

Which block an arrival brings a session to write, how the blocks that were accepted are numbered,
and which of them an acknowledgement may be about.

- `Session.block?`: the block that an arrival brings, if it brings one.
- `Numbered`, `Recent`: the numbers of the blocks, and those of the last ones.
- `World.acks`: the acknowledgements that were to go out.
-/

namespace TrivialFtp

namespace Session

/-- The number of the block that a session is ready to write. -/
def expected? (s : Session) : Option UInt16 :=
  match s.phase, s.role with
  | .awaitingData, _ => some s.nextBlock
  | .requested, .download => some 1
  | _, _ => none

/-- The block that a packet brings a session to write, with its payload. -/
def wanted? (s : Session) : Packet → Option (UInt16 × Bytes)
  | .data block payload => if s.expected? = some block then some (block, payload) else none
  | _ => none

/-- The block that an arrival brings a session to write. -/
def block? (s : Session) : Arrival → Option (UInt16 × Bytes)
  | .datagram source bytes =>
    if s.isForeign source then none
    else
      match Packet.decode (bytes.take Act.longestPacket) with
      | .ok packet => s.wanted? packet
      | .error _ => none
  | .silence | .fault _ => none

/-- The block size in force when a block is accepted: a download that is sent a block at once was
granted nothing. -/
def sizeInForce (s : Session) : Nat :=
  if s.phase = .requested then BlockSize.standard.size else s.blockSize

variable {s : Session} {block : UInt16} {payload : Bytes} {arrival : Arrival} {packet : Packet}

/-- The number that is expected is that of the block that would be taken. -/
theorem expected?_eq_some_iff : s.expected? = some block ↔ s.Expects block := by
  unfold expected? Expects
  split
  · next hphase => simp [hphase, eq_comm]
  · next hphase hrole => simp [hphase, hrole, eq_comm]
  · next hphase hrole =>
    refine ⟨nofun, fun h => h.elim (fun h => ?_) fun h => ?_⟩
    · exact absurd h.1 (hphase ·)
    · exact absurd h.2.1 (hrole h.1)

/-- A packet is wanted if it is the block that is expected. -/
theorem wanted?_eq_some_iff :
    s.wanted? packet = some (block, payload) ↔ packet = .data block payload ∧ s.Expects block := by
  rw [← expected?_eq_some_iff]
  cases packet with
  | data block' payload' =>
    rw [wanted?]
    split
    · next hexpected =>
      rw [Option.some_inj, Prod.mk.injEq, Packet.data.injEq]
      refine ⟨?_, And.left⟩
      rintro ⟨rfl, rfl⟩
      exact ⟨⟨rfl, rfl⟩, hexpected⟩
    · next hunexpected =>
      refine ⟨nofun, ?_⟩
      rintro ⟨⟨⟩, hexpected⟩
      exact absurd hexpected hunexpected
  | _ => exact ⟨nofun, fun h => nomatch h.1⟩

/-- Any other packet is not. -/
theorem wanted?_eq_none_iff :
    s.wanted? packet = none ↔
      ∀ block payload, packet = .data block payload → ¬ s.Expects block := by
  rw [Option.eq_none_iff_forall_ne_some]
  exact ⟨fun h block payload hpacket hexpects =>
      h (block, payload) (wanted?_eq_some_iff.2 ⟨hpacket, hexpects⟩),
    fun h b hb => h b.1 b.2 (wanted?_eq_some_iff.1 hb).1 (wanted?_eq_some_iff.1 hb).2⟩

/-- What an arrival brings is seen by the packet that is got. -/
theorem Gets.block? (h : s.Gets arrival packet) : s.block? arrival = s.wanted? packet := by
  obtain ⟨source, bytes, rfl, hown, hread⟩ := h
  simp only [Session.block?, hown, hread, Bool.false_eq_true, if_false]

/-- Only a packet brings a block. -/
theorem gets_of_block? (h : s.block? arrival ≠ none) : ∃ packet, s.Gets arrival packet := by
  match arrival with
  | .datagram source bytes =>
    dsimp only [block?] at h
    split at h
    · exact absurd rfl h
    · next hown =>
      split at h
      · next packet hread => exact ⟨packet, source, bytes, rfl, Bool.eq_false_iff.2 hown, hread⟩
      · exact absurd rfl h
  | .silence | .fault _ => exact absurd rfl h

/-- An arrival brings a block if its packet is got and is the one expected. -/
theorem block?_eq_some_iff :
    s.block? arrival = some (block, payload) ↔
      s.Gets arrival (.data block payload) ∧ s.Expects block := by
  constructor
  · intro h
    obtain ⟨packet, hgets⟩ := gets_of_block? (Option.ne_none_iff_exists'.2 ⟨_, h⟩)
    obtain ⟨rfl, hexpects⟩ := wanted?_eq_some_iff.1 (hgets.block? ▸ h)
    exact ⟨hgets, hexpects⟩
  · rintro ⟨hgets, hexpects⟩
    rw [hgets.block?]
    exact wanted?_eq_some_iff.2 ⟨rfl, hexpects⟩

end Session

namespace Run

/-- The block that an arrival brings a run to write. -/
def block? : Run → Arrival → Option (UInt16 × Bytes)
  | waiting s, arrival => s.block? arrival
  | ended _, _ => none

/-- What an arrival brings to be written can be written. -/
def Writes : Run → Arrival → Host → Prop
  | waiting s, arrival, host =>
    ∀ block payload, s.block? arrival = some (block, payload) →
      (s.stream.write host payload).1 = none
  | ended _, _, _ => True

end Run

/-- What blocks make up. -/
def contentOf (blocks : List (UInt16 × Bytes)) : Bytes := blocks.flatMap Prod.snd

/-- The blocks are numbered from 1 on. -/
def Numbered (blocks : List (UInt16 × Bytes)) : Prop :=
  blocks.map Prod.fst = (List.range blocks.length).map fun i => .ofNat (i + 1)

/-- The number of one of the last blocks, when `k` were written, and 0 when there were none.  They
are so few that the number of the next block is none of theirs. -/
def Recent (k : Nat) (n : UInt16) : Prop :=
  ∃ j ≤ k, n = .ofNat j ∧ k < j + 65535 ∧ (j = 0 → k = 0)

/-- The number of the acknowledgement that was to go out. -/
def Deed.ack? (d : Deed) : Option UInt16 :=
  d.letter?.bind fun letter =>
    match Packet.decode letter.bytes with
    | .ok (.ack n) => some n
    | _ => none

/-- The numbers of the acknowledgements that were to go out, whether they did or not, in order. -/
def World.acks (deeds : List Deed) : List UInt16 := deeds.filterMap Deed.ack?

section

variable {blocks : List (UInt16 × Bytes)} {block n : UInt16} {payload : Bytes} {k : Nat}
  {deeds deeds' : List Deed}

/-- A block more is its payload at the end. -/
theorem contentOf_append_singleton :
    contentOf (blocks ++ [(block, payload)]) = contentOf blocks ++ payload := by
  simp [contentOf]

/-- Blocks are numbered one after the other. -/
theorem Numbered.append_singleton (h : Numbered blocks) :
    Numbered (blocks ++ [(.ofNat (blocks.length + 1), payload)]) := by
  unfold Numbered at h ⊢
  rw [List.map_append, h, List.length_append, List.length_singleton, List.range_succ,
    List.map_append]
  rfl

/-- The last block is a recent one. -/
theorem Recent.self : Recent k (.ofNat k) := ⟨k, Nat.le_refl k, rfl, by omega, id⟩

/-- The next block is none of the last ones, although numbers come again. -/
theorem Recent.ne_next (h : Recent k n) : n ≠ .ofNat (k + 1) := by
  obtain ⟨j, hle, rfl, hlap, -⟩ := h
  intro heq
  have hsame : j % 65536 = (k + 1) % 65536 := by
    simpa only [UInt16.toNat_ofNat'] using congrArg UInt16.toNat heq
  omega

/-- A number that comes before that of the next block, and is not 0, is of this lap. -/
theorem Recent.of_lt (hn : n ≠ 0) (hlt : n < .ofNat (k + 1)) : Recent k n := by
  have hlt : n.toNat < (k + 1) % 65536 := by
    rw [UInt16.lt_iff_toNat_lt, UInt16.toNat_ofNat'] at hlt
    exact hlt
  have hpos : n.toNat ≠ 0 := fun h => hn (UInt16.toNat_inj.1 h)
  refine ⟨k + 1 - (k + 1) % 65536 + n.toNat, by omega, UInt16.toNat_inj.1 ?_, by omega, by omega⟩
  rw [UInt16.toNat_ofNat']
  change n.toNat = _ % 65536
  omega

/-! ### Acknowledgements on record -/

/-- Only an acknowledgement is read as one. -/
theorem Packet.eq_ack_of_decode {p : Packet} (h : decode p.encode = .ok (.ack n)) : p = .ack n := by
  have hkind := opcode_decode h
  cases p with
  | ack m => exact Except.ok.inj ((decode_encode_ack m).symm.trans h)
  | request direction => cases direction <;> exact nomatch hkind
  | _ => exact nomatch hkind

namespace World

/-- The acknowledgements of two records are those of the one and then those of the other. -/
theorem acks_append (deeds deeds' : List Deed) :
    acks (deeds ++ deeds') = acks deeds ++ acks deeds' := List.filterMap_append

/-- Deeds that put nothing on the wire acknowledge nothing. -/
theorem Hushed.acks (h : Hushed deeds deeds') : World.acks deeds' = World.acks deeds := by
  obtain ⟨more, rfl, hmore⟩ := h
  have hnone : World.acks more = [] := by
    refine List.filterMap_eq_nil_iff.2 fun d hd => ?_
    rw [Deed.ack?, List.filterMap_eq_nil_iff.1 hmore d hd, Option.bind_none]
  rw [acks_append, hnone, List.append_nil]

/-- A deed about a packet acknowledges what the packet does. -/
theorem mem_acks_deed {d : Deed} {letter : Datagram} {p : Packet}
    (hletter : d.letter? = some letter) (hbytes : letter.bytes = p.encode)
    (hn : n ∈ acks (deeds ++ [d])) :
    n ∈ acks deeds ∨ p = .ack n := by
  rw [acks_append] at hn
  refine (List.mem_append.1 hn).imp id fun hnew => ?_
  obtain ⟨_, hd, hack⟩ := List.mem_filterMap.1 hnew
  obtain rfl := List.mem_singleton.1 hd
  rw [Deed.ack?, hletter, Option.bind_some, hbytes] at hack
  split at hack
  · next hread => exact Option.some.inj hack ▸ Packet.eq_ack_of_decode hread
  · exact nomatch hack

end World

end

end TrivialFtp
