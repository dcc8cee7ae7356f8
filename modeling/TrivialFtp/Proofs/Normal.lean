import TrivialFtp.Proofs.Parts
import Mathlib.Algebra.Ring.Nat

/-!
# Proofs: what reading sets right

Some datagrams are read as a packet that is written in another way: repeated options become one,
modes lose their upper case, and whatever stands after an acknowledgement or after the message of
an error is left out.  What was read is read again as it is, and a datagram in which there was
nothing to set right is written again byte by byte.

- `Utf8.nul_not_mem_repair`: setting right a text with no zero byte makes no NUL.
- `Packet.clean_of_decode`: what is read has no NUL in it and its mode is in lower case.
- `Packet.Unaltered`: the datagrams with nothing to set right.
- `Packet.decode_normalises`: they are the ones that are written again as they were.
-/

namespace TrivialFtp

/-! ### Repaired texts -/

namespace Utf8

/-- The number of the first character that an unfinished one may become. -/
def Partial.first (p : Partial) : Nat :=
  (64 * p.bits + (p.least.toNat - 0x80)) * 64 ^ (p.owed - 1)

/-- The number after that of the last character that an unfinished one may become. -/
def Partial.limit (p : Partial) : Nat :=
  (64 * p.bits + (p.most.toNat - 0x80) + 1) * 64 ^ (p.owed - 1)

/-- Whatever may follow of an unfinished character makes one, and it is not NUL.  A number past
the last character or among the surrogates would have become NUL. -/
structure Partial.Promising (p : Partial) : Prop where
  owed : 1 ≤ p.owed
  least : 0x80 ≤ p.least.toNat
  most : p.most.toNat ≤ 0xBF
  pos : 0 < p.first
  valid : p.limit ≤ 0xD800 ∨ 0xE000 ≤ p.first ∧ p.limit ≤ 0x110000

theorem ofNat_ne_nul {n : Nat} (hpos : 0 < n) (hvalid : n < 0xD800 ∨ 0xE000 ≤ n ∧ n < 0x110000) :
    Char.ofNat n ≠ '\x00' := by
  intro h
  have hn : n.isValidChar := by
    rcases hvalid with hvalid | hvalid
    · exact .inl hvalid
    · exact .inr ⟨by omega, hvalid.2⟩
  have hval : (Char.ofNat n).toNat = n := by
    rw [Char.ofNat, dif_pos hn]
    rfl
  rw [h] at hval
  exact absurd hval hpos.ne

theorem promising_of_start {b : UInt8} {p : Partial} (h : start b = .more p) : p.Promising := by
  unfold start at h
  simp only [UInt8.lt_iff_toNat_lt, ← UInt8.toNat_inj, UInt8.reduceToNat] at h
  split_ifs at h
  all_goals
    simp only [Start.more.injEq] at h
  all_goals
    subst h
    constructor
    all_goals
      simp only [Partial.first, Partial.limit, UInt8.reduceToNat]
      omega

theorem nul_not_mem_open {b : UInt8} (hb : b ≠ 0) :
    '\x00' ∉ (open? b).1 ∧ ∀ p ∈ (open? b).2, p.Promising := by
  unfold open?
  cases hstart : start b with
  | whole c =>
    refine ⟨?_, fun p hp => nomatch hp⟩
    rw [List.mem_singleton]
    obtain rfl : Char.ofNat b.toNat = c := by
      unfold start at hstart
      split_ifs at hstart
      exact Start.whole.inj hstart
    have hpos : b.toNat ≠ 0 := fun h => hb (UInt8.toNat_inj.1 h)
    have hlt := b.toNat_lt
    exact (ofNat_ne_nul (by omega) (by omega)).symm
  | more p => exact ⟨List.not_mem_nil, fun _ hp => Option.some.inj hp ▸ promising_of_start hstart⟩
  | ill => exact ⟨by decide, fun p hp => nomatch hp⟩

/-- The number read so far, with the byte `b` added to it. -/
def Partial.next (p : Partial) (b : UInt8) : Nat := 64 * p.bits + (b.toNat - 0x80)

theorem feed_next {p : Partial} {b : UInt8} (hnext : p.least ≤ b ∧ b ≤ p.most) :
    feed (some p) b =
      if p.owed = 1 then ([Char.ofNat (p.next b)], none)
      else ([], some ⟨p.owed - 1, 0x80, 0xBF, p.next b⟩) :=
  if_pos hnext

theorem feed_other {p : Partial} {b : UInt8} (hnext : ¬ (p.least ≤ b ∧ b ≤ p.most)) :
    feed (some p) b = (replacement :: (open? b).1, (open? b).2) :=
  if_neg hnext

namespace Partial.Promising

variable {p : Partial} {b : UInt8}

/-- Each further byte narrows down what the character may become. -/
theorem next_bounds (h : p.Promising) (hnext : p.least ≤ b ∧ b ≤ p.most) :
    p.first ≤ p.next b * 64 ^ (p.owed - 1) ∧ (p.next b + 1) * 64 ^ (p.owed - 1) ≤ p.limit := by
  obtain ⟨hfrom, hto⟩ := hnext
  rw [UInt8.le_iff_toNat_le] at hfrom hto
  have hleast := h.least
  unfold Partial.first Partial.limit Partial.next
  constructor
  · exact Nat.mul_le_mul_right _ (by omega)
  · exact Nat.mul_le_mul_right _ (by omega)

/-- With its last byte the character is there. -/
theorem last (h : p.Promising) (hnext : p.least ≤ b ∧ b ≤ p.most) (hlast : p.owed = 1) :
    Char.ofNat (p.next b) ≠ '\x00' := by
  obtain ⟨hfirst, hlimit⟩ := h.next_bounds hnext
  simp only [hlast, Nat.sub_self, Nat.pow_zero, Nat.mul_one] at hfirst hlimit
  have hpos := h.pos
  have hvalid := h.valid
  exact ofNat_ne_nul (by omega) (by omega)

/-- With any byte before that it is still unfinished. -/
theorem further (h : p.Promising) (hnext : p.least ≤ b ∧ b ≤ p.most) (hlast : p.owed ≠ 1) :
    Promising ⟨p.owed - 1, 0x80, 0xBF, p.next b⟩ := by
  obtain ⟨hfirst, hlimit⟩ := h.next_bounds hnext
  have howed := h.owed
  have hpower : 64 ^ (p.owed - 1) = 64 * 64 ^ (p.owed - 1 - 1) := by
    rw [← Nat.pow_succ']
    congr 1
    omega
  rw [hpower, ← Nat.mul_assoc, Nat.mul_comm _ 64] at hfirst hlimit
  have hfull : 64 * p.next b + 63 + 1 = 64 * (p.next b + 1) := by omega
  have hpos := h.pos
  have hvalid := h.valid
  constructor
  case owed =>
    change 1 ≤ p.owed - 1
    omega
  all_goals
    simp only [Partial.first, Partial.limit, UInt8.reduceToNat, Nat.reduceSub, Nat.add_zero, hfull]
  all_goals omega

end Partial.Promising

theorem nul_not_mem_feed {unfinished : Option Partial} (hp : ∀ p ∈ unfinished, p.Promising)
    {b : UInt8} (hb : b ≠ 0) :
    '\x00' ∉ (feed unfinished b).1 ∧ ∀ p ∈ (feed unfinished b).2, p.Promising := by
  cases unfinished with
  | none => exact nul_not_mem_open hb
  | some p =>
    have hp := hp p rfl
    by_cases hnext : p.least ≤ b ∧ b ≤ p.most
    · rw [feed_next hnext]
      by_cases hlast : p.owed = 1
      · rw [if_pos hlast]
        refine ⟨?_, fun q hq => nomatch hq⟩
        rw [List.mem_singleton]
        exact (hp.last hnext hlast).symm
      · rw [if_neg hlast]
        refine ⟨List.not_mem_nil, ?_⟩
        rintro _ ⟨⟩
        exact hp.further hnext hlast
    · rw [feed_other hnext]
      obtain ⟨hchars, hrest⟩ := nul_not_mem_open hb
      refine ⟨?_, hrest⟩
      rw [List.mem_cons, not_or]
      exact ⟨by decide, hchars⟩

theorem nul_not_mem_scan {bytes : Bytes} (h : 0 ∉ bytes) :
    ∀ {unfinished : Option Partial}, (∀ p ∈ unfinished, p.Promising) →
      '\x00' ∉ scan unfinished bytes := by
  induction bytes with
  | nil =>
    intro unfinished _
    cases unfinished with
    | none => exact List.not_mem_nil
    | some p =>
      rw [scan, List.mem_singleton]
      decide
  | cons b bytes ih =>
    intro unfinished hp
    rw [List.mem_cons, not_or] at h
    obtain ⟨hchars, hrest⟩ := nul_not_mem_feed hp fun e => h.1 e.symm
    rw [scan, List.mem_append, not_or]
    exact ⟨hchars, ih h.2 hrest⟩

/-- Setting right a text with no zero byte makes no NUL. -/
theorem nul_not_mem_repair {bytes : Bytes} (h : 0 ∉ bytes) : '\x00' ∉ (repair bytes).toList := by
  rw [repair]
  cases hread : decode? bytes with
  | none =>
    rw [Option.getD_none, String.toList_ofList]
    refine nul_not_mem_scan h ?_
    rintro p ⟨⟩
  | some s => rwa [Option.getD_some, ← zero_mem_encode_iff, encode_of_decode? hread]

end Utf8

/-! ### Packets -/

/-- A body is made of texts without NUL, each closed by a zero byte. -/
structure Field.Spells (body : Bytes) (texts : List String) : Prop where
  eq : body = join texts
  clean : ∀ s ∈ texts, '\x00' ∉ s.toList

namespace Packet

theorem withWord_ok {kind : Opcode} {body : Bytes} {k : UInt16 → Bytes → Packet} {p : Packet}
    (h : withWord kind body k = .ok p) :
    ∃ word rest, body = Word.toBytes word ++ rest ∧ p = k word rest := by
  unfold withWord at h
  split at h
  · next high low rest =>
    refine ⟨Word.ofBytes high low, rest, ?_, (Except.ok.inj h).symm⟩
    rw [Word.toBytes, Word.high_ofBytes, Word.low_ofBytes]
    rfl
  · cases h

theorem decode_ok {b : Bytes} {p : Packet} (h : decode b = .ok p) :
    ∃ body, b = Word.toBytes p.opcode.code ++ body ∧ ofBody p.opcode body = .ok p := by
  rcases kind_cases b with hshort | ⟨high, low, body, rfl, hcode⟩ | ⟨kind, body, rfl⟩
  · exact nomatch (decode_of_short hshort).symm.trans h
  · exact nomatch (decode_of_unknown hcode).symm.trans h
  · rw [decode_append] at h
    obtain rfl := opcode_ofBody h
    exact ⟨body, rfl, h⟩

/-- The message of an error that is read has no NUL in it. -/
theorem nul_not_mem_messageOf (bytes : Bytes) : '\x00' ∉ (messageOf bytes).toList := by
  refine Utf8.nul_not_mem_repair fun hmem => ?_
  have hne := List.mem_takeWhile_imp hmem
  exact of_decide_eq_true hne rfl

/-- What is read has no NUL in it, and its mode is in lower case. -/
theorem clean_of_decode {b : Bytes} {p : Packet} (h : decode b = .ok p) :
    (∀ s ∈ p.texts, '\x00' ∉ s.toList) ∧ ∀ mode ∈ p.mode?, Letters.fold mode = mode := by
  obtain ⟨body, -, hread⟩ := decode_ok h
  cases p with
  | request direction filename mode options =>
    have hread : Field.split body >>= requestOfFields direction =
        .ok (request direction filename mode options) := by
      cases direction <;> exact hread
    cases hsplit : Field.split body with
    | error m => exact nomatch hsplit ▸ hread
    | ok fields => exact clean_of_requestOfFields (Field.split_clean hsplit) (hsplit ▸ hread)
  | data block payload => exact ⟨fun _ hs => absurd hs List.not_mem_nil, fun _ hm => nomatch hm⟩
  | ack block => exact ⟨fun _ hs => absurd hs List.not_mem_nil, fun _ hm => nomatch hm⟩
  | error code message =>
    change withWord .error body (fun code rest => .error code (messageOf rest)) = _ at hread
    obtain ⟨word, rest, -, hp⟩ := withWord_ok hread
    obtain ⟨-, rfl⟩ := error.inj hp
    exact ⟨List.forall_mem_singleton.2 (nul_not_mem_messageOf rest), fun _ hm => nomatch hm⟩
  | optionAck options =>
    exact ⟨clean_of_optionAck hread, fun _ hm => nomatch hm⟩

/-- A datagram in which nothing is altered when it is read as this packet: nothing follows the
number of an acknowledgement, one NUL and nothing else follows the message of an error, which is
well formed, no two options are of one name, and no mode has a letter of the upper case. -/
def Unaltered (b : Bytes) : Packet → Prop
  | data .. => True
  | ack _ => b.length = 4
  | error .. => ∃ s, '\x00' ∉ s.toList ∧ b.drop 4 = Field.encode s
  | optionAck _ => ∃ entries, Field.Spells (b.drop 2) (entries.flatMap fun e => [e.1, e.2]) ∧
    (Options.folded entries).Nodup
  | request .. => ∃ filename mode entries,
    Field.Spells (b.drop 2) (filename :: mode :: entries.flatMap fun e => [e.1, e.2]) ∧
      (Options.folded entries).Nodup ∧ ∀ c ∈ mode.toList, c.isUpper = false

/-- A packet that is read back from its own datagram is unaltered in it. -/
theorem unaltered_encode {p : Packet} (hclean : ∀ s ∈ p.texts, '\x00' ∉ s.toList)
    (hmode : ∀ mode ∈ p.mode?, Letters.fold mode = mode) : Unaltered p.encode p := by
  cases p with
  | request direction filename mode options =>
    refine ⟨filename, mode, options.entries, ⟨?_, hclean⟩, options.distinct,
      (Letters.fold_eq_self_iff mode).1 (hmode mode rfl)⟩
    rw [encode_request]
    rfl
  | data block payload => trivial
  | ack block => rfl
  | error code message => exact ⟨message, hclean message List.mem_cons_self, rfl⟩
  | optionAck options => exact ⟨options.entries, ⟨options.encode_eq_join, hclean⟩, options.distinct⟩

/-- The datagram of a packet that is read back is the datagram of what is read of it. -/
theorem encode_eq_of_written {b : Bytes} {p : Packet} (hread : decode b = .ok p) (q : Packet)
    (hwritten : q.encode = b) (hclean : ∀ s ∈ q.texts, '\x00' ∉ s.toList)
    (hmode : ∀ mode ∈ q.mode?, Letters.fold mode = mode) : p.encode = b := by
  rw [← hwritten, decode_encode hclean hmode] at hread
  rw [← Except.ok.inj hread, hwritten]

/-- A datagram in which nothing is altered is that of the packet that is read. -/
theorem encode_eq_of_unaltered {b : Bytes} {p : Packet} (hread : decode b = .ok p)
    (h : Unaltered b p) : p.encode = b := by
  obtain ⟨body, rfl, hbody⟩ := decode_ok hread
  cases p with
  | request direction filename mode options =>
    obtain ⟨filename', mode', entries, ⟨heq, hclean⟩, hdistinct, hlower⟩ := h
    change body = _ at heq
    have hwritten : (request direction filename' mode' ⟨entries, hdistinct⟩).encode =
        Word.toBytes (request direction filename mode options).opcode.code ++ body := by
      rw [encode_request, heq]
      cases direction <;> rfl
    refine encode_eq_of_written hread _ hwritten hclean ?_
    rintro _ ⟨⟩
    exact (Letters.fold_eq_self_iff mode').2 hlower
  | data block payload =>
    change withWord .data body data = _ at hbody
    obtain ⟨word, rest, rfl, hp⟩ := withWord_ok hbody
    obtain ⟨rfl, rfl⟩ := data.inj hp
    rfl
  | ack block =>
    change withWord .ack body (fun block _ => .ack block) = _ at hbody
    obtain ⟨word, rest, rfl, hp⟩ := withWord_ok hbody
    obtain rfl := ack.inj hp
    obtain rfl : rest = [] := by simpa [Unaltered, Word.toBytes] using h
    rfl
  | error code message =>
    change withWord .error body (fun code rest => .error code (messageOf rest)) = _ at hbody
    obtain ⟨word, rest, rfl, hp⟩ := withWord_ok hbody
    obtain ⟨rfl, -⟩ := error.inj hp
    obtain ⟨s, hs, rfl⟩ := h
    refine encode_eq_of_written hread (error code s) rfl (List.forall_mem_singleton.2 hs) ?_
    rintro _ ⟨⟩
  | optionAck options =>
    obtain ⟨entries, ⟨heq, hclean⟩, hdistinct⟩ := h
    change body = _ at heq
    have hwritten : (optionAck ⟨entries, hdistinct⟩).encode =
        Word.toBytes (optionAck options).opcode.code ++ body := by
      rw [encode, Options.encode_eq_join, heq]
      rfl
    refine encode_eq_of_written hread _ hwritten hclean ?_
    rintro _ ⟨⟩

/-- **What reading sets right.**  What has been read of a datagram is read of its own datagram
again.  The two are the same exactly when nothing was altered. -/
theorem decode_normalises {b : Bytes} {p : Packet} (h : decode b = .ok p) :
    decode p.encode = .ok p ∧ (p.encode = b ↔ Unaltered b p) := by
  obtain ⟨hclean, hmode⟩ := clean_of_decode h
  refine ⟨decode_encode hclean hmode, fun heq => ?_, encode_eq_of_unaltered h⟩
  have hsame := unaltered_encode hclean hmode
  rwa [heq] at hsame

/-- A request that asks for a block size twice, in letters of either case, as it names its mode. -/
def askedTwice : Bytes :=
  Word.toBytes 1 ++ Field.join ["a", "Octet", "blksize", "8", "BLKSIZE", "9"]

/-- The last value is the one that is asked for, in place of the first. -/
def askedOnce : Packet := octetRequest .read "a" (.ofList [("blksize", "9")])

theorem decode_askedTwice : decode askedTwice = .ok askedOnce := by decide

theorem altered_askedTwice :
    decode askedTwice = .ok askedOnce ∧ decode askedOnce.encode = .ok askedOnce ∧
      ¬ Unaltered askedTwice askedOnce := by
  obtain ⟨hback, hiff⟩ := decode_normalises decode_askedTwice
  exact ⟨decode_askedTwice, hback, hiff.not.1 (by decide)⟩

/-- Part of a character in a message that is followed by more is set right. -/
example : decode [0, 5, 0, 1, 0x66, 0xF0, 0x9F, 0x98, 0, 7] = .ok (error 1 "f\uFFFD") := by decide

end Packet

end TrivialFtp
