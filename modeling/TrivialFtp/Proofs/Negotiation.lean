import Mathlib.Data.List.Nodup
import TrivialFtp.Proofs.Granting
import TrivialFtp.Proofs.Refusals

/-!
# Proofs: what a server grants and what a client accepts

The two sides of a negotiation, said of the texts of the options.  A server goes through what is
requested and a client through what is granted, one entry after the other; since no name is there
twice, what either of them settles for a name is said by the one entry of that name.

- `Numeral.readTrimmed?_eq_some_iff`: which texts stand for a number.
- `Terms.offer_itemised`: what a server grants.
- `Act.handle_vets`: what a client accepts.
-/

namespace TrivialFtp

/-! ### Numbers between blanks -/

namespace Blank

theorem dropWhile_blanks {blanks rest : List Char} (hblanks : ∀ c ∈ blanks, isBlank c = true)
    (hrest : ∀ c ∈ rest.head?, isBlank c = false) : (blanks ++ rest).dropWhile isBlank = rest := by
  rw [List.dropWhile_append_of_pos hblanks]
  cases rest with
  | nil => rfl
  | cons c rest => exact List.dropWhile_cons_of_neg (Bool.eq_false_iff.1 (hrest c rfl))

/-- Blanks around a text that neither begins nor ends with one are what is dropped. -/
theorem toList_trim {s : String} {before core after : List Char}
    (hs : s.toList = before ++ core ++ after) (hbefore : ∀ c ∈ before, isBlank c = true)
    (hafter : ∀ c ∈ after, isBlank c = true) (hcore : core ≠ [])
    (hends : ∀ c ∈ core.head?.toList ++ core.getLast?.toList, isBlank c = false) :
    (trim s).toList = core := by
  have hfirst : ∀ c ∈ (core ++ after).head?, isBlank c = false := by
    intro c hc
    obtain ⟨first, rest, rfl⟩ := List.exists_cons_of_ne_nil hcore
    exact hends c (List.mem_append_left _ (Option.mem_toList.2 hc))
  have hlast : ∀ c ∈ core.reverse.head?, isBlank c = false := by
    intro c hc
    rw [List.head?_reverse] at hc
    exact hends c (List.mem_append_right _ (Option.mem_toList.2 hc))
  have hafter' : ∀ c ∈ after.reverse, isBlank c = true := fun c hc =>
    hafter c (List.mem_reverse.1 hc)
  rw [trim, String.toList_ofList, hs, List.append_assoc, dropWhile_blanks hbefore hfirst, dropRight,
    List.reverse_append, dropWhile_blanks hafter' hlast, List.reverse_reverse]

/-- Only blanks are dropped, and only at the two ends. -/
theorem exists_trim (s : String) : ∃ before after, s.toList = before ++ (trim s).toList ++ after ∧
    (∀ c ∈ before, isBlank c = true) ∧ ∀ c ∈ after, isBlank c = true := by
  have hfront := List.takeWhile_append_dropWhile (p := isBlank) (l := s.toList)
  have hback := List.takeWhile_append_dropWhile (p := isBlank)
    (l := (s.toList.dropWhile isBlank).reverse)
  refine ⟨s.toList.takeWhile isBlank,
    ((s.toList.dropWhile isBlank).reverse.takeWhile isBlank).reverse, ?_,
    fun c hc => List.mem_takeWhile_imp hc,
    fun c hc => List.mem_takeWhile_imp (List.mem_reverse.1 hc)⟩
  rw [trim, String.toList_ofList, dropRight, List.append_assoc, ← List.reverse_append, hback,
    List.reverse_reverse, hfront]

end Blank

namespace Numeral

/-- A text spells a number: at least one decimal digit, with nothing before the digits but a `+`,
and blanks around. -/
def Spells (s : String) (n : Nat) : Prop :=
  ∃ before sign digits after : List Char, s.toList = before ++ (sign ++ digits) ++ after ∧
    (∀ c ∈ before, Blank.isBlank c = true) ∧ (∀ c ∈ after, Blank.isBlank c = true) ∧
    (sign = [] ∨ sign = ['+']) ∧ digits ≠ [] ∧ (∀ c ∈ digits, c.isDigit = true) ∧
    Nat.ofDigitChars 10 digits 0 = n

theorem digits?_eq_some_iff {digits : List Char} {n : Nat} : digits? digits = some n ↔
    digits ≠ [] ∧ (∀ c ∈ digits, c.isDigit = true) ∧ Nat.ofDigitChars 10 digits 0 = n := by
  simp [digits?, and_assoc]

/-- The text before the digits is empty or a `+`. -/
theorem exists_sign (cs : List Char) :
    ∃ sign, cs = sign ++ unsigned cs ∧ (sign = [] ∨ sign = ['+']) := by
  unfold unsigned
  split
  · exact ⟨['+'], rfl, .inr rfl⟩
  · exact ⟨[], rfl, .inl rfl⟩

theorem unsigned_append {sign digits : List Char} (hsign : sign = [] ∨ sign = ['+'])
    (hdigits : ∀ c ∈ digits, c.isDigit = true) : unsigned (sign ++ digits) = digits := by
  rcases hsign with rfl | rfl
  · unfold unsigned
    split
    · next cs h =>
      obtain rfl : digits = '+' :: cs := h
      exact absurd (hdigits '+' List.mem_cons_self) (by decide)
    · rfl
  · rfl

/-- **Which texts stand for a number.** -/
theorem readTrimmed?_eq_some_iff {bound n : Nat} {s : String} :
    readTrimmed? bound s = some n ↔ Spells s n ∧ n < bound := by
  rw [readTrimmed?, read?, Option.filter_eq_some_iff, decide_eq_true_eq]
  refine and_congr_left fun _ => ⟨fun h => ?_, fun h => ?_⟩
  · obtain ⟨before, after, hs, hbefore, hafter⟩ := Blank.exists_trim s
    obtain ⟨sign, hsplit, hsign⟩ := exists_sign (Blank.trim s).toList
    obtain ⟨hne, hall, hvalue⟩ := digits?_eq_some_iff.1 h
    exact ⟨before, sign, _, after, hsplit ▸ hs, hbefore, hafter, hsign, hne, hall, hvalue⟩
  · obtain ⟨before, sign, digits, after, hs, hbefore, hafter, hsign, hne, hall, hvalue⟩ := h
    have hplain : ∀ c ∈ sign ++ digits, Blank.isBlank c = false := by
      intro c hc
      rcases List.mem_append.1 hc with hc | hc
      · rcases hsign with rfl | rfl
        · exact absurd hc List.not_mem_nil
        · exact List.mem_singleton.1 hc ▸ by decide
      · exact Blank.isBlank_of_isDigit (hall c hc)
    have hends : ∀ c ∈ (sign ++ digits).head?.toList ++ (sign ++ digits).getLast?.toList,
        Blank.isBlank c = false := by
      intro c hc
      rcases List.mem_append.1 hc with hc | hc
      · exact hplain c (List.mem_of_mem_head? (Option.mem_toList.1 hc))
      · exact hplain c (List.mem_of_getLast? (Option.mem_toList.1 hc))
    rw [Blank.toList_trim hs hbefore hafter (List.append_ne_nil_of_right_ne_nil sign hne) hends,
      unsigned_append hsign hall]
    exact digits?_eq_some_iff.2 ⟨hne, hall, hvalue⟩

/-- A text spells one number at most. -/
theorem Spells.unique {s : String} {n m : Nat} (hn : Spells s n) (hm : Spells s m) : n = m := by
  have hread : readTrimmed? (n + m + 1) s = some n :=
    readTrimmed?_eq_some_iff.2 ⟨hn, Nat.lt_succ_of_le (Nat.le_add_right n m)⟩
  have hread' : readTrimmed? (n + m + 1) s = some m :=
    readTrimmed?_eq_some_iff.2 ⟨hm, Nat.lt_succ_of_le (Nat.le_add_left m n)⟩
  exact Option.some.inj (hread.symm.trans hread')

end Numeral

namespace BlockSize

theorem read?_eq_some_iff {b : BlockSize} {value : String} :
    read? value = some b ↔ Numeral.Spells value b.size := by
  unfold read? ofNat?
  rw [Option.bind_eq_some_iff]
  constructor
  · rintro ⟨n, hn, hb⟩
    split at hb
    · obtain rfl := Option.some.inj hb
      exact (Numeral.readTrimmed?_eq_some_iff.1 hn).1
    · cases hb
  · intro hspells
    have hword : b.size < Numeral.word64 := Nat.lt_of_le_of_lt b.le_most (by decide)
    refine ⟨b.size, Numeral.readTrimmed?_eq_some_iff.2 ⟨hspells, hword⟩, ?_⟩
    rw [dif_pos ⟨b.least_le, b.le_most⟩]

end BlockSize

/-! ### Going through options -/

namespace Options

theorem contains_iff {options : Options} {name : String} :
    options.contains name = true ↔ ∃ e ∈ options.entries, Letters.Same e.1 name := by
  unfold contains get?
  rw [Option.isSome_map, List.find?_isSome]
  simp only [decide_eq_true_eq]

/-- A name has the value of its entry. -/
theorem get?_of_mem {options : Options} {e : String × String} (he : e ∈ options.entries)
    {name : String} (hname : Letters.Same e.1 name) : options.get? name = some e.2 := by
  unfold get?
  cases hfind : options.entries.find? fun e => Letters.Same e.1 name with
  | none => exact absurd (decide_eq_true hname) (List.find?_eq_none.1 hfind e he)
  | some found =>
    have hfound := List.find?_some hfind
    have hsame : Letters.Same found.1 name := of_decide_eq_true hfound
    have hentry : found = e := List.inj_on_of_nodup_map options.distinct
      (List.mem_of_find?_eq_some hfind) he (Eq.trans hsame (Eq.symm hname))
    rw [hentry]
    rfl

theorem get?_of_not_contains {options : Options} {name : String}
    (h : ∀ e ∈ options.entries, ¬ Letters.Same e.1 name) : options.get? name = none := by
  have hnone : options.entries.find? (fun e => Letters.Same e.1 name) = none :=
    List.find?_eq_none.2 fun e he => by simpa using h e he
  rw [get?, hnone]
  rfl

end Options

namespace Terms

/-! ### What is granted -/

/-- An entry that a server takes note of, with its name in one spelling. -/
def heed? (e : String × String) : Option (String × String) :=
  if Letters.Same e.1 blockSizeName ∨ Letters.Same e.1 transferSizeName then
    some (Letters.fold e.1, e.2)
  else none

/-- The entries that a server takes note of. -/
def heeded (requested : Options) : List (String × String) := requested.entries.filterMap heed?

section Grant

variable {size : Option Nat} (offer : Offer) (e : String × String)

theorem same_fold (name other : String) :
    Letters.Same (Letters.fold name) other ↔ Letters.Same name other := by
  rw [Letters.Same, Letters.fold_fold]
  rfl

theorem grant_fold (name value : String) :
    offer.grant size (Letters.fold name) value = offer.grant size name value := by
  unfold Offer.grant
  simp only [same_fold]

theorem blockSize_grant : (offer.grant size e.1 e.2).terms.blockSize =
    if Letters.Same e.1 blockSizeName then
      ((Numeral.readTrimmed? Numeral.word64 e.2).map BlockSize.clamp).getD offer.terms.blockSize
    else offer.terms.blockSize := by
  unfold Offer.grant
  split
  · cases Numeral.readTrimmed? Numeral.word64 e.2 <;> rfl
  · split <;> rfl

theorem get?_blockSize_grant : (offer.grant size e.1 e.2).options.get? blockSizeName =
    if Letters.Same e.1 blockSizeName then
      ((Numeral.readTrimmed? Numeral.word64 e.2).map fun n => some (BlockSize.clamp n).text).getD
        (offer.options.get? blockSizeName)
    else offer.options.get? blockSizeName := by
  unfold Offer.grant
  split
  · cases Numeral.readTrimmed? Numeral.word64 e.2 with
    | none => rfl
    | some n => exact (Options.get?_insert ..).trans (if_pos (same_self _))
  · split
    · exact (Options.get?_insert ..).trans (if_neg not_same_names)
    · rfl

theorem read?_sizeText (word : Option UInt64) :
    Numeral.read? Numeral.word64 (sizeText (word.map UInt64.toNat)) =
      some ((word.map UInt64.toNat).getD 1) := by
  cases word with
  | none => decide
  | some w => exact Numeral.read?_write w.toNat_lt

theorem get?_transferSize_grant : (offer.grant size e.1 e.2).options.get? transferSizeName =
    if Letters.Same e.1 transferSizeName then some (sizeText size)
    else offer.options.get? transferSizeName := by
  unfold Offer.grant
  split
  · next hname =>
    rw [if_neg (not_transferSize_of_blockSize hname)]
    split
    · exact (Options.get?_insert ..).trans
        (if_neg (not_transferSize_of_blockSize (same_self _)))
    · rfl
  · split
    · exact (Options.get?_insert ..).trans (if_pos (same_self _))
    · rfl

end Grant

section Offer

variable (requested : Options) (size : Option Nat) (word : Option UInt64)

/-- The size asked for, once it is brought into range, is the one in force. -/
theorem blockSize_offer : (offer requested size).terms.blockSize =
    (((requested.get? blockSizeName).bind (Numeral.readTrimmed? Numeral.word64)).map
      BlockSize.clamp).getD .standard := by
  have h := Options.view_foldl (fun o : Offer => o.terms.blockSize)
    (fun o e => o.grant size e.1 e.2) blockSizeName
    (fun value => (Numeral.readTrimmed? Numeral.word64 value).map BlockSize.clamp)
    blockSize_grant requested {}
  rw [offer, h, Option.map_bind]
  rfl

/-- And it is what the reader or writer is told. -/
theorem get?_blockSize_offer : (offer requested size).options.get? blockSizeName =
    ((requested.get? blockSizeName).bind (Numeral.readTrimmed? Numeral.word64)).map
      fun n => (BlockSize.clamp n).text := by
  have h := Options.view_foldl (fun o : Offer => o.options.get? blockSizeName)
    (fun o e => o.grant size e.1 e.2) blockSizeName
    (fun value => (Numeral.readTrimmed? Numeral.word64 value).map fun n =>
      some (BlockSize.clamp n).text) get?_blockSize_grant requested {}
  rw [offer, h]
  cases requested.get? blockSizeName with
  | none => rfl
  | some value =>
    rw [Option.bind_some, Option.bind_some]
    cases Numeral.readTrimmed? Numeral.word64 value <;> rfl

/-- A size is in force, and told, as soon as it is asked for. -/
theorem transferSize_offer_word :
    (offer requested (word.map UInt64.toNat)).terms.transferSize =
      if requested.contains transferSizeName then some ((word.map UInt64.toNat).getD 1)
      else none := by
  rw [transferSize_offer_eq, read?_sizeText]

theorem get?_transferSize_offer : (offer requested size).options.get? transferSizeName =
    if requested.contains transferSizeName then some (sizeText size) else none := by
  have h := Options.view_foldl (fun o : Offer => o.options.get? transferSizeName)
    (fun o e => o.grant size e.1 e.2) transferSizeName
    (fun _ => some (some (sizeText size))) get?_transferSize_grant requested {}
  rw [offer, h, Options.contains]
  cases requested.get? transferSizeName <;> rfl

/-- Only what is heeded makes an offer. -/
theorem foldl_heeded (entries : List (String × String)) (init : Offer) :
    entries.foldl (fun o e => o.grant size e.1 e.2) init =
      (entries.filterMap heed?).foldl (fun o e => o.grant size e.1 e.2) init := by
  induction entries generalizing init with
  | nil => rfl
  | cons e rest ih =>
    by_cases h : Letters.Same e.1 blockSizeName ∨ Letters.Same e.1 transferSizeName
    · have hheed : heed? e = some (Letters.fold e.1, e.2) := if_pos h
      rw [List.filterMap_cons_some hheed, List.foldl_cons, List.foldl_cons, grant_fold, ih]
    · have hheed : heed? e = none := if_neg h
      have hskip : init.grant size e.1 e.2 = init := by
        unfold Offer.grant
        rw [if_neg fun hname => h (.inl hname), if_neg fun hname => h (.inr hname)]
      rw [List.filterMap_cons_none hheed, List.foldl_cons, hskip, ih]

theorem offer_congr {requested requested' : Options} (size : Option Nat)
    (h : heeded requested' = heeded requested) : offer requested' size = offer requested size := by
  rw [offer, foldl_heeded]
  exact (congrArg _ h).trans (foldl_heeded size requested.entries {}).symm

end Offer

/-- What a server says to a requested option: a block size in range to one that spells any number
of a word, and the size of the file, or 1 where it tells none, to one that asks for it. -/
inductive Answers (word : Option UInt64) : String × String → String × String → Prop where
  | blockSize {name value : String} {n : Nat} (hname : Letters.Same name blockSizeName)
      (hvalue : Numeral.Spells value n) (hword : n < Numeral.word64) :
    Answers word (name, value) (blockSizeName, Numeral.write (min (max n 8) 65464))
  | transferSize {name value : String} (hname : Letters.Same name transferSizeName) :
    Answers word (name, value) (transferSizeName, Numeral.write ((word.map UInt64.toNat).getD 1))

theorem answer_eq_some_iff {word : Option UInt64} {e a : String × String} :
    answer (word.map UInt64.toNat) e = some a ↔ Answers word e a := by
  obtain ⟨name, value⟩ := e
  unfold answer
  constructor
  · intro h
    split at h
    · next hname =>
      obtain ⟨n, hn, rfl⟩ := Option.map_eq_some_iff.1 h
      obtain ⟨hspells, hword⟩ := Numeral.readTrimmed?_eq_some_iff.1 hn
      exact .blockSize hname hspells hword
    · split at h
      · next hname =>
        obtain rfl := Option.some.inj h
        rw [sizeText_eq_write]
        exact .transferSize hname
      · cases h
  · rintro (⟨hname, hvalue, hword⟩ | hname)
    · rw [if_pos hname, Numeral.readTrimmed?_eq_some_iff.2 ⟨hvalue, hword⟩]
      rfl
    · rw [if_neg (not_blockSize_of_transferSize hname), if_pos hname, sizeText_eq_write]

/-- Somewhere in the options a block size is asked for that a word can hold. -/
def AsksFor (requested : Options) (n : Nat) : Prop :=
  ∃ e ∈ requested.entries,
    Letters.Same e.1 blockSizeName ∧ Numeral.Spells e.2 n ∧ n < Numeral.word64

theorem asksFor_iff {requested : Options} {n : Nat} : AsksFor requested n ↔
    (requested.get? blockSizeName).bind (Numeral.readTrimmed? Numeral.word64) = some n := by
  rw [Option.bind_eq_some_iff]
  simp only [Numeral.readTrimmed?_eq_some_iff]
  constructor
  · rintro ⟨e, he, hname, hread⟩
    exact ⟨e.2, Options.get?_of_mem he hname, hread⟩
  · rintro ⟨value, hvalue, hread⟩
    unfold Options.get? at hvalue
    obtain ⟨e, hfind, rfl⟩ := Option.map_eq_some_iff.1 hvalue
    have hfound := List.find?_some hfind
    exact ⟨e, List.mem_of_find?_eq_some hfind, of_decide_eq_true hfound, hread⟩

/-- **What a server grants.**  Its options are the answers to the entries of the request, in their
order, and nothing else.  The terms are what the answers say: the block size asked for, brought
into range, or 512, and the size told, or none.  Entries of other names and the spelling of names
make no difference, and a block size that is granted reads back as the one in force. -/
theorem offer_itemised (requested : Options) (word : Option UInt64) :
    let offer := offer requested (word.map UInt64.toNat)
    (offer.options.entries = requested.entries.filterMap (answer (word.map UInt64.toNat)) ∧
      ∀ e a, answer (word.map UInt64.toNat) e = some a ↔ Answers word e a) ∧
    (∀ n, AsksFor requested n → offer.terms.blockSize.size = min (max n 8) 65464) ∧
    ((∀ n, ¬ AsksFor requested n) → offer.terms.blockSize.size = 512) ∧
    ((∃ e ∈ requested.entries, Letters.Same e.1 transferSizeName) →
      offer.terms.transferSize = some ((word.map UInt64.toNat).getD 1)) ∧
    ((∀ e ∈ requested.entries, ¬ Letters.Same e.1 transferSizeName) →
      offer.terms.transferSize = none) ∧
    (∀ requested', heeded requested' = heeded requested →
      Terms.offer requested' (word.map UInt64.toNat) = offer) ∧
    ∀ value, offer.options.get? blockSizeName = some value →
      BlockSize.read? value = some offer.terms.blockSize := by
  intro offer
  have hsize := blockSize_offer requested (word.map UInt64.toNat)
  have htold := transferSize_offer_word requested word
  refine ⟨⟨offer_entries _ _, fun _ _ => answer_eq_some_iff⟩, fun n hasks => ?_, fun hnone => ?_,
    fun hasks => ?_, fun hnone => ?_, fun requested' h => offer_congr _ h, fun value hvalue => ?_⟩
  · rw [hsize, asksFor_iff.1 hasks]
    rfl
  · have hunread : (requested.get? blockSizeName).bind
        (Numeral.readTrimmed? Numeral.word64) = none :=
      Option.eq_none_iff_forall_ne_some.2 fun n hn => hnone n (asksFor_iff.2 hn)
    rw [hsize, hunread]
    rfl
  · have hcontains : requested.contains transferSizeName = true := Options.contains_iff.2 hasks
    rw [htold, if_pos hcontains]
  · rw [htold, if_neg]
    intro hcontains
    obtain ⟨e, he, hname⟩ := Options.contains_iff.1 hcontains
    exact hnone e he hname
  · rw [get?_blockSize_offer] at hvalue
    obtain ⟨n, hn, rfl⟩ := Option.map_eq_some_iff.1 hvalue
    rw [BlockSize.read?_text, hsize, hn]
    rfl

theorem offer_itemised_mixedOptions :
    let requested := Options.ofList [("x", "y"), ("BlkSize", " +070000\t"), ("TSIZE", "?")]
    (offer requested none).options.entries = [("blksize", "65464"), ("tsize", "1")] ∧
      (offer requested none).terms.blockSize.size = 65464 ∧
      (offer requested none).terms.transferSize = some 1 ∧
      offer (.ofList [("blksize", " +070000\t"), ("tsize", "?"), ("", "z")]) none =
        offer requested none ∧
      BlockSize.read? "65464" = some (offer requested none).terms.blockSize := by
  intro requested
  have hall := offer_itemised requested none
  have hread : Numeral.readTrimmed? Numeral.word64 " +070000\t" = some 70000 := by decide
  have hasks : AsksFor requested 70000 :=
    ⟨("BlkSize", " +070000\t"), by decide, by decide, Numeral.readTrimmed?_eq_some_iff.1 hread⟩
  refine ⟨hall.1.1.trans (by decide), hall.2.1 _ hasks,
    hall.2.2.2.1 ⟨("TSIZE", "?"), by decide, by decide⟩, hall.2.2.2.2.2.1 _ (by decide),
    hall.2.2.2.2.2.2 _ (by decide)⟩

/-! ### What a client makes of a grant -/

/-- What a client may be granted: an option that it asked for, under the name of either option and
with a number that this option can have. -/
def Grantable (requested : Options) (e : String × String) : Prop :=
  (∃ asked ∈ requested.entries, Letters.Same asked.1 e.1) ∧
    ((Letters.Same e.1 blockSizeName ∧ ∃ n, Numeral.Spells e.2 n ∧ 8 ≤ n ∧ n ≤ 65464) ∨
      (Letters.Same e.1 transferSizeName ∧ ∃ n, Numeral.Spells e.2 n ∧ n < Numeral.word64))

/-- A grant that a client accepts: it is not empty, and every entry of it may be granted. -/
def Acceptable (requested granted : Options) : Prop :=
  granted.entries ≠ [] ∧ ∀ e ∈ granted.entries, Grantable requested e

/-- The terms of a transfer without options, but for what the options granted say. -/
structure SaidBy (granted : Options) (terms : Terms) : Prop where
  blockSize : ∀ e ∈ granted.entries, Letters.Same e.1 blockSizeName →
    ∀ n, Numeral.Spells e.2 n → terms.blockSize.size = n
  standard : (∀ e ∈ granted.entries, ¬ Letters.Same e.1 blockSizeName) → terms.blockSize.size = 512
  transferSize : ∀ e ∈ granted.entries, Letters.Same e.1 transferSizeName →
    ∀ n, Numeral.Spells e.2 n → terms.transferSize = some n
  untold : (∀ e ∈ granted.entries, ¬ Letters.Same e.1 transferSizeName) → terms.transferSize = none

/-- The terms once an entry has its say. -/
def override (terms : Terms) (e : String × String) : Terms where
  blockSize :=
    if Letters.Same e.1 blockSizeName then (BlockSize.read? e.2).getD terms.blockSize
    else terms.blockSize
  transferSize :=
    if Letters.Same e.1 transferSizeName then
      ((Numeral.readTrimmed? Numeral.word64 e.2).map some).getD terms.transferSize
    else terms.transferSize

section Accept

variable {requested granted : Options} {terms terms' : Terms} {e : String × String}

theorem override_blockSize {b : BlockSize} (hname : Letters.Same e.1 blockSizeName)
    (hread : BlockSize.read? e.2 = some b) : terms.override e = { terms with blockSize := b } := by
  rw [override, if_pos hname, hread, if_neg (not_transferSize_of_blockSize hname)]
  rfl

theorem override_transferSize {n : Nat} (hname : Letters.Same e.1 transferSizeName)
    (hread : Numeral.readTrimmed? Numeral.word64 e.2 = some n) :
    terms.override e = { terms with transferSize := some n } := by
  rw [override, if_pos hname, hread, if_neg (not_blockSize_of_transferSize hname)]
  rfl

/-- A client accepts what it may be granted, and lets it have its say. -/
theorem accept_eq_ok_iff : accept requested terms e.1 e.2 = .ok terms' ↔
    Grantable requested e ∧ terms' = terms.override e := by
  constructor
  · intro h
    unfold accept at h
    split at h
    · cases h
    · next hrequested =>
      have hasked : ∃ asked ∈ requested.entries, Letters.Same asked.1 e.1 := by
        rw [← Options.contains_iff]
        simpa using hrequested
      split at h
      · next hname =>
        split at h
        · next b hread =>
          obtain rfl := Except.ok.inj h
          have hspells := BlockSize.read?_eq_some_iff.1 hread
          exact ⟨⟨hasked, .inl ⟨hname, b.size, hspells, b.least_le, b.le_most⟩⟩,
            (override_blockSize hname hread).symm⟩
        · cases h
      · split at h
        · next hname =>
          split at h
          · next n hread =>
            obtain rfl := Except.ok.inj h
            exact ⟨⟨hasked, .inr ⟨hname, n, Numeral.readTrimmed?_eq_some_iff.1 hread⟩⟩,
              (override_transferSize hname hread).symm⟩
          · cases h
        · cases h
  · rintro ⟨⟨hasked, hkind⟩, rfl⟩
    have hrequested : requested.contains e.1 = true := Options.contains_iff.2 hasked
    unfold accept
    rw [hrequested, if_neg (by decide)]
    rcases hkind with ⟨hname, n, hspells, hleast, hmost⟩ | ⟨hname, n, hspells, hword⟩
    · have hread : BlockSize.read? e.2 = some ⟨n, hleast, hmost⟩ :=
        BlockSize.read?_eq_some_iff.2 hspells
      rw [if_pos hname, hread, override_blockSize hname hread]
    · have hread : Numeral.readTrimmed? Numeral.word64 e.2 = some n :=
        Numeral.readTrimmed?_eq_some_iff.2 ⟨hspells, hword⟩
      rw [if_neg (not_blockSize_of_transferSize hname), if_pos hname, hread,
        override_transferSize hname hread]

/-- It accepts a list of entries if it accepts each of them. -/
theorem foldlM_accept_eq_ok_iff {entries : List (String × String)} :
    entries.foldlM (fun terms e => accept requested terms e.1 e.2) terms = .ok terms' ↔
      (∀ e ∈ entries, Grantable requested e) ∧ terms' = entries.foldl override terms := by
  induction entries generalizing terms with
  | nil =>
    refine ⟨fun h => ⟨fun _ he => absurd he List.not_mem_nil, (Except.ok.inj h).symm⟩, ?_⟩
    rintro ⟨-, rfl⟩
    rfl
  | cons e rest ih =>
    rw [List.foldlM_cons, List.forall_mem_cons, List.foldl_cons]
    constructor
    · intro h
      cases haccept : accept requested terms e.1 e.2 with
      | error d =>
        rw [haccept] at h
        cases h
      | ok terms₁ =>
        rw [haccept] at h
        obtain ⟨hgrantable, rfl⟩ := accept_eq_ok_iff.1 haccept
        obtain ⟨hall, hterms⟩ := ih.1 h
        exact ⟨⟨hgrantable, hall⟩, hterms⟩
    · rintro ⟨⟨hgrantable, hall⟩, hterms⟩
      rw [accept_eq_ok_iff.2 ⟨hgrantable, rfl⟩]
      exact ih.2 ⟨hall, hterms⟩

theorem agree_eq_ok_iff : agree requested granted = .ok terms ↔
    Acceptable requested granted ∧ terms = granted.entries.foldl override {} := by
  unfold agree Acceptable
  rw [and_assoc, ← foldlM_accept_eq_ok_iff, Options.isEmpty]
  split
  · next hempty =>
    exact ⟨fun h => (by cases h), fun h => absurd (List.isEmpty_iff.1 hempty) h.1⟩
  · next hsome =>
    exact ⟨fun h => ⟨fun hempty => hsome (List.isEmpty_iff.2 hempty), h⟩, And.right⟩

/-- Entries that may be granted have the say over the terms. -/
theorem saidBy_foldl (h : ∀ e ∈ granted.entries, Grantable requested e) :
    SaidBy granted (granted.entries.foldl override {}) := by
  have hblock := Options.view_foldl blockSize override blockSizeName BlockSize.read?
    (fun _ _ => rfl) granted {}
  have htransfer := Options.view_foldl transferSize override transferSizeName
    (fun value => (Numeral.readTrimmed? Numeral.word64 value).map some)
    (fun _ _ => rfl) granted {}
  constructor
  · intro e he hname n hspells
    obtain ⟨-, ⟨-, m, hm, hleast, hmost⟩ | ⟨hother, -⟩⟩ := h e he
    · have hread : BlockSize.read? e.2 = some ⟨m, hleast, hmost⟩ :=
        BlockSize.read?_eq_some_iff.2 hm
      rw [hblock, Options.get?_of_mem he hname, Option.bind_some, hread]
      exact hm.unique hspells
    · exact absurd hname (not_blockSize_of_transferSize hother)
  · intro hnone
    rw [hblock, Options.get?_of_not_contains hnone]
    rfl
  · intro e he hname n hspells
    obtain ⟨-, ⟨hother, -⟩ | ⟨-, m, hm, hword⟩⟩ := h e he
    · exact absurd hname (not_transferSize_of_blockSize hother)
    · rw [htransfer, Options.get?_of_mem he hname, Option.bind_some,
        Numeral.readTrimmed?_eq_some_iff.2 ⟨hm, hword⟩, ← hm.unique hspells]
      rfl
  · intro hnone
    rw [htransfer, Options.get?_of_not_contains hnone]
    rfl

end Accept

end Terms

/-! ### Vetting -/

namespace Act

/-- What a client does once it has accepted a grant: a reader acknowledges it, and a writer sends
block 1. -/
def proceed : Role → Act Phase
  | .download => do
    sendAck 0
    update fun s => s.setNextBlock 1
    return .awaitingData
  | _ => sendFirst

/-- Whatever comes of that, it is no failure to agree. -/
theorem proceed_ends (role : Role) (scene : Scene) : (proceed role).Ends scene (fun _ _ => True)
    fun halt _ => ∀ d, halt ≠ .failure (.negotiation d) := by
  have hunsent : ∀ (f : Fault) d, Halt.failure (.io f) ≠ .failure (.negotiation d) :=
    fun f d h => by cases h
  have hblock : ∀ scene : Scene, sendBlock.Ends scene (fun _ _ => True)
      fun halt _ => ∀ d, halt ≠ .failure (.negotiation d) := by
    intro scene
    refine Ends.bind (ends_session (Ends.bind (ends_readBlock (fun _ _ _ => ?_) fun m _ _ => ?_)))
    · exact ends_count (ends_session (Ends.bind (ends_send (fun _ => trivial)
        fun f _ => hunsent f)))
    · cases m with
      | fault f => exact hunsent f
      | crash => exact fun d h => by cases h
  cases role with
  | download => exact Ends.bind (ends_send (fun _ => trivial) fun f _ => hunsent f)
  | upload | serve => exact ends_update (hblock _)

theorem run_adopt_error {scene : Scene} {granted : Options} {d : Disagreement}
    (h : Terms.agree scene.session.requested granted = .error d) :
    (adopt granted).run scene = .error (.failure (.negotiation d)) scene := by
  unfold adopt
  refine (run_bind_of (run_session scene)).trans ?_
  rw [h]
  rfl

/-- What a client does with a grant is decided by whether it agrees. -/
theorem run_handle_grant {scene : Scene} (granted : Options) (source : Endpoint)
    (hphase : scene.session.phase = .requested) (hclient : scene.session.role.service? = none) :
    (handle (.optionAck granted) source).run scene =
      (adopt granted >>= fun _ => proceed scene.session.role).run
        (scene.become (scene.session.pin source.port)) := by
  unfold handle
  refine (run_bind_of (run_session scene)).trans ?_
  dsimp only
  rw [hphase]
  cases hrole : scene.session.role with
  | download => rfl
  | upload => rfl
  | serve service =>
    rw [hrole] at hclient
    cases hclient

/-- **What a client accepts.**  A client that waits for its first answer accepts a grant just if
there is something in it and every entry may be granted; then it goes on with the terms that the
entries say.  Otherwise it fails to agree, and has done nothing but to note the port of the
server. -/
theorem handle_vets {scene : Scene} (granted : Options) (source : Endpoint)
    (hphase : scene.session.phase = .requested) (hclient : scene.session.role.service? = none) :
    (Terms.Acceptable scene.session.requested granted →
      ∃ terms, Terms.SaidBy granted terms ∧
        (handle (.optionAck granted) source).run scene =
          (proceed scene.session.role).run
            (scene.become { scene.session.pin source.port with terms }) ∧
        (handle (.optionAck granted) source).Settles scene terms ∧
        ∀ d scene', (handle (.optionAck granted) source).run scene ≠
          .error (.failure (.negotiation d)) scene') ∧
    (¬ Terms.Acceptable scene.session.requested granted →
      ∃ d, (handle (.optionAck granted) source).run scene =
        .error (.failure (.negotiation d)) (scene.become (scene.session.pin source.port))) := by
  have hrun := run_handle_grant granted source hphase hclient
  constructor
  · intro hacceptable
    have hagree := Terms.agree_eq_ok_iff.2 ⟨hacceptable, rfl⟩
    have hadopt : (adopt granted).run (scene.become (scene.session.pin source.port)) =
        .ok () _ := run_adopt hagree
    rw [run_bind_of hadopt] at hrun
    refine ⟨_, Terms.saidBy_foldl hacceptable.2, hrun,
      settles_granted source hphase hclient hagree, fun d scene' hfails => ?_⟩
    exact (proceed_ends _ _).error (hrun.symm.trans hfails) d rfl
  · intro hunacceptable
    cases hagree : Terms.agree scene.session.requested granted with
    | ok terms => exact absurd (Terms.agree_eq_ok_iff.1 hagree).1 hunacceptable
    | error d =>
      have hadopt : (adopt granted).run (scene.become (scene.session.pin source.port)) =
          .error (.failure (.negotiation d)) _ := run_adopt_error hagree
      exact ⟨d, hrun.trans (run_bind_error hadopt)⟩

theorem handle_vets_mixedOptions :
    let scene : Scene := ⟨.client .upload 40002 ⟨.v4 127 0 0 1, 69, 0⟩ (.reading .held {})
      (.ofList [("BlkSize", "1432"), ("tsize", "0")]) {} false 1, {}, []⟩
    let source : Endpoint := ⟨.v4 127 0 0 1, 40001, 0⟩
    (handle (.optionAck (.ofList [("TSIZE", "+7"), ("blksize", " 1428 ")])) source).Settles scene
        { blockSize := .clamp 1428, transferSize := some 7 } ∧
      ∃ d, (handle (.optionAck (.ofList [("tsize", "7"), ("blksize", "70000")])) source).run scene =
        .error (.failure (.negotiation d)) (scene.become (scene.session.pin 40001)) := by
  intro scene source
  have hspells : ∀ {value n}, Numeral.readTrimmed? Numeral.word64 value = some n →
      Numeral.Spells value n := fun h => (Numeral.readTrimmed?_eq_some_iff.1 h).1
  have hsize : Numeral.Spells " 1428 " 1428 := hspells (by decide)
  have htold : Numeral.Spells "+7" 7 := hspells (by decide)
  have hlarge : Numeral.Spells "70000" 70000 := hspells (by decide)
  constructor
  · have hacceptable : Terms.Acceptable scene.session.requested
        (.ofList [("TSIZE", "+7"), ("blksize", " 1428 ")]) := by
      refine ⟨by decide, List.forall_mem_cons.2 ⟨?_, List.forall_mem_cons.2 ⟨?_, ?_⟩⟩⟩
      · exact ⟨⟨("tsize", "0"), by decide, by decide⟩, .inr ⟨by decide, 7, htold, by decide⟩⟩
      · exact ⟨⟨("BlkSize", "1432"), by decide, by decide⟩,
          .inl ⟨by decide, 1428, hsize, by decide, by decide⟩⟩
      · exact fun _ he => absurd he List.not_mem_nil
    obtain ⟨terms, hsaid, -, hsettles, -⟩ := (handle_vets _ source rfl rfl).1 hacceptable
    have hblock : terms.blockSize.size = 1428 :=
      hsaid.blockSize ("blksize", " 1428 ") (by decide) (by decide) _ hsize
    have htransfer : terms.transferSize = some 7 :=
      hsaid.transferSize ("TSIZE", "+7") (by decide) (by decide) _ htold
    have hterms : terms = { blockSize := .clamp 1428, transferSize := some 7 } := by
      rw [← htransfer, ← hblock, BlockSize.clamp_size]
    exact hterms ▸ hsettles
  · refine (handle_vets _ source rfl rfl).2 ?_
    rintro ⟨-, hall⟩
    obtain ⟨-, ⟨-, n, hn, -, hmost⟩ | ⟨hname, -⟩⟩ := hall ("blksize", "70000") (by decide)
    · rw [hn.unique hlarge] at hmost
      exact absurd hmost (by decide)
    · exact absurd hname (by decide)

end Act

end TrivialFtp
