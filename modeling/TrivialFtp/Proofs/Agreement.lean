import TrivialFtp.Options.Terms
import TrivialFtp.Proofs.RoundTrip

/-!
# Proofs: both sides keep the same terms

A server reads what it is asked for, and a client reads what it is granted, each in its own way;
they come to the same terms.

- `Options.view_foldl`: what going through the entries settles for a name.
- `Terms.offer_entries`: what a server grants, entry by entry.
- `Terms.agree_offer`: a client that accepts an offer keeps the server's terms.
- `Terms.agree_offer_of_requested`: and one that asked for it accepts it.
-/

namespace TrivialFtp

namespace Blank

/-- A digit is no blank. -/
theorem isBlank_of_isDigit {c : Char} (h : c.isDigit) : isBlank c = false := by
  have hc : 48 ≤ c.toNat ∧ c.toNat ≤ 57 := Char.isDigit_iff_toNat.1 h
  simp only [isBlank, ranges, List.any_cons, List.any_nil, Bool.or_false, Bool.or_eq_false_iff,
    Bool.and_eq_false_iff, decide_eq_false_iff_not]
  omega

/-- A text without blanks has none to trim. -/
theorem trim_eq_self {s : String} (h : ∀ c ∈ s.toList, isBlank c = false) : trim s = s := by
  have hdrop : ∀ cs : List Char, (∀ c ∈ cs, isBlank c = false) → cs.dropWhile isBlank = cs := by
    intro cs hcs
    cases cs with
    | nil => rfl
    | cons c rest => exact List.dropWhile_cons_of_neg (by simp [hcs c List.mem_cons_self])
  rw [trim, hdrop _ h, dropRight, hdrop _ (by simpa using h), List.reverse_reverse,
    String.ofList_toList]

end Blank

namespace Numeral

/-- A numeral is read trimmed as it is read. -/
theorem readTrimmed?_write (bound n : Nat) :
    readTrimmed? bound (write n) = read? bound (write n) := by
  have hdigits : ∀ c ∈ (write n).toList, Blank.isBlank c = false := fun c hc =>
    Blank.isBlank_of_isDigit (isDigit_of_mem_write hc)
  rw [readTrimmed?, Blank.trim_eq_self hdigits]

/-- What is read as a word is a word. -/
theorem lt_of_readTrimmed? {bound n : Nat} {s : String} (h : readTrimmed? bound s = some n) :
    n < bound :=
  of_decide_eq_true (Option.filter_eq_some_iff.1 h).2

end Numeral

namespace BlockSize

/-- A block size is read from its own text. -/
theorem read?_text (b : BlockSize) : read? b.text = some b := by
  have hlt : b.size < Numeral.word64 := Nat.lt_of_le_of_lt b.le_most (by decide)
  rw [read?, text, Numeral.readTrimmed?_write, Numeral.read?_write hlt]
  simp [ofNat?, b.least_le, b.le_most]

end BlockSize

namespace Options

/-- No name has two entries.  So if an entry settles something by its name and value alone, going
through all of them settles it as the one entry of the name says. -/
theorem view_foldl {σ α : Type} (view : σ → α) (apply : σ → String × String → σ) (name : String)
    (f : String → Option α) (happly : ∀ state e, view (apply state e) =
      if Letters.Same e.1 name then (f e.2).getD (view state) else view state)
    (options : Options) (init : σ) :
    view (options.entries.foldl apply init) =
      ((options.get? name).bind f).getD (view init) := by
  have hall : ∀ (entries : List (String × String)) (state : σ), (folded entries).Nodup →
      view (entries.foldl apply state) =
        (((entries.find? fun e => Letters.Same e.1 name).map Prod.snd).bind f).getD
          (view state) := by
    intro entries
    induction entries with
    | nil => exact fun _ _ => rfl
    | cons e rest ih =>
      intro state hdistinct
      obtain ⟨hfresh, hrest⟩ := List.nodup_cons.1 hdistinct
      rw [List.foldl_cons, ih _ hrest, happly, List.find?_cons]
      by_cases he : Letters.Same e.1 name
      · have hnone : rest.find? (fun e => decide (Letters.Same e.1 name)) = none := by
          refine List.find?_eq_none.2 fun e' he' hsame => hfresh (List.mem_map.2 ⟨e', he', ?_⟩)
          exact Eq.trans (of_decide_eq_true hsame) (Eq.symm he)
        rw [hnone, decide_eq_true he, if_pos he]
        rfl
      · rw [decide_eq_false he, if_neg he]
  exact hall options.entries init options.distinct

end Options

namespace Terms

/-- The text in which a server tells the size of a file. -/
def sizeText (sizeReply : Option Nat) : String := (sizeReply.map Numeral.write).getD placeholder

/-- What a server says to one requested option. -/
def answer (sizeReply : Option Nat) (e : String × String) : Option (String × String) :=
  if Letters.Same e.1 blockSizeName then
    (Numeral.readTrimmed? Numeral.word64 e.2).map fun n => (blockSizeName, (BlockSize.clamp n).text)
  else if Letters.Same e.1 transferSizeName then some (transferSizeName, sizeText sizeReply)
  else none

variable {sizeReply : Option Nat} {requested : Options}

theorem not_same_names : ¬ Letters.Same transferSizeName blockSizeName := by decide

theorem not_transferSize_of_blockSize {name : String} (h : Letters.Same name blockSizeName) :
    ¬ Letters.Same name transferSizeName :=
  fun hother => not_same_names (Eq.trans (Eq.symm hother) h)

theorem not_blockSize_of_transferSize {name : String} (h : Letters.Same name transferSizeName) :
    ¬ Letters.Same name blockSizeName :=
  fun hother => not_transferSize_of_blockSize hother h

theorem same_self (name : String) : Letters.Same name name := Eq.refl (Letters.fold name)

theorem sizeText_trimmed : Numeral.readTrimmed? Numeral.word64 (sizeText sizeReply) =
    Numeral.read? Numeral.word64 (sizeText sizeReply) := by
  cases sizeReply with
  | none => decide
  | some n => exact Numeral.readTrimmed?_write _ n

/-- An option that is not answered is not granted. -/
theorem grant_of_none {offer : Offer} {e : String × String} (h : answer sizeReply e = none) :
    offer.grant sizeReply e.1 e.2 = offer := by
  unfold answer at h
  unfold Offer.grant
  split at h
  · next hname =>
    rw [if_pos hname]
    rw [Option.map_eq_none_iff] at h
    rw [h]
  · next hname =>
    rw [if_neg hname]
    split at h
    · exact nomatch h
    · next hname' => rw [if_neg hname']

/-- One that is answered is granted under its own name. -/
theorem grant_of_some {offer : Offer} {e a : String × String} (h : answer sizeReply e = some a) :
    Letters.fold a.1 = Letters.fold e.1 ∧
      (offer.grant sizeReply e.1 e.2).options = offer.options.insert a.1 a.2 := by
  unfold answer at h
  unfold Offer.grant
  split at h
  · next hname =>
    obtain ⟨n, hn, rfl⟩ := Option.map_eq_some_iff.1 h
    rw [if_pos hname, hn]
    exact ⟨Eq.symm hname, rfl⟩
  · next hname =>
    split at h
    · next hname' =>
      obtain rfl := Option.some.inj h
      rw [if_neg hname, if_pos hname']
      exact ⟨Eq.symm hname', rfl⟩
    · exact nomatch h

/-- A client that accepts one answer keeps the server's terms. -/
theorem accept_answer {offer : Offer} {e a : String × String} (h : answer sizeReply e = some a)
    {terms : Terms} (haccept : accept requested offer.terms a.1 a.2 = .ok terms) :
    terms = (offer.grant sizeReply e.1 e.2).terms := by
  unfold answer at h
  unfold Offer.grant
  split at h
  · next hname =>
    obtain ⟨n, hn, rfl⟩ := Option.map_eq_some_iff.1 h
    rw [if_pos hname, hn]
    unfold accept at haccept
    split at haccept
    · exact nomatch haccept
    · dsimp only at haccept
      rw [if_pos (same_self _), BlockSize.read?_text] at haccept
      exact (Except.ok.inj haccept).symm
  · next hname =>
    split at h
    · next hname' =>
      obtain rfl := Option.some.inj h
      rw [if_neg hname, if_pos hname']
      unfold accept at haccept
      split at haccept
      · exact nomatch haccept
      · rw [if_neg not_same_names, if_pos (same_self _), sizeText_trimmed] at haccept
        split at haccept
        · next n hn =>
          rw [← Except.ok.inj haccept, ← hn]
          rfl
        · exact nomatch haccept
    · exact nomatch h

/-- A client that asked for an option accepts the answer to it, if the size told fits a word. -/
theorem accept_answer_of_requested {offer : Offer} {e a : String × String}
    (h : answer sizeReply e = some a) (hrequested : requested.contains a.1)
    (hsize : ∀ n, sizeReply = some n → n < Numeral.word64) :
    ∃ terms, accept requested offer.terms a.1 a.2 = .ok terms := by
  unfold answer at h
  unfold accept
  rw [hrequested]
  split at h
  · obtain ⟨n, hn, rfl⟩ := Option.map_eq_some_iff.1 h
    exact ⟨_, by rw [if_neg (by decide), if_pos (same_self _), BlockSize.read?_text]⟩
  · split at h
    · obtain rfl := Option.some.inj h
      have hread : ∃ n, Numeral.read? Numeral.word64 (sizeText sizeReply) = some n := by
        cases sizeReply with
        | none => exact ⟨1, by decide⟩
        | some n => exact ⟨n, Numeral.read?_write (hsize n rfl)⟩
      obtain ⟨n, hn⟩ := hread
      exact ⟨_, by
        rw [if_neg (by decide), if_neg not_same_names, if_pos (same_self _), sizeText_trimmed, hn]⟩
    · exact nomatch h

/-- Distinct names are answered one after the other. -/
theorem offer_foldl : ∀ (entries : List (String × String)) (offer : Offer),
    (Options.folded (offer.options.entries ++ entries)).Nodup →
      (entries.foldl (fun o e => o.grant sizeReply e.1 e.2) offer).options.entries =
        offer.options.entries ++ entries.filterMap (answer sizeReply)
  | [], offer, _ => (List.append_nil _).symm
  | e :: rest, offer, h => by
    rw [List.foldl_cons]
    cases ha : answer sizeReply e with
    | none =>
      rw [grant_of_none ha, List.filterMap_cons_none ha]
      have hsub := (List.sublist_cons_self e rest).append_left offer.options.entries
      exact offer_foldl rest offer (h.sublist (hsub.map _))
    | some a =>
      obtain ⟨hname, hgrant⟩ := @grant_of_some _ offer e a ha
      have hput : (offer.grant sizeReply e.1 e.2).options.entries =
          offer.options.entries ++ [a] := by
        rw [hgrant]
        refine Options.put_of_not_mem ?_ a.2
        rw [Options.folded, List.map_append, List.nodup_append] at h
        rw [hname]
        -- No option is there twice, so that the answer is put at the end.
        exact fun hmem => h.2.2 _ hmem _ List.mem_cons_self rfl
      rw [List.filterMap_cons_some ha, offer_foldl rest _ ?_, hput, List.append_assoc]
      · rfl
      · rw [hput, List.append_assoc]
        simpa [Options.folded, hname] using h

/-- What is offered are the answers to what was requested, in the same order. -/
theorem offer_entries (requested : Options) (sizeReply : Option Nat) :
    (offer requested sizeReply).options.entries =
      requested.entries.filterMap (answer sizeReply) :=
  offer_foldl requested.entries {} requested.distinct

/-- Accepting the answers to some entries, one after the other, builds up the server's terms. -/
theorem foldlM_accept (requested : Options) : ∀ (entries : List (String × String)) (offer : Offer)
    (terms : Terms), (entries.filterMap (answer sizeReply)).foldlM
        (fun terms e => accept requested terms e.1 e.2) offer.terms = .ok terms →
      terms = (entries.foldl (fun o e => o.grant sizeReply e.1 e.2) offer).terms
  | [], offer, terms, h => (Except.ok.inj h).symm
  | e :: rest, offer, terms, h => by
    rw [List.foldl_cons]
    cases ha : answer sizeReply e with
    | none =>
      rw [List.filterMap_cons_none ha] at h
      rw [grant_of_none ha]
      exact foldlM_accept requested rest offer terms h
    | some a =>
      rw [List.filterMap_cons_some ha, List.foldlM_cons] at h
      cases haccept : accept requested offer.terms a.1 a.2 with
      | error d => exact nomatch haccept ▸ h
      | ok terms' =>
        rw [haccept] at h
        exact foldlM_accept requested rest _ terms (accept_answer ha haccept ▸ h)

/-- A client keeps the terms of any server whose offer it accepts. -/
theorem agree_offer {asked : Options} {terms : Terms}
    (h : agree requested (offer asked sizeReply).options = .ok terms) :
    terms = (offer asked sizeReply).terms := by
  unfold agree at h
  split at h
  · exact nomatch h
  · rw [offer_entries] at h
    exact foldlM_accept requested asked.entries {} terms h

/-- What is requested is requested in any spelling of its name. -/
theorem contains_of_mem {e : String × String} (he : e ∈ requested.entries) {name : String}
    (hname : Letters.fold name = Letters.fold e.1) : requested.contains name := by
  unfold Options.contains Options.get?
  rw [Option.isSome_map, List.find?_isSome]
  exact ⟨e, he, decide_eq_true (Eq.symm hname)⟩

/-- A client accepts every offer made to its own request. -/
theorem agree_offer_of_requested (hsize : ∀ n, sizeReply = some n → n < Numeral.word64)
    (h : (offer requested sizeReply).options.isEmpty = false) :
    agree requested (offer requested sizeReply).options =
      .ok (offer requested sizeReply).terms := by
  have hfold : ∀ (entries : List (String × String)) (offer : Offer),
      (∀ e ∈ entries, e ∈ requested.entries) →
        ∃ terms, (entries.filterMap (answer sizeReply)).foldlM
          (fun terms e => accept requested terms e.1 e.2) offer.terms = .ok terms := by
    intro entries
    induction entries with
    | nil => exact fun offer _ => ⟨_, rfl⟩
    | cons e rest ih =>
      intro offer hmem
      obtain ⟨he, hrest⟩ := List.forall_mem_cons.1 hmem
      cases ha : answer sizeReply e with
      | none =>
        rw [List.filterMap_cons_none ha]
        exact ih offer hrest
      | some a =>
        -- The answer goes by the name that was asked for, up to the case of its letters.
        obtain ⟨hname, -⟩ := @grant_of_some _ offer e a ha
        obtain ⟨terms, haccept⟩ := @accept_answer_of_requested _ _ offer _ _ ha
          (contains_of_mem he hname) hsize
        obtain ⟨terms', hrest⟩ := ih (offer.grant sizeReply e.1 e.2) hrest
        refine ⟨terms', ?_⟩
        rw [List.filterMap_cons_some ha, List.foldlM_cons, haccept]
        exact accept_answer ha haccept ▸ hrest
  obtain ⟨terms, hterms⟩ := hfold requested.entries {} fun _ => id
  have hagree : agree requested (offer requested sizeReply).options = .ok terms := by
    rw [agree, h, if_neg Bool.false_ne_true, offer_entries]
    exact hterms
  rw [hagree, agree_offer hagree]

/-- A server that grants nothing keeps the terms of a client that was granted nothing. -/
theorem offer_terms_of_isEmpty (h : (offer requested sizeReply).options.isEmpty = true) :
    (offer requested sizeReply).terms = {} := by
  have hnone := List.isEmpty_iff.1 h
  rw [offer_entries, List.filterMap_eq_nil_iff] at hnone
  have hfold : ∀ (entries : List (String × String)) (offer : Offer),
      (∀ e ∈ entries, answer sizeReply e = none) →
        entries.foldl (fun o e => o.grant sizeReply e.1 e.2) offer = offer := by
    intro entries
    induction entries with
    | nil => exact fun _ _ => rfl
    | cons e rest ih =>
      intro offer hall
      obtain ⟨he, hrest⟩ := List.forall_mem_cons.1 hall
      rw [List.foldl_cons, grant_of_none he]
      exact ih offer hrest
  rw [offer, hfold requested.entries {} hnone]

/-- One requested option settles the size, if it is the one that asks for it. -/
theorem transferSize_grant (offer : Offer) (e : String × String) :
    (offer.grant sizeReply e.1 e.2).terms.transferSize =
      if Letters.Same e.1 transferSizeName then Numeral.read? Numeral.word64 (sizeText sizeReply)
      else offer.terms.transferSize := by
  unfold Offer.grant
  split
  · next hname =>
    rw [if_neg (not_transferSize_of_blockSize hname)]
    split <;> rfl
  · split <;> rfl

/-- The size in force is the one that the text in which it is told stands for. -/
theorem transferSize_offer_eq (requested : Options) (sizeReply : Option Nat) :
    (offer requested sizeReply).terms.transferSize =
      if requested.contains transferSizeName then
        Numeral.read? Numeral.word64 (sizeText sizeReply)
      else none := by
  have h := Options.view_foldl (fun o : Offer => o.terms.transferSize)
    (fun o e => o.grant sizeReply e.1 e.2) transferSizeName
    (fun _ => some (Numeral.read? Numeral.word64 (sizeText sizeReply)))
    transferSize_grant requested {}
  rw [offer, h, Options.contains]
  cases requested.get? transferSizeName <;> rfl

/-- Who asks for the size of the file is told it. -/
theorem transferSize_offer {n : Nat} (hn : n < Numeral.word64)
    (h : requested.contains transferSizeName) :
    (offer requested (some n)).terms.transferSize = some n := by
  rw [transferSize_offer_eq, if_pos h]
  exact Numeral.read?_write hn

/-! ### The size of an offer -/

theorem sizeText_eq_write (sizeReply : Option Nat) :
    sizeText sizeReply = Numeral.write (sizeReply.getD 1) := by
  cases sizeReply with
  | none => rfl
  | some n => rfl

/-- Every value granted is a numeral of a word. -/
theorem mem_offer {e : String × String}
    (h : e ∈ (offer requested sizeReply).options.entries) :
    (e.1 = blockSizeName ∧ ∃ b : BlockSize, e.2 = b.text) ∨
      e.1 = transferSizeName ∧ e.2 = sizeText sizeReply := by
  rw [offer_entries, List.mem_filterMap] at h
  obtain ⟨asked, -, ha⟩ := h
  unfold answer at ha
  split at ha
  · obtain ⟨n, -, rfl⟩ := Option.map_eq_some_iff.1 ha
    exact .inl ⟨rfl, _, rfl⟩
  · split at ha
    · obtain rfl := Option.some.inj ha
      exact .inr ⟨rfl, rfl⟩
    · exact nomatch ha

theorem nul_not_mem_write (n : Nat) : '\x00' ∉ (Numeral.write n).toList := fun h =>
  absurd (Numeral.isDigit_of_mem_write h) (by decide)

/-- An offer can be read back. -/
theorem offer_clean : ∀ s ∈ (offer requested sizeReply).options.texts, '\x00' ∉ s.toList := by
  intro s hs
  obtain ⟨e, he, hse⟩ := List.mem_flatMap.1 hs
  simp only [List.mem_cons, List.not_mem_nil, or_false] at hse
  rcases mem_offer he with ⟨hname, b, hvalue⟩ | ⟨hname, hvalue⟩
  · rcases hse with rfl | rfl
    · rw [hname]
      decide
    · rw [hvalue]
      exact nul_not_mem_write b.size
  · rcases hse with rfl | rfl
    · rw [hname]
      decide
    · rw [hvalue, sizeText_eq_write]
      exact nul_not_mem_write _

theorem length_encode_write {n : Nat} (h : n < Numeral.word64) :
    (Utf8.encode (Numeral.write n)).length ≤ 20 := by
  have hone : ∀ cs : List Char, (∀ c ∈ cs, c.isDigit) →
      (cs.flatMap String.utf8EncodeChar).length = cs.length := by
    intro cs
    induction cs with
    | nil => exact fun _ => rfl
    | cons c rest ih =>
      intro hall
      obtain ⟨hc, hrest⟩ := List.forall_mem_cons.1 hall
      have hdigit : 48 ≤ c.toNat ∧ c.toNat ≤ 57 := Char.isDigit_iff_toNat.1 hc
      have hsize : c.utf8Size = 1 := by
        rw [Char.utf8Size_eq_one_iff, UInt32.le_iff_toNat_le]
        exact Nat.le_trans hdigit.2 (by decide)
      rw [List.flatMap_cons, List.length_append, ih hrest, String.length_utf8EncodeChar, hsize,
        List.length_cons, Nat.add_comm]
  rw [Utf8.encode_eq_flatMap, hone _ fun c hc => Numeral.isDigit_of_mem_write hc,
    Numeral.toList_write, Nat.length_toDigits_le_iff (by decide) (by decide)]
  exact Nat.lt_of_lt_of_le h (by decide)

/-- An option that is offered takes at most 31 bytes. -/
theorem length_encode_field_le (hsize : ∀ n, sizeReply = some n → n < Numeral.word64)
    {e : String × String} (h : e ∈ (offer requested sizeReply).options.entries) :
    (Field.encode e.1 ++ Field.encode e.2).length ≤ 31 := by
  have hvalue : (Utf8.encode e.2).length ≤ 20 := by
    rcases mem_offer h with ⟨-, b, hvalue⟩ | ⟨-, hvalue⟩
    · rw [hvalue]
      exact length_encode_write (Nat.lt_of_le_of_lt b.le_most (by decide))
    · rw [hvalue, sizeText_eq_write]
      refine length_encode_write ?_
      cases sizeReply with
      | none => decide
      | some n => exact hsize n rfl
  have hname : (Utf8.encode e.1).length ≤ 9 := by
    rcases mem_offer h with ⟨hname, -⟩ | ⟨hname, -⟩ <;> rw [hname] <;> decide
  simp only [Field.encode, List.length_append, List.length_singleton]
  omega

/-- Of each of two options there is one at most. -/
theorem length_entries_le : (offer requested sizeReply).options.entries.length ≤ 2 := by
  have hsubset : Options.folded (offer requested sizeReply).options.entries ⊆
      [Letters.fold blockSizeName, Letters.fold transferSizeName] := by
    intro name hname
    obtain ⟨e, he, rfl⟩ := List.mem_map.1 hname
    rcases mem_offer he with ⟨h, -⟩ | ⟨h, -⟩ <;> rw [h] <;> simp
  have hle := (offer requested sizeReply).options.distinct.length_le_of_subset hsubset
  rwa [Options.folded, List.length_map] at hle

theorem length_flatMap_le {α β : Type} {f : α → List β} {most : Nat} :
    ∀ {l : List α}, (∀ a ∈ l, (f a).length ≤ most) → (l.flatMap f).length ≤ l.length * most
  | [], _ => Nat.zero_le _
  | a :: l, h => by
    obtain ⟨ha, hl⟩ := List.forall_mem_cons.1 h
    have hrest := length_flatMap_le hl
    rw [List.flatMap_cons, List.length_append, List.length_cons, Nat.succ_mul]
    omega

/-- An offer fits into any datagram. -/
theorem length_offer_le (hsize : ∀ n, sizeReply = some n → n < Numeral.word64) :
    (Packet.optionAck (offer requested sizeReply).options).encode.length ≤ 64 := by
  have hfields := length_flatMap_le fun e he =>
    @length_encode_field_le sizeReply requested hsize e he
  have hcount := @length_entries_le sizeReply requested
  rw [Packet.encode, List.length_append, Word.toBytes, Options.encode]
  simp only [List.length_cons, List.length_nil]
  omega

end Terms

end TrivialFtp
