import Mathlib.Data.Finset.Card
import TrivialFtp.Proofs.Negotiation

/-!
# Proofs: options and the inserts that made them

Options are made by inserts, one after the other.  What they hold in the end is read off the list
of the inserts: a name stands where it was first inserted and is spelt as it was then, and its
value is the one inserted last, however it was spelt at that time.

- `Options.Records`: what a history of inserts leaves.
- `Options.ofList_records`: that it does, for every history.
-/

namespace TrivialFtp.Options

/-- The number of inserts before the first one of a name in any spelling. -/
def firstUse (history : List (String × String)) (name : String) : Nat :=
  history.findIdx fun e => Letters.Same e.1 name

/-- The spelling of a name in its first insert. -/
def firstSpelling (history : List (String × String)) (name : String) : Option String :=
  (history.find? fun e => Letters.Same e.1 name).map Prod.fst

/-- The value given by the last insert of a name in any spelling. -/
def lastValue (history : List (String × String)) (name : String) : Option String :=
  (history.reverse.find? fun e => Letters.Same e.1 name).map Prod.snd

/-- The number of options before a name. -/
def place (options : Options) (name : String) : Option Nat :=
  options.names.findIdx? fun n => Letters.Same n name

/-- The options that a history of inserts leaves. -/
structure Records (history : List (String × String)) (options : Options) : Prop where
  /-- No two names are the same. -/
  distinct : options.names.Pairwise fun a b => ¬ Letters.Same a b
  /-- The names stand in the order of their first inserts, -/
  ordered : options.names.Pairwise fun a b => firstUse history a < firstUse history b
  /-- and they are spelt as these spelt them. -/
  mem_names_iff : ∀ name, name ∈ options.names ↔ firstSpelling history name = some name
  get?_eq : ∀ name, options.get? name = lastValue history name
  contains_iff : ∀ name, options.contains name ↔ ∃ e ∈ history, Letters.Same e.1 name
  /-- There are as many options as there are names that differ in more than their case. -/
  size_eq : options.size = (history.map fun e => Letters.fold e.1).toFinset.card

/-- What an insert leaves alone. -/
structure Spares (options : Options) (name value : String) : Prop where
  /-- No name is moved or spelt anew. -/
  names_prefix : options.names <+: (options.insert name value).names
  get?_eq : ∀ other, ¬ Letters.Same name other →
    (options.insert name value).get? other = options.get? other
  place_eq : ∀ other, ¬ Letters.Same name other →
    (options.insert name value).place other = options.place other

/-! ### One insert -/

section Insert

variable (options : Options) (name value : String)

/-- An option is there if its name is, in any spelling. -/
theorem contains_iff_mem_names :
    options.contains name = true ↔ ∃ n ∈ options.names, Letters.Same n name := by
  simp [contains_iff, names]

/-- A value put under a name that is there leaves the names alone. -/
theorem map_fst_put_of_mem {entries : List (String × String)}
    (h : ∃ e ∈ entries, Letters.Same e.1 name) :
    (put name value entries).map Prod.fst = entries.map Prod.fst := by
  induction entries with
  | nil => simp at h
  | cons e rest ih =>
    by_cases he : Letters.Same e.1 name
    · rw [put, if_pos he, List.map_cons, List.map_cons]
    · have hrest : ∃ e ∈ rest, Letters.Same e.1 name := by simpa [he] using h
      rw [put, if_neg he, List.map_cons, List.map_cons, ih hrest]

/-- A name that is there stays as it is; one that is not there comes last. -/
theorem names_insert : (options.insert name value).names =
    if options.contains name then options.names else options.names ++ [name] := by
  split
  · next h => exact map_fst_put_of_mem name value (contains_iff.1 h)
  · next h =>
    have hnot : Letters.fold name ∉ folded options.entries := fun hmem =>
      have ⟨e, he, hfold⟩ := List.mem_map.1 hmem
      h (contains_iff.2 ⟨e, he, hfold⟩)
    have hput : (options.insert name value).entries = options.entries ++ [(name, value)] :=
      put_of_not_mem hnot value
    rw [names, hput, List.map_append, List.map_singleton, names]

/-- One insert spares everything else: the names before it, their order and all other values. -/
theorem spares : Spares options name value where
  names_prefix := by
    rw [names_insert]
    split
    · exact List.prefix_rfl
    · exact List.prefix_append _ _
  get?_eq other hother := by rw [get?_insert, if_neg hother]
  place_eq other hother := by
    rw [place, names_insert]
    split
    · rfl
    · rw [List.findIdx?_append, List.findIdx?_singleton, if_neg (by simpa using hother),
        Option.map_none, Option.or_none, place]

end Insert

/-! ### All inserts -/

section History

variable (history : List (String × String))

/-- The last of a history is inserted last. -/
theorem ofList_concat (e : String × String) :
    ofList (history ++ [e]) = (ofList history).insert e.1 e.2 := by
  rw [ofList, List.foldl_append, ofList, List.foldl_cons, List.foldl_nil]

/-- The value under a name is the last that it was given. -/
theorem get?_ofList (name : String) : (ofList history).get? name = lastValue history name := by
  induction history using List.reverseRecOn with
  | nil => rfl
  | append_singleton history e ih =>
    rw [ofList_concat, get?_insert, ih, lastValue, lastValue, List.reverse_concat, List.find?_cons]
    by_cases h : Letters.Same e.1 name <;> simp [h]

/-- A name is there if it was ever used. -/
theorem contains_ofList (name : String) :
    (ofList history).contains name ↔ ∃ e ∈ history, Letters.Same e.1 name := by
  rw [contains, get?_ofList, lastValue, Option.isSome_map, List.find?_isSome]
  simp

/-- A name goes to the end when it is first used, and nothing moves when it is used again. -/
theorem names_ofList_concat (e : String × String) : (ofList (history ++ [e])).names =
    if ∃ p ∈ history, Letters.Same p.1 e.1 then (ofList history).names
    else (ofList history).names ++ [e.1] := by
  rw [ofList_concat, names_insert]
  simp only [contains_ofList]

/-- A name that was used was used for the first time somewhere. -/
theorem firstUse_lt_iff (name : String) :
    firstUse history name < history.length ↔ ∃ e ∈ history, Letters.Same e.1 name := by
  rw [firstUse, List.findIdx_lt_length]
  simp

/-- Inserts that come later do not change which one of a name was the first. -/
theorem firstUse_concat_of_mem {history : List (String × String)} {name : String}
    (h : ∃ e ∈ history, Letters.Same e.1 name) (e : String × String) :
    firstUse (history ++ [e]) name = firstUse history name := by
  have hlt := (firstUse_lt_iff history name).2 h
  rw [firstUse, List.findIdx_append]
  exact if_pos hlt

/-- The first insert of a name that was not there is the last of all. -/
theorem firstUse_concat_self {history : List (String × String)} {e : String × String}
    (h : ¬ ∃ p ∈ history, Letters.Same p.1 e.1) :
    firstUse (history ++ [e]) e.1 = history.length := by
  have hnot := mt (firstUse_lt_iff history e.1).1 h
  rw [firstUse, List.findIdx_append]
  exact (if_neg hnot).trans (by simp [List.findIdx_cons, Terms.same_self])

/-- A name that is there was used. -/
theorem mem_of_mem_names {name : String} (h : name ∈ (ofList history).names) :
    ∃ e ∈ history, Letters.Same e.1 name :=
  (contains_ofList history name).1
    ((contains_iff_mem_names _ _).2 ⟨name, h, Terms.same_self name⟩)

/-- The names stand in the order of their first uses. -/
theorem ordered_ofList :
    (ofList history).names.Pairwise fun a b => firstUse history a < firstUse history b := by
  induction history using List.reverseRecOn with
  | nil => exact List.Pairwise.nil
  | append_singleton history e ih =>
    have hold : (ofList history).names.Pairwise fun a b =>
        firstUse (history ++ [e]) a < firstUse (history ++ [e]) b :=
      ih.imp_of_mem fun ha hb hlt => by
        rwa [firstUse_concat_of_mem (mem_of_mem_names history ha),
          firstUse_concat_of_mem (mem_of_mem_names history hb)]
    rw [names_ofList_concat]
    split
    · exact hold
    · next hnew =>
      refine List.pairwise_append.2 ⟨hold, List.pairwise_singleton _ _, fun a ha b hb => ?_⟩
      have hmem := mem_of_mem_names history ha
      rw [List.mem_singleton.1 hb, firstUse_concat_self hnew, firstUse_concat_of_mem hmem]
      exact (firstUse_lt_iff history a).2 hmem

/-- No name is there twice, in whatever spelling. -/
theorem distinct_ofList : (ofList history).names.Pairwise fun a b => ¬ Letters.Same a b :=
  List.pairwise_map.2 (List.pairwise_map.1 (ofList history).distinct)

/-- The names are those that are spelt as they first were. -/
theorem mem_names_ofList_iff (name : String) :
    name ∈ (ofList history).names ↔ firstSpelling history name = some name := by
  induction history using List.reverseRecOn with
  | nil => simp [ofList, empty, names, firstSpelling]
  | append_singleton history e ih =>
    rw [names_ofList_concat, firstSpelling, List.find?_append]
    rw [firstSpelling] at ih
    cases hfind : history.find? fun e => Letters.Same e.1 name with
    | some first =>
      rw [hfind] at ih
      have hused : ∃ p ∈ history, Letters.Same p.1 name :=
        ⟨first, List.mem_of_find?_eq_some hfind, by simpa using List.find?_some hfind⟩
      rw [Option.some_or]
      split
      · exact ih
      · next hnew =>
        have hne : name ≠ e.1 := fun h => hnew (h ▸ hused)
        rw [List.mem_append, List.mem_singleton, or_iff_left hne]
        exact ih
    | none =>
      rw [hfind] at ih
      have hunused : name ∉ (ofList history).names := mt ih.1 (by simp)
      have hfresh : ∀ p ∈ history, ¬ Letters.Same p.1 name := by
        simpa using List.find?_eq_none.1 hfind
      rw [Option.none_or, List.find?_singleton]
      by_cases he : Letters.Same e.1 name
      · have hnew : ¬ ∃ p ∈ history, Letters.Same p.1 e.1 := fun ⟨p, hp, hsame⟩ =>
          hfresh p hp (Eq.trans hsame he)
        simp [hnew, hunused, he, eq_comm]
      · have hne : name ≠ e.1 := fun h => he (h ▸ Terms.same_self e.1)
        split <;> simp [hunused, he, hne]

/-- There are as many options as names were used. -/
theorem size_ofList :
    (ofList history).size = (history.map fun e => Letters.fold e.1).toFinset.card := by
  have hsame : (history.map fun e => Letters.fold e.1).toFinset =
      (folded (ofList history).entries).toFinset := by
    ext key
    rw [List.mem_toFinset, List.mem_toFinset, List.mem_map, folded, List.mem_map]
    constructor
    · rintro ⟨e, he, rfl⟩
      exact contains_iff.1 ((contains_ofList history e.1).2 ⟨e, he, Terms.same_self e.1⟩)
    · rintro ⟨e, he, rfl⟩
      exact (contains_ofList history e.1).1 (contains_iff.2 ⟨e, he, Terms.same_self e.1⟩)
  rw [hsame, List.toFinset_card_of_nodup (ofList history).distinct, folded, List.length_map, size]

/-- Options record the history that they were made by. -/
theorem records_ofList : Records history (ofList history) where
  distinct := distinct_ofList history
  ordered := ordered_ofList history
  mem_names_iff := mem_names_ofList_iff history
  get?_eq := get?_ofList history
  contains_iff := contains_ofList history
  size_eq := size_ofList history

end History

/-! ### Making options again -/

/-- Texts without null characters make options without them. -/
theorem clean_texts_ofList {history : List (String × String)}
    (h : ∀ e ∈ history, '\x00' ∉ e.1.toList ∧ '\x00' ∉ e.2.toList) :
    ∀ s ∈ (ofList history).texts, '\x00' ∉ s.toList := by
  have hfields : ofFields (history.flatMap fun e => [e.1, e.2]) = .ok (ofList history) := by
    rw [ofFields, if_pos (length_flatMap history), pairs_flatMap]
  refine forall_texts_ofFields hfields fun s hs => ?_
  obtain ⟨e, he, hse⟩ := List.mem_flatMap.1 hs
  obtain rfl | rfl : s = e.1 ∨ s = e.2 := by simpa using hse
  · exact (h e he).1
  · exact (h e he).2

/-- Every collection of options is the record of the inserts that made it, an insert touches no
other name, and the options are made again from their entries and, without a NUL in them, from
their bytes. -/
theorem ofList_records (history : List (String × String)) :
    Records history (ofList history) ∧
      (∀ name value, Spares (ofList history) name value) ∧
      ofList (ofList history).entries = ofList history ∧
      ((∀ e ∈ history, '\x00' ∉ e.1.toList ∧ '\x00' ∉ e.2.toList) →
        (Field.split (ofList history).encode >>= ofFields) = .ok (ofList history)) := by
  refine ⟨records_ofList history, spares (ofList history), ofList_entries _, fun hclean => ?_⟩
  rw [encode_eq_join, Field.split_join_of_clean (clean_texts_ofList hclean)]
  exact ofFields_texts _

/-- Three inserts, the last of which spells the name of the first anew. -/
def respelt : List (String × String) := [("blksize", "8"), ("TSIZE", "1"), ("BlkSize", "9")]

/-- A name that is used again keeps its place and its first spelling, and takes the new value. -/
theorem ofList_records_respelt :
    (∀ e ∈ respelt, '\x00' ∉ e.1.toList ∧ '\x00' ∉ e.2.toList) ∧
      (ofList respelt).entries = [("blksize", "9"), ("TSIZE", "1")] ∧
      Records respelt (ofList respelt) ∧
      (Field.split (ofList respelt).encode >>= ofFields) = .ok (ofList respelt) := by
  have hclean : ∀ e ∈ respelt, '\x00' ∉ e.1.toList ∧ '\x00' ∉ e.2.toList := by decide
  have h := ofList_records respelt
  exact ⟨hclean, by decide, h.1, h.2.2.2 hclean⟩

end TrivialFtp.Options
