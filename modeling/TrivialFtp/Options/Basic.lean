import TrivialFtp.Text.Letters

/-!
# Options

The options of a request or of its acknowledgement: pairs of a name and a value in the order in
which they were first given.  Names are looked up with the case of ASCII letters set aside, and
no two names of one collection are the same in that sense.

- `get?_insert`: an inserted value is found under every spelling of its name, and the values of
  other names stay.
-/

namespace TrivialFtp

namespace Options

/-- Give `name` the value `value`: in place if the name is there, at the end otherwise. -/
def put (name value : String) : List (String × String) → List (String × String)
  | [] => [(name, value)]
  | e :: rest =>
    if Letters.Same e.1 name then (e.1, value) :: rest else e :: put name value rest

/-- The names of a list of pairs, with the case of letters set aside. -/
def folded (entries : List (String × String)) : List String :=
  entries.map fun e => Letters.fold e.1

theorem folded_put (name value : String) (entries : List (String × String)) :
    folded (put name value entries) =
      if Letters.fold name ∈ folded entries then folded entries
      else folded entries ++ [Letters.fold name] := by
  induction entries with
  | nil => simp [put, folded]
  | cons e rest ih =>
    by_cases h : Letters.fold e.1 = Letters.fold name
    · simp [put, Letters.Same, folded, h]
    · have h' : ¬ Letters.fold name = Letters.fold e.1 := fun k => h k.symm
      simp only [folded] at ih
      simp only [put, Letters.Same, h, if_false, folded, List.map_cons, List.mem_cons, h',
        false_or, ih]
      split <;> simp [*]

end Options

/-- Named values in the order of their names' first appearance. -/
structure Options where
  entries : List (String × String)
  distinct : (Options.folded entries).Nodup
  deriving DecidableEq, Repr

namespace Options

/-- No options. -/
def empty : Options := ⟨[], List.nodup_nil⟩

instance : EmptyCollection Options := ⟨empty⟩

instance : Inhabited Options := ⟨empty⟩

/-- Give a name a value.  A name that is there already keeps its spelling and its place. -/
def insert (options : Options) (name value : String) : Options where
  entries := put name value options.entries
  distinct := by
    rw [folded_put]
    split
    · exact options.distinct
    · next h => exact List.nodup_append.2 ⟨options.distinct, by simp, by
        rintro a ha b hb rfl
        exact h (List.mem_singleton.1 hb ▸ ha)⟩

/-- The options given by pairs inserted one after the other. -/
def ofList (pairs : List (String × String)) : Options :=
  pairs.foldl (fun options p => options.insert p.1 p.2) empty

/-- The value of a name in any spelling. -/
def get? (options : Options) (name : String) : Option String :=
  (options.entries.find? fun e => Letters.Same e.1 name).map Prod.snd

/-- Whether a name has a value. -/
def contains (options : Options) (name : String) : Bool := (options.get? name).isSome

/-- The names in order, as they were first spelt. -/
def names (options : Options) : List String := options.entries.map Prod.fst

/-- The number of options. -/
def size (options : Options) : Nat := options.entries.length

/-- Whether there are no options. -/
def isEmpty (options : Options) : Bool := options.entries.isEmpty

/-- The options as `name=value`, separated by commas. -/
def text (options : Options) : String :=
  ", ".intercalate (options.entries.map fun e => e.1 ++ "=" ++ e.2)

theorem find?_put (name value other : String) (entries : List (String × String)) :
    ((put name value entries).find? fun e => Letters.Same e.1 other).map Prod.snd =
      if Letters.Same name other then some value
      else (entries.find? fun e => Letters.Same e.1 other).map Prod.snd := by
  induction entries with
  | nil =>
    by_cases h : Letters.Same name other <;> simp [put, h]
  | cons e rest ih =>
    by_cases he : Letters.Same e.1 name
    · by_cases h : Letters.Same name other
      · have : Letters.Same e.1 other := Eq.trans he h
        simp [put, he, h, this]
      · have : ¬ Letters.Same e.1 other := fun k => h (Eq.trans (Eq.symm he) k)
        simp [put, he, h, this]
    · by_cases h : Letters.Same e.1 other
      · have : ¬ Letters.Same name other := fun k => he (Eq.trans h (Eq.symm k))
        simp [put, he, h, this]
      · simp [put, he, h, ih]

theorem get?_insert (options : Options) (name value other : String) :
    (options.insert name value).get? other =
      if Letters.Same name other then some value else options.get? other :=
  find?_put name value other options.entries

end Options

end TrivialFtp
