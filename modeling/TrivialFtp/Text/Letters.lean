/-!
# Letters

ASCII letters of two cases.  Option names and transfer modes are compared with the case of the
letters `A` to `Z` set aside; no other character has a second form.

- `fold_fold`: folding twice is folding once.
-/

namespace TrivialFtp.Letters

/-- The text with each of `A` to `Z` replaced by its lower-case form. -/
def fold (s : String) : String := .ofList (s.toList.map Char.toLower)

/-- Two texts that differ at most in the case of ASCII letters. -/
def Same (s t : String) : Prop := fold s = fold t

instance (s t : String) : Decidable (Same s t) := inferInstanceAs (Decidable (fold s = fold t))

theorem val_toLower {c : Char} (h : c.val ≥ 'A'.val ∧ c.val ≤ 'Z'.val) :
    c.toLower.val = c.val + 32 :=
  congrArg Char.val (dif_pos h)

theorem toLower_eq_self {c : Char} (h : ¬ (c.val ≥ 'A'.val ∧ c.val ≤ 'Z'.val)) : c.toLower = c :=
  dif_neg h

theorem toLower_toLower (c : Char) : c.toLower.toLower = c.toLower := by
  by_cases h : c.val ≥ 'A'.val ∧ c.val ≤ 'Z'.val
  · have hn : 65 ≤ c.val.toNat ∧ c.val.toNat ≤ 90 := h
    have hv : c.toLower.val.toNat = c.val.toNat + 32 := by
      rw [val_toLower h]
      have : (c.val + 32).toNat = (c.val.toNat + 32) % 2 ^ 32 := UInt32.toNat_add ..
      exact this.trans (by omega)
    have hl : ¬ (c.toLower.val ≥ 'A'.val ∧ c.toLower.val ≤ 'Z'.val) := by
      rintro ⟨-, hz⟩
      have : c.toLower.val.toNat ≤ 90 := hz
      omega
    exact toLower_eq_self hl
  · have hc : c.toLower = c := toLower_eq_self h
    rw [hc, hc]

theorem fold_fold (s : String) : fold (fold s) = fold s := by
  have h : Char.toLower ∘ Char.toLower = Char.toLower := funext toLower_toLower
  rw [fold, fold, String.toList_ofList, List.map_map, h]

end TrivialFtp.Letters
