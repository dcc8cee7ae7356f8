import Mathlib.Tactic.SplitIfs
import Mathlib.Tactic.ByContra
import TrivialFtp.Text.Letters
import TrivialFtp.Text.Utf8

/-!
# Proofs: texts in fields

Two things about a text decide whether a packet holds it faithfully: whether it has a NUL in it,
which would end its field early, and whether it has letters of the upper case.

- `Utf8.zero_mem_encode_iff`: only a NUL is written with a zero byte.
- `Letters.fold_eq_self_iff`: folding changes exactly the texts with letters `A` to `Z`.
-/

namespace TrivialFtp

namespace Utf8

/-- A text is written character by character. -/
theorem encode_eq_flatMap (s : String) : encode s = s.toList.flatMap String.utf8EncodeChar := by
  rw [encode, ← String.utf8Encode_toList, List.utf8Encode, List.toList_data_toByteArray]

theorem encode_ofList (cs : List Char) :
    encode (.ofList cs) = cs.flatMap String.utf8EncodeChar := by
  rw [encode_eq_flatMap, String.toList_ofList]

theorem encode_nul : String.utf8EncodeChar '\x00' = [0] := by decide

/-- Every byte of a character other than NUL has a bit set: the marks of its length or, in a
single byte, its own. -/
theorem ne_zero_of_mem_encodeChar {c : Char} (hc : c ≠ '\x00') {b : UInt8}
    (hb : b ∈ String.utf8EncodeChar c) : b ≠ 0 := by
  rintro rfl
  have hv : c.val.toNat ≠ 0 := fun h => hc (Char.ext (UInt32.toNat_inj.1 h))
  have ne : ∀ n : Nat, n % 256 ≠ 0 → (0 : UInt8) ≠ UInt8.ofNat n := fun n hn h =>
    hn (by simpa using (congrArg UInt8.toNat h).symm)
  simp only [String.utf8EncodeChar] at hb
  split_ifs at hb
  all_goals
    simp only [List.mem_cons, List.not_mem_nil, or_false] at hb
  · exact ne _ (by omega) hb
  · rcases hb with hb | hb <;> exact ne _ (by omega) hb
  · rcases hb with hb | hb | hb <;> exact ne _ (by omega) hb
  · rcases hb with hb | hb | hb | hb <;> exact ne _ (by omega) hb

/-- No other character has a zero byte. -/
theorem zero_mem_encode_iff (s : String) : 0 ∈ encode s ↔ '\x00' ∈ s.toList := by
  rw [encode_eq_flatMap, List.mem_flatMap]
  constructor
  · rintro ⟨c, hc, h0⟩
    by_contra hs
    exact ne_zero_of_mem_encodeChar (fun e => hs (e ▸ hc)) h0 rfl
  · exact fun h => ⟨_, h, by rw [encode_nul]; exact List.mem_singleton_self 0⟩

/-- The bytes before the first zero are those of the characters before the first NUL. -/
theorem takeWhile_encode (cs : List Char) (rest : Bytes) :
    (encode (.ofList cs) ++ 0 :: rest).takeWhile (· ≠ 0) =
      encode (.ofList (cs.takeWhile (· ≠ '\x00'))) := by
  simp only [encode_ofList]
  induction cs with
  | nil => simp
  | cons c cs ih =>
    by_cases hc : c = '\x00'
    · simp [hc, encode_nul]
    · have hne : ∀ b ∈ String.utf8EncodeChar c, decide (b ≠ 0) = true := fun b hb =>
        decide_eq_true (ne_zero_of_mem_encodeChar hc hb)
      rw [List.flatMap_cons, List.append_assoc, List.takeWhile_append_of_pos hne, ih]
      simp [hc]

end Utf8

namespace Letters

theorem toLower_eq_self_iff (c : Char) : c.toLower = c ↔ c.isUpper = false := by
  by_cases h : c.val ≥ 'A'.val ∧ c.val ≤ 'Z'.val
  · have hu : c.isUpper = true := decide_eq_true h
    refine ⟨fun e => ?_, fun k => absurd (hu.symm.trans k) (by decide)⟩
    have hv : c.val + 32 = c.val := (val_toLower h).symm.trans (congrArg Char.val e)
    simp at hv
  · have hu : c.isUpper = false := decide_eq_false h
    exact ⟨fun _ => hu, fun _ => toLower_eq_self h⟩

/-- A text without capital letters is as it is without regard to case. -/
theorem fold_eq_self_iff (s : String) : fold s = s ↔ ∀ c ∈ s.toList, c.isUpper = false := by
  rw [fold, ← String.toList_inj, String.toList_ofList]
  conv_lhs => rw [← List.map_id s.toList, List.map_map]
  rw [List.map_inj_left]
  exact forall₂_congr fun c _ => toLower_eq_self_iff c

/-- The null character comes of itself alone. -/
theorem toLower_eq_nul {c : Char} (h : c.toLower = '\x00') : c = '\x00' := by
  by_cases hu : c.val ≥ 'A'.val ∧ c.val ≤ 'Z'.val
  · have hn : 65 ≤ c.val.toNat ∧ c.val.toNat ≤ 90 := hu
    have hv : (c.val + 32).toNat = 0 := by
      rw [← val_toLower hu, h]
      rfl
    rw [UInt32.toNat_add] at hv
    change (c.val.toNat + 32) % 2 ^ 32 = 0 at hv
    omega
  · rwa [toLower_eq_self hu] at h

/-- Folding makes no NUL. -/
theorem nul_not_mem_fold {s : String} (h : '\x00' ∉ s.toList) : '\x00' ∉ (fold s).toList := by
  rw [fold, String.toList_ofList, List.mem_map]
  rintro ⟨c, hc, hlower⟩
  exact h (toLower_eq_nul hlower ▸ hc)

end Letters

end TrivialFtp
