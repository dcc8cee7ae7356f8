import TrivialFtp.Text.Blank

/-!
# Numerals

Decimal numerals for words of a fixed width: at least one digit, leading zeros and one leading
`+` allowed, and nothing at or beyond the bound of the word.

- `read?_write`: a number in range is read back from its numeral.
-/

namespace TrivialFtp.Numeral

/-- The value of a sequence of decimal digits, provided there is one and no other character. -/
def digits? (cs : List Char) : Option Nat :=
  if !cs.isEmpty && cs.all Char.isDigit then some (Nat.ofDigitChars 10 cs 0) else none

/-- The numeral without its sign, which may only be `+`. -/
def unsigned : List Char → List Char
  | '+' :: cs => cs
  | cs => cs

/-- The number below `bound` that a numeral stands for. -/
def read? (bound : Nat) (s : String) : Option Nat :=
  (digits? (unsigned s.toList)).filter (· < bound)

/-- The number below `bound` that a text stands for once the blanks at its ends are dropped. -/
def readTrimmed? (bound : Nat) (s : String) : Option Nat := read? bound (Blank.trim s)

/-- The shortest numeral of a number. -/
def write (n : Nat) : String := toString n

/-- The number of values of a 16-bit word. -/
abbrev word16 : Nat := 65536

/-- The number of values of a 32-bit word. -/
abbrev word32 : Nat := 4294967296

/-- The number of values of a 64-bit word. -/
abbrev word64 : Nat := 18446744073709551616

theorem toList_write (n : Nat) : (write n).toList = Nat.toDigits 10 n := Nat.toList_repr

theorem isDigit_of_mem_write {n : Nat} {c : Char} (h : c ∈ (write n).toList) : c.isDigit :=
  Nat.isDigit_of_mem_toDigits (by decide) (by decide) (toList_write n ▸ h)

theorem digits?_write (n : Nat) : digits? (write n).toList = some n := by
  have hall : (write n).toList.all Char.isDigit :=
    List.all_eq_true.2 fun _ h => isDigit_of_mem_write h
  have hne : (write n).toList.isEmpty = false := by
    simp [toList_write, Nat.toDigits_ne_nil]
  rw [digits?, hall, hne, toList_write, Nat.ofDigitChars_ten_toDigits]
  rfl

theorem unsigned_write (n : Nat) : unsigned (write n).toList = (write n).toList := by
  unfold unsigned
  split
  · next cs h =>
    have : '+'.isDigit := isDigit_of_mem_write (n := n) (h ▸ List.mem_cons_self)
    exact absurd this (by decide)
  · rfl

theorem read?_write {bound n : Nat} (h : n < bound) : read? bound (write n) = some n := by
  simp [read?, unsigned_write, digits?_write, h]

end TrivialFtp.Numeral
