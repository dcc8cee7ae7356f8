import TrivialFtp.Text.Numeral

/-!
# Block sizes

The number of payload bytes in every DATA packet but the last.  A block size is always in range,
so that a DATA packet with a full block fits into one datagram.
-/

namespace TrivialFtp

/-- A number of bytes between 8 and 65464. -/
structure BlockSize where
  size : Nat
  least_le : 8 ≤ size
  le_most : size ≤ 65464
  deriving DecidableEq, Repr

namespace BlockSize

/-- The smallest block size. -/
def least : Nat := 8

/-- The largest block size: with its four-byte header the block fills 65468 bytes. -/
def most : Nat := 65464

/-- The block size of a transfer that agreed on no other. -/
def standard : BlockSize := ⟨512, by decide, by decide⟩

instance : Inhabited BlockSize := ⟨standard⟩

/-- The block size of `n` bytes, if that is in range. -/
def ofNat? (n : Nat) : Option BlockSize :=
  if h : 8 ≤ n ∧ n ≤ 65464 then some ⟨n, h.1, h.2⟩ else none

/-- The block size nearest to `n` bytes. -/
def clamp (n : Nat) : BlockSize := ⟨min (max n 8) 65464, by omega, by omega⟩

/-- The block size an option value stands for: a number in range, blanks around it allowed. -/
def read? (value : String) : Option BlockSize :=
  (Numeral.readTrimmed? Numeral.word64 value).bind ofNat?

/-- The numeral of a block size. -/
def text (b : BlockSize) : String := Numeral.write b.size

theorem clamp_size (b : BlockSize) : clamp b.size = b := by
  have := b.least_le
  have := b.le_most
  simp only [clamp]
  congr 1
  omega

end BlockSize

end TrivialFtp
