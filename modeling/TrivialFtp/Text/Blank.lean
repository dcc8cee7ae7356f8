/-!
# Blank characters

The characters with the Unicode property `White_Space`, and the part of a text between the
blanks at its two ends.  Numbers in option values may stand between blanks.
-/

namespace TrivialFtp.Blank

/-- The code points with the property `White_Space`, as closed ranges in ascending order. -/
def ranges : List (Nat × Nat) :=
  [(0x09, 0x0D), (0x20, 0x20), (0x85, 0x85), (0xA0, 0xA0), (0x1680, 0x1680), (0x2000, 0x200A),
    (0x2028, 0x2029), (0x202F, 0x202F), (0x205F, 0x205F), (0x3000, 0x3000)]

/-- Whether a character has the property `White_Space`. -/
def isBlank (c : Char) : Bool := ranges.any fun r => r.1 ≤ c.toNat && c.toNat ≤ r.2

/-- The characters without the blanks at the end. -/
def dropRight (cs : List Char) : List Char := (cs.reverse.dropWhile isBlank).reverse

/-- The text without the blanks before the first and after the last other character. -/
def trim (s : String) : String := .ofList (dropRight (s.toList.dropWhile isBlank))

end TrivialFtp.Blank
