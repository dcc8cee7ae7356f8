import TrivialFtp.Text.Numeral

/-!
# Fixed-point decimals

A binary fraction written with a fixed number of decimal places.  The value is taken exactly and
rounded once, to the nearest decimal with that many places; a tie goes to the even neighbour.

- `roundDiv_near`: the rounded quotient is within half a unit of the exact one.
-/

namespace TrivialFtp.FixedPoint

/-- The integer nearest to `num / den`, the even one of two that are equally near. -/
def roundDiv (num den : Nat) : Nat :=
  let q := num / den
  let r := num % den
  if den < 2 * r ∨ (den = 2 * r ∧ q % 2 = 1) then q + 1 else q

theorem roundDiv_near (num den : Nat) (h : 0 < den) :
    2 * (roundDiv num den * den) ≤ 2 * num + den ∧ 2 * num ≤ 2 * (roundDiv num den * den) + den := by
  have hd := Nat.div_add_mod num den
  have hr := Nat.mod_lt num h
  have hm : den * (num / den) = num / den * den := Nat.mul_comm ..
  simp only [roundDiv]
  split
  · rw [Nat.add_mul]
    omega
  · omega

/-- A number of units of `10 ^ -places` as a decimal with `places` places. -/
def writeUnits (places n : Nat) : String :=
  let fraction := Nat.toDigits 10 (n % Nat.pow 10 places)
  let padded := List.replicate (places - fraction.length) '0' ++ fraction
  Numeral.write (n / Nat.pow 10 places) ++ "." ++ .ofList padded

/-- The value `significand * 2 ^ exponent` of a finite non-negative double; the exponent is
returned with 1075 added. -/
def parts (x : Float) : Nat × Nat :=
  let bits := x.toBits.toNat % Nat.pow 2 63
  let exponent := bits / Nat.pow 2 52
  let fraction := bits % Nat.pow 2 52
  if exponent = 0 then (fraction, 1) else (Nat.pow 2 52 + fraction, exponent)

/-- A finite non-negative double with `places` places after the point. -/
def write (places : Nat) (x : Float) : String :=
  let (significand, exponent) := parts x
  let num := significand * Nat.pow 10 places * Nat.pow 2 (exponent - 1075)
  writeUnits places (roundDiv num (Nat.pow 2 (1075 - exponent)))

end TrivialFtp.FixedPoint
