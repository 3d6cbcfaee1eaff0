/-!
# Binary magnitudes

A finite double is a sign and a magnitude `mantissa * 2 ^ exponent`. This module takes the bits
of a double apart and says which decimals lie among the reals that round to a magnitude, in
exact arithmetic on natural numbers. Every decimal text of a level is chosen through
`Binary.readsBack`.
-/

namespace Attenuation.Decimal

/-- `2 ^ exponent`. -/
def twoTo (exponent : Nat) : Nat := Nat.pow 2 exponent

/-- `10 ^ exponent`. -/
def tenTo (exponent : Nat) : Nat := Nat.pow 10 exponent

/-- The magnitude of a finite double, `mantissa * 2 ^ exponent`. -/
structure Binary where
  /-- The integer significand. -/
  mantissa : Nat
  /-- The power of two that scales the significand. -/
  exponent : Int
  /-- The gap to the magnitude below is half the gap to the magnitude above. -/
  narrowBelow : Bool
deriving Repr, DecidableEq

/-- A double taken apart: a signed finite magnitude, an infinity, or not a number. -/
inductive Parts where
  /-- A finite double. -/
  | finite (negative : Bool) (magnitude : Binary)
  /-- An infinity. -/
  | infinite (negative : Bool)
  /-- Not a number. -/
  | notANumber
deriving Repr, DecidableEq

/-- The magnitude that eleven exponent bits and fifty-two fraction bits stand for. -/
def Binary.ofFields (biased fraction : Nat) : Binary :=
  if biased = 0 then ⟨fraction, -1074, false⟩
  else ⟨twoTo 52 + fraction, (biased : Int) - 1075, fraction = 0 && 1 < biased⟩

/-- Whether the sign bit of a double is set. -/
def isNegative (x : Float) : Bool := x.toBits >>> 63 == 1

/-- Give a non-negative double a sign. -/
def withSign (negative : Bool) (x : Float) : Float := if negative then -x else x

/-- A double by its sign, exponent and fraction bits. -/
def Parts.ofFloat (x : Float) : Parts :=
  let bits := x.toBits.toNat
  let biased := bits / twoTo 52 % twoTo 11
  let fraction := bits % twoTo 52
  if biased = twoTo 11 - 1 then
    if fraction = 0 then .infinite (isNegative x) else .notANumber
  else .finite (isNegative x) (Binary.ofFields biased fraction)

/-- A decimal magnitude, `digits * 10 ^ exponent`. -/
structure Numeral where
  /-- The significant digits as one number. -/
  digits : Nat
  /-- The power of ten that scales the digits. -/
  exponent : Int
deriving Repr, DecidableEq

/-- Compare `a * 10 ^ i` with `b * 2 ^ j` by cross-multiplying natural numbers. -/
def compareScaled (a : Nat) (i : Int) (b : Nat) (j : Int) : Ordering :=
  compare (a * tenTo i.toNat * twoTo (-j).toNat) (b * twoTo j.toNat * tenTo (-i).toNat)

/-- Whether a decimal lies among the reals that round to a magnitude: between the midpoints to
its two neighbours, the midpoints included exactly when the mantissa is even. -/
def Binary.readsBack (x : Binary) (d : Numeral) : Bool :=
  let low := if x.narrowBelow then 4 * x.mantissa - 1 else 4 * x.mantissa - 2
  let high := 4 * x.mantissa + 2
  let closed := x.mantissa % 2 == 0
  let aboveLow := compareScaled d.digits d.exponent low (x.exponent - 2)
  let belowHigh := compareScaled d.digits d.exponent high (x.exponent - 2)
  (aboveLow == .gt || (closed && aboveLow == .eq)) &&
    (belowHigh == .lt || (closed && belowHigh == .eq))

end Attenuation.Decimal
