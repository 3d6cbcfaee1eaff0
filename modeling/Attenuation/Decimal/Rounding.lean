import Attenuation.Decimal.Binary

/-!
# Rounding doubles

A double is rounded to the nearest whole number by exact arithmetic on its mantissa and exponent.
Halves go away from zero, and a zero keeps its sign.
-/

namespace Attenuation.Decimal

/-- The nearest whole number, halves away from zero. A magnitude whose exponent is not negative
is whole already. -/
def roundHalfAway (x : Float) : Float :=
  match Parts.ofFloat x with
  | .finite negative magnitude =>
    if 0 ≤ magnitude.exponent then x
    else
      let unit := twoTo (-magnitude.exponent).toNat
      withSign negative (Float.ofNat ((2 * magnitude.mantissa + unit) / (2 * unit)))
  | _ => x

end Attenuation.Decimal
