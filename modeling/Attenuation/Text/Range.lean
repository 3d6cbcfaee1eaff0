/-!
# Ranges of code points

Character classes of Unicode are given as ascending ranges of code points.
-/

namespace Attenuation.Text

/-- A range of code points, both ends included. -/
abbrev CodeRange := Nat × Nat

/-- Whether a code point lies in one of the ranges. -/
def inRanges (ranges : Array CodeRange) (code : Nat) : Bool :=
  ranges.any fun (first, last) => first ≤ code && code ≤ last

end Attenuation.Text
