import Attenuation.Decimal.Binary

/-!
# Shortest decimals

The shortest decimal of a magnitude has the fewest digits among the decimals that round to it,
and among those of that length it is the nearest. For each number of digits only the two
neighbours of the magnitude on the grid of that length can qualify, so the search tests those
two. Two candidates equally near are told apart by a tie rule of the format that asks.
-/

namespace Attenuation.Decimal

/-- Which of two equally near decimals of the same length is written. -/
inductive Tie where
  /-- The decimal whose last digit is even. -/
  | toEven
  /-- The larger decimal. -/
  | upward
deriving Repr, DecidableEq

/-- The numerator of a magnitude counted in units of `10 ^ grid`. -/
def Binary.gridNumerator (x : Binary) (grid : Int) : Nat :=
  x.mantissa * twoTo x.exponent.toNat * tenTo (-grid).toNat

/-- The denominator of a magnitude counted in units of `10 ^ grid`. -/
def Binary.gridDenominator (x : Binary) (grid : Int) : Nat :=
  twoTo (-x.exponent).toNat * tenTo grid.toNat

/-- Whether a magnitude is below `10 ^ scale`. -/
def Binary.below (x : Binary) (scale : Int) : Bool :=
  compareScaled 1 scale x.mantissa x.exponent == .gt

/-- The least power of ten above a magnitude. The binary logarithm estimates it to within
three, and exact comparisons settle it. -/
def Binary.scale (x : Binary) : Int :=
  let estimate := ((x.mantissa.log2 : Int) + x.exponent) * 30103 / 100000
  if x.below estimate then estimate
  else if x.below (estimate + 1) then estimate + 1
  else if x.below (estimate + 2) then estimate + 2
  else estimate + 3

/-- The nearer of the two grid neighbours `lower` and `lower + 1` of `numerator / denominator`. -/
def nearer (tie : Tie) (numerator denominator lower : Nat) : Nat :=
  match compare (2 * numerator) ((2 * lower + 1) * denominator) with
  | .lt => lower
  | .gt => lower + 1
  | .eq =>
    match tie with
    | .upward => lower + 1
    | .toEven => if lower % 2 = 0 then lower else lower + 1

/-- The decimal on the grid `10 ^ grid` that reads back as a magnitude and is nearest to it. -/
def Binary.onGrid? (x : Binary) (tie : Tie) (grid : Int) : Option Numeral :=
  let numerator := x.gridNumerator grid
  let denominator := x.gridDenominator grid
  let lower := numerator / denominator
  match x.readsBack ⟨lower, grid⟩, x.readsBack ⟨lower + 1, grid⟩ with
  | true, true => some ⟨nearer tie numerator denominator lower, grid⟩
  | true, false => some ⟨lower, grid⟩
  | false, true => some ⟨lower + 1, grid⟩
  | false, false => none

/-- Move trailing zero digits into the exponent, at most `fuel` of them. -/
def Numeral.trim : Nat → Numeral → Numeral
  | 0, d => d
  | fuel + 1, d =>
    if d.digits % 10 = 0 && d.digits != 0 then trim fuel ⟨d.digits / 10, d.exponent + 1⟩ else d

/-- The exact decimal value of a magnitude. -/
def Binary.exact (x : Binary) : Numeral :=
  ⟨x.mantissa * twoTo x.exponent.toNat * (tenTo (-x.exponent).toNat / twoTo (-x.exponent).toNat),
    if x.exponent < 0 then x.exponent else 0⟩

/-- The shortest decimal of a magnitude other than zero. Seventeen digits suffice for every
double; the exact value stands behind them so that the answer always reads back. -/
def Binary.shortest (x : Binary) (tie : Tie) : Numeral :=
  let scale := x.scale
  let found := (List.range 17).findSome? fun (length : Nat) =>
    x.onGrid? tie (scale - (length + 1 : Nat))
  let chosen := found.getD x.exact
  chosen.trim (Nat.toDigits 10 chosen.digits).length

end Attenuation.Decimal
