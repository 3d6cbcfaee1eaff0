import Attenuation.Decimal.Shortest

/-!
# Layouts of decimal text

A layout holds every decision of a number format that uses shortest digits: which exponents are
written positionally, whether a whole number keeps a point, how an exponent is signed, and the
words for the values that have no digits. `Layout.render` is the one printer for all of them.
-/

namespace Attenuation.Decimal

/-- The decisions of one number format. -/
structure Layout where
  /-- The exponents of the leading digit, first and last, that are written positionally; none
  means that every exponent is. -/
  positional : Option (Int × Int)
  /-- A whole number written positionally keeps the decimals `.0`. -/
  wholeKeepsPoint : Bool
  /-- An exponent that is not negative carries a plus sign. -/
  signedExponent : Bool
  /-- Which of two equally near shortest decimals is written. -/
  tie : Tie
  /-- The word for a value that is not a number. -/
  notANumber : List Char
  /-- The word for positive infinity. -/
  infinity : List Char
  /-- The word for negative infinity. -/
  negativeInfinity : List Char

namespace Layout

/-- Whether a leading digit at this exponent is written positionally. -/
def isPositional (layout : Layout) (leading : Int) : Bool :=
  match layout.positional with
  | none => true
  | some (first, last) => first ≤ leading && leading ≤ last

/-- What follows the digits of a whole number. -/
def wholeEnding (layout : Layout) : List Char :=
  if layout.wholeKeepsPoint then ['.', '0'] else []

/-- Digits written around a decimal point, the leading digit at `10 ^ leading`. -/
def positionalText (layout : Layout) (digits : List Char) (leading : Int) : List Char :=
  if leading < 0 then
    '0' :: '.' :: (List.replicate (-leading - 1).toNat '0' ++ digits)
  else
    let whole := leading.toNat + 1
    if digits.length ≤ whole then
      digits ++ List.replicate (whole - digits.length) '0' ++ layout.wholeEnding
    else digits.take whole ++ '.' :: digits.drop whole

/-- Digits written with one digit before the point and a power of ten behind them. -/
def exponentText (layout : Layout) (digits : List Char) (leading : Int) : List Char :=
  let fraction := digits.drop 1
  let point := if fraction.isEmpty then [] else '.' :: fraction
  let sign := if leading < 0 then ['-'] else if layout.signedExponent then ['+'] else []
  digits.take 1 ++ point ++ 'e' :: (sign ++ Nat.toDigits 10 leading.natAbs)

/-- A decimal other than zero in this layout. -/
def decimalText (layout : Layout) (d : Numeral) : List Char :=
  let digits := Nat.toDigits 10 d.digits
  let leading := d.exponent + (digits.length : Int) - 1
  if layout.isPositional leading then layout.positionalText digits leading
  else layout.exponentText digits leading

/-- A magnitude in this layout, by its shortest digits. -/
def magnitudeText (layout : Layout) (x : Binary) : List Char :=
  if x.mantissa = 0 then '0' :: layout.wholeEnding
  else layout.decimalText (x.shortest layout.tie)

/-- A double in this layout. The sign of a zero is written. -/
def render (layout : Layout) (x : Float) : List Char :=
  match Parts.ofFloat x with
  | .notANumber => layout.notANumber
  | .infinite false => layout.infinity
  | .infinite true => layout.negativeInfinity
  | .finite false magnitude => layout.magnitudeText magnitude
  | .finite true magnitude => '-' :: layout.magnitudeText magnitude

end Layout

end Attenuation.Decimal
