import Attenuation.Decimal.Binary

/-!
# Number texts

How the text of a level and the text of an index are read. A level is a decimal with an optional
sign, point and exponent, or one of the words for infinity and for no number, and it is rounded
to the nearest double. An index is an optional plus sign and digits.
-/

namespace Attenuation.Decimal

/-- The value of a digit character. -/
def digitValue (c : Char) : Nat := c.toNat - '0'.toNat

/-- The value of a list of digit characters. -/
def digitsValue (digits : List Char) : Nat :=
  digits.foldl (fun value digit => 10 * value + digitValue digit) 0

/-- The double nearest to `digits * 10 ^ exponent`. An exponent that puts the value far outside
the range of doubles is not carried out. -/
def nearestDouble (digits : Nat) (exponent : Int) : Float :=
  let size := (Nat.toDigits 10 digits).length
  if digits = 0 then 0.0
  else if exponent + size < -400 then 0.0
  else if 400 < exponent + size then 1.0 / 0.0
  else Float.ofScientific digits (exponent < 0) exponent.natAbs

/-- Why a text is not a level. -/
inductive LevelTextFault where
  /-- There is no text. -/
  | empty
  /-- The text is no number. -/
  | invalid
deriving Repr, DecidableEq

/-- What the fault says. -/
def LevelTextFault.message : LevelTextFault → String
  | .empty => "cannot parse float from empty string"
  | .invalid => "invalid float literal"

/-- A sign in front of a text, true for a minus, and the text behind it. -/
def splitSign : List Char → Bool × List Char
  | '+' :: rest => (false, rest)
  | '-' :: rest => (true, rest)
  | text => (false, text)

/-- The digits at the front of a text and the text behind them. -/
def splitDigits (text : List Char) : List Char × List Char :=
  (text.takeWhile Char.isDigit, text.dropWhile Char.isDigit)

/-- The digits behind a decimal point at the front of a text and the text behind them. -/
def splitFraction : List Char → List Char × List Char
  | '.' :: rest => splitDigits rest
  | text => ([], text)

/-- The exponent that ends a text: nothing, or a mark, an optional sign and digits. -/
def readExponent? : List Char → Option Int
  | [] => some 0
  | mark :: rest =>
    if mark = 'e' || mark = 'E' then
      let (negative, rest) := splitSign rest
      let (digits, rest) := splitDigits rest
      if digits.isEmpty || !rest.isEmpty then none
      else
        let size : Int := digitsValue digits
        some (if negative then -size else size)
    else none

/-- The magnitude of a decimal text without a sign. At least one digit stands beside the
point. -/
def readMagnitude? (text : List Char) : Option Float :=
  let (whole, rest) := splitDigits text
  let (fraction, rest) := splitFraction rest
  if whole.isEmpty && fraction.isEmpty then none
  else
    (readExponent? rest).map fun exponent =>
      nearestDouble (digitsValue (whole ++ fraction)) (exponent - fraction.length)

/-- The values that are written as words, in letters of either case. -/
def readWord? (text : List Char) : Option Float :=
  match String.ofList (text.map Char.toLower) with
  | "inf" => some (1.0 / 0.0)
  | "infinity" => some (1.0 / 0.0)
  | "nan" => some (0.0 / 0.0)
  | _ => none

/-- The level that a text stands for. -/
def readLevel (text : List Char) : Except LevelTextFault Float :=
  if text.isEmpty then .error .empty
  else
    let (negative, rest) := splitSign text
    match readWord? rest <|> readMagnitude? rest with
    | some magnitude => .ok (withSign negative magnitude)
    | none => .error .invalid

/-- Why a text is not an index. -/
inductive IndexTextFault where
  /-- There is no text. -/
  | empty
  /-- A character is no digit. -/
  | invalidDigit
  /-- The digits stand for a number of more than sixty-four bits. -/
  | overflow
deriving Repr, DecidableEq

/-- What the fault says. -/
def IndexTextFault.message : IndexTextFault → String
  | .empty => "cannot parse integer from empty string"
  | .invalidDigit => "invalid digit found in string"
  | .overflow => "number too large to fit in target type"

/-- The greatest index, `2 ^ 64 - 1`. -/
def greatestIndex : Nat := 0xFFFFFFFFFFFFFFFF

/-- Read the remaining digits of an index. The leftmost problem is reported: a character that is
no digit before the digits in front of it have overflowed, or the overflow. -/
def readIndexDigits (value : Nat) : List Char → Except IndexTextFault Nat
  | [] => .ok value
  | c :: rest =>
    if c.isDigit then
      let next := 10 * value + digitValue c
      if greatestIndex < next then .error .overflow else readIndexDigits next rest
    else .error .invalidDigit

/-- The index that a text stands for. -/
def readIndex : List Char → Except IndexTextFault Nat
  | [] => .error .empty
  | ['+'] => .error .invalidDigit
  | '+' :: rest => readIndexDigits 0 rest
  | text => readIndexDigits 0 text

end Attenuation.Decimal
