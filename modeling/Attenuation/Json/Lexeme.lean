import Attenuation.Decimal.Literal
import Attenuation.Json.Fault

/-!
# Lexemes of JSON

Readers of white space, of the literal words, of strings and of numbers. A reader takes what it
reads from the front of the text and leaves the rest.

A number is collected into a significand of sixty-four bits and a power of ten. Digits that no
longer fit are dropped: in front of the point they raise the power of ten, behind it they do
not count. The significand is then rounded to a double and scaled by a rounded power of ten, so
the double that is read may differ in its last place from the one nearest to the text.
-/

namespace Attenuation.Json

open Decimal (digitValue digitsValue splitDigits splitSign withSign)

/-- A reader of the front of a text. -/
abbrev Reader (α : Type) := StateT (List Char) (Except Fault) α

/-- Whether a character is white space between lexemes. -/
def isSpace (c : Char) : Bool := c == ' ' || c == '\n' || c == '\t' || c == '\r'

/-- Pass over white space and look at the character behind it. -/
def peek : Reader (Option Char) := do
  modify fun text => text.dropWhile isSpace
  return (← get).head?

/-- Pass over one character. -/
def advance : Reader Unit := modify List.tail

/-- Read the letters of a literal word. A text that ends inside it is cut short; another letter
is no JSON. -/
def readLetters : List Char → List Char → Except Fault (List Char)
  | [], text => .ok text
  | _ :: _, [] => .error .truncated
  | letter :: letters, c :: rest =>
    if c = letter then readLetters letters rest else .error .malformed

/-- Read the letters of a literal word behind its first. -/
def readWord (letters : List Char) : Reader Unit := fun text => do
  return ((), ← readLetters letters text)

/-- The value of a hexadecimal digit. -/
def hexValue? (c : Char) : Option Nat :=
  if c.isDigit then some (digitValue c)
  else if 'a' ≤ c && c ≤ 'f' then some (c.toNat - 'a'.toNat + 10)
  else if 'A' ≤ c && c ≤ 'F' then some (c.toNat - 'A'.toNat + 10)
  else none

/-- The value of four hexadecimal digits. -/
def hexUnit? (a b c d : Char) : Option Nat := do
  return (((← hexValue? a) * 16 + (← hexValue? b)) * 16 + (← hexValue? c)) * 16 + (← hexValue? d)

/-- The fault of an escape with fewer than four characters behind it: the text is cut short when
they are fewer than four bytes, and otherwise one of them is no digit. -/
def shortEscape (text : List Char) : Fault :=
  if 4 ≤ text.foldl (fun size c => size + c.utf8Size) 0 then .malformed else .truncated

/-- The character that a one-letter escape stands for. -/
def simpleEscape? (c : Char) : Option Char :=
  if c = '"' then some '"'
  else if c = '\\' then some '\\'
  else if c = '/' then some '/'
  else if c = 'b' then some '\x08'
  else if c = 'f' then some '\x0c'
  else if c = 'n' then some '\n'
  else if c = 'r' then some '\r'
  else if c = 't' then some '\t'
  else none

/-- Whether a unit opens a surrogate pair. -/
def isHighSurrogate (unit : Nat) : Bool := 0xD800 ≤ unit && unit ≤ 0xDBFF

/-- Whether a unit closes a surrogate pair. -/
def isLowSurrogate (unit : Nat) : Bool := 0xDC00 ≤ unit && unit ≤ 0xDFFF

/-- The character of a surrogate pair. -/
def pairedChar (high low : Nat) : Char :=
  Char.ofNat (0x10000 + (high - 0xD800) * 0x400 + (low - 0xDC00))

/-- Put a character in front of what is read of a string. -/
def consRead (c : Char) : Except Fault (List Char × List Char) →
    Except Fault (List Char × List Char)
  | .ok (value, rest) => .ok (c :: value, rest)
  | .error fault => .error fault

/-- Read a string behind its opening quote. Surrogates have to come in pairs. -/
def readStringBody : List Char → Except Fault (List Char × List Char)
  | [] => .error .truncated
  | c :: rest =>
    if c = '"' then .ok ([], rest)
    else if c = '\\' then
      match rest with
      | [] => .error .truncated
      | letter :: rest =>
        if letter = 'u' then
          match rest with
          | d1 :: d2 :: d3 :: d4 :: rest =>
            match hexUnit? d1 d2 d3 d4 with
            | none => .error .malformed
            | some unit =>
              if isLowSurrogate unit then .error .malformed
              else if isHighSurrogate unit then
                match rest with
                | [] => .error .truncated
                | [slash] => .error (if slash = '\\' then .truncated else .malformed)
                | slash :: mark :: rest =>
                  if slash = '\\' && mark = 'u' then
                    match rest with
                    | e1 :: e2 :: e3 :: e4 :: rest =>
                      match hexUnit? e1 e2 e3 e4 with
                      | none => .error .malformed
                      | some low =>
                        if isLowSurrogate low then
                          consRead (pairedChar unit low) (readStringBody rest)
                        else .error .malformed
                    | short => .error (shortEscape short)
                  else .error .malformed
              else consRead (Char.ofNat unit) (readStringBody rest)
          | short => .error (shortEscape short)
        else
          match simpleEscape? letter with
          | some character => consRead character (readStringBody rest)
          | none => .error .malformed
    else if c.toNat < 0x20 then .error .malformed
    else consRead c (readStringBody rest)

/-- Pass over a string behind its opening quote. An escaped unit needs four digits and may be
any surrogate. -/
def skipStringBody : List Char → Except Fault (List Char)
  | [] => .error .truncated
  | c :: rest =>
    if c = '"' then .ok rest
    else if c = '\\' then
      match rest with
      | [] => .error .truncated
      | letter :: rest =>
        if letter = 'u' then
          match rest with
          | d1 :: d2 :: d3 :: d4 :: rest =>
            match hexUnit? d1 d2 d3 d4 with
            | none => .error .malformed
            | some _ => skipStringBody rest
          | short => .error (shortEscape short)
        else if (simpleEscape? letter).isSome then skipStringBody rest
        else .error .malformed
    else if c.toNat < 0x20 then .error .malformed
    else skipStringBody rest

/-- Read a string behind its opening quote. -/
def readString : Reader String := fun text => do
  let (value, rest) ← readStringBody text
  return (String.ofList value, rest)

/-- A number as it is read. -/
inductive Number where
  /-- A whole number of at most sixty-four bits. -/
  | natural (value : Nat)
  /-- A whole number below zero, down to `-2 ^ 63`, by its magnitude. -/
  | negative (magnitude : Nat)
  /-- Any other number. -/
  | real (value : Float)

/-- A number where something else was expected. -/
def Number.found : Number → Found
  | .natural value => .integer value
  | .negative magnitude => .integer (-magnitude)
  | .real value => .real value

/-- The greatest significand, `2 ^ 64 - 1`. -/
def greatestSignificand : Nat := 0xFFFFFFFFFFFFFFFF

/-- Collect digits into a significand until the next one would not fit. The answer is the
significand, how many digits were collected, and the text behind them. -/
def collectDigits (significand count : Nat) : List Char → Nat × Nat × List Char
  | [] => (significand, count, [])
  | c :: rest =>
    if c.isDigit && 10 * significand + digitValue c ≤ greatestSignificand then
      collectDigits (10 * significand + digitValue c) (count + 1) rest
    else (significand, count, c :: rest)

/-- A rounded power of ten, for an exponent up to 308. -/
def powerOfTen (exponent : Nat) : Float := Float.ofScientific 1 false exponent

/-- Divide by `10 ^ 308` as often as `steps` says, but stop at zero, and then by
`10 ^ remainder`. -/
def divideByPowers (remainder : Nat) : Nat → Float → Float
  | 0, value => value / powerOfTen remainder
  | steps + 1, value =>
    if value == 0.0 then value
    else divideByPowers remainder steps (value / powerOfTen 308)

/-- Scale a rounded significand by a power of ten. There is no answer beyond the range of
doubles. -/
def scaleSignificand? (significand : Nat) (exponent : Int) : Option Float :=
  let value := Float.ofNat significand
  if exponent < 0 then
    let places := exponent.natAbs
    let steps := (places - 1) / 308
    some (divideByPowers (places - 308 * steps) steps value)
  else if exponent ≤ 308 then
    let scaled := value * powerOfTen exponent.toNat
    if scaled.isFinite then some scaled else none
  else if significand = 0 then some value
  else none

/-- The number of a significand and a power of ten. -/
def realNumber (negative : Bool) (significand : Nat) (exponent : Int) : Except Fault Number :=
  match scaleSignificand? significand exponent with
  | some value => .ok (.real (withSign negative value))
  | none => .error .malformed

/-- The greatest exponent that is carried out, `2 ^ 31 - 1`. -/
def greatestExponent : Nat := 0x7FFFFFFF

/-- Read the exponent of a number behind its mark and finish the number. An exponent of more than
thirty-one bits makes zero of a number, or puts it beyond the range of doubles. -/
def readExponent (negative : Bool) (significand : Nat) (start : Int) (text : List Char) :
    Except Fault (Number × List Char) :=
  let (down, digits) := splitSign text
  match digits with
  | [] => .error .truncated
  | c :: _ =>
    if c.isDigit then
      let (digits, rest) := splitDigits digits
      let size := digitsValue digits
      if greatestExponent < size then
        if significand ≠ 0 && !down then .error .malformed
        else .ok (.real (withSign negative 0.0), rest)
      else do
        let exponent : Int := if down then start - size else start + size
        return (← realNumber negative significand exponent, rest)
    else .error .malformed

/-- Finish a number that has a fraction or too many digits, with or without an exponent. -/
def finishReal (negative : Bool) (significand : Nat) (exponent : Int) (text : List Char) :
    Except Fault (Number × List Char) :=
  match text with
  | c :: rest =>
    if c = 'e' || c = 'E' then readExponent negative significand exponent rest
    else do return (← realNumber negative significand exponent, text)
  | [] => do return (← realNumber negative significand exponent, [])

/-- Read the fraction of a number behind its point and finish the number. Digits that no longer
fit the significand do not count. -/
def readFraction (negative : Bool) (significand : Nat) (start : Int) (text : List Char) :
    Except Fault (Number × List Char) :=
  match text with
  | [] => .error .truncated
  | c :: _ =>
    if c.isDigit then
      let (significand, count, rest) := collectDigits significand 0 text
      finishReal negative significand (start - count) (splitDigits rest).2
    else .error .malformed

/-- The magnitude of the least whole number, `2 ^ 63`. -/
def greatestNegative : Nat := 0x8000000000000000

/-- A whole number without fraction, exponent or dropped digits. A negative zero is real, and so
is a number below `-2 ^ 63`. -/
def wholeNumber (negative : Bool) (significand : Nat) : Number :=
  if !negative then .natural significand
  else if 0 < significand && significand ≤ greatestNegative then .negative significand
  else .real (-(Float.ofNat significand))

/-- Finish a number behind the digits in front of its point, of which `dropped` did not fit. -/
def finishNumber (negative : Bool) (significand dropped : Nat) (text : List Char) :
    Except Fault (Number × List Char) :=
  match text with
  | '.' :: rest => readFraction negative significand dropped rest
  | _ =>
    if dropped = 0 then
      match text with
      | c :: rest =>
        if c = 'e' || c = 'E' then readExponent negative significand 0 rest
        else .ok (wholeNumber negative significand, text)
      | [] => .ok (wholeNumber negative significand, [])
    else finishReal negative significand dropped text

/-- Read a number behind its sign. A leading zero stands alone. -/
def readMagnitude (negative : Bool) (text : List Char) : Except Fault (Number × List Char) :=
  match text with
  | [] => .error .truncated
  | '0' :: rest =>
    if (rest.head?.map Char.isDigit).getD false then .error .malformed
    else finishNumber negative 0 0 rest
  | c :: _ =>
    if c.isDigit then
      let (significand, _, rest) := collectDigits 0 0 text
      let (dropped, rest) := splitDigits rest
      finishNumber negative significand dropped.length rest
    else .error .malformed

/-- Read a number behind its sign. -/
def readNumber (negative : Bool) : Reader Number := readMagnitude negative

/-- Pass over the digits of a number whose size does not matter. At least one is needed, and none
at the end of the text is no JSON. -/
def skipDigits (text : List Char) : Except Fault (List Char) :=
  match text with
  | c :: _ => if c.isDigit then .ok (splitDigits text).2 else .error .malformed
  | [] => .error .malformed

/-- Pass over an exponent. -/
def skipExponent (text : List Char) : Except Fault (List Char) :=
  match text with
  | c :: rest =>
    if c = 'e' || c = 'E' then skipDigits (splitSign rest).2 else .ok text
  | [] => .ok []

/-- Pass over a fraction and an exponent. -/
def skipFraction (text : List Char) : Except Fault (List Char) :=
  match text with
  | '.' :: rest => do skipExponent (← skipDigits rest)
  | _ => skipExponent text

/-- Pass over a number of any size behind its sign. -/
def skipMagnitude (text : List Char) : Except Fault (List Char) :=
  match text with
  | '0' :: rest =>
    if (rest.head?.map Char.isDigit).getD false then .error .malformed else skipFraction rest
  | _ => do skipFraction (← skipDigits text)

end Attenuation.Json
