import Attenuation.Decimal.Layout

/-!
# JSON values and their text

A value is written over one of two styles: on one line without blanks, or on many lines indented
by two spaces. Members of an object keep their order. A real number is written by its shortest
digits, and one that is not finite is written as null.
-/

namespace Attenuation.Json

/-- A JSON value. -/
inductive Value where
  /-- Nothing. -/
  | null
  /-- A truth value. -/
  | boolean (value : Bool)
  /-- A natural number. -/
  | natural (value : Nat)
  /-- A real number. -/
  | real (value : Float)
  /-- A text. -/
  | text (value : String)
  /-- Values in order. -/
  | list (items : List Value)
  /-- Named values in order. -/
  | object (members : List (String × Value))

/-- Real numbers keep the point of a whole number, are positional from `1e-5` to below `1e16`, and
sign their exponents. -/
def numberLayout : Decimal.Layout where
  positional := some (-5, 15)
  wholeKeepsPoint := true
  signedExponent := true
  tie := .toEven
  notANumber := ['n', 'u', 'l', 'l']
  infinity := ['n', 'u', 'l', 'l']
  negativeInfinity := ['n', 'u', 'l', 'l']

/-- A real number as text. -/
def numberText (value : Float) : List Char := numberLayout.render value

/-- A digit of a hexadecimal number. -/
def hexDigit (value : Nat) : Char := (Nat.toDigits 16 value).headD '0'

/-- A character inside a JSON string. Only the quote, the backslash and the controls are
escaped. -/
def escapeChar (c : Char) : List Char :=
  if c = '"' then ['\\', '"']
  else if c = '\\' then ['\\', '\\']
  else if c = '\x08' then ['\\', 'b']
  else if c = '\t' then ['\\', 't']
  else if c = '\n' then ['\\', 'n']
  else if c = '\x0c' then ['\\', 'f']
  else if c = '\r' then ['\\', 'r']
  else if c.toNat < 0x20 then
    ['\\', 'u', '0', '0', hexDigit (c.toNat / 16), hexDigit (c.toNat % 16)]
  else [c]

/-- A text as a JSON string. -/
def stringText (value : String) : List Char :=
  '"' :: (value.toList.flatMap escapeChar ++ ['"'])

/-- Where a text breaks its lines and what stands behind a name. -/
structure Style where
  /-- The break before an item at a depth. -/
  lineBreak : Nat → List Char
  /-- What separates a name from its value. -/
  colon : List Char

/-- One line without blanks. -/
def Style.compact : Style := ⟨fun _ => [], [':']⟩

/-- A line for each item, indented by two spaces for each level. -/
def Style.indented : Style :=
  ⟨fun depth => '\n' :: List.replicate (2 * depth) ' ', [':', ' ']⟩

mutual

/-- A value as text, its own items one level below `depth`. -/
def Value.write (style : Style) (depth : Nat) : Value → List Char
  | .null => ['n', 'u', 'l', 'l']
  | .boolean true => ['t', 'r', 'u', 'e']
  | .boolean false => ['f', 'a', 'l', 's', 'e']
  | .natural value => Nat.toDigits 10 value
  | .real value => numberText value
  | .text value => stringText value
  | .list [] => ['[', ']']
  | .list (item :: items) =>
    '[' :: (style.lineBreak (depth + 1) ++ item.write style (depth + 1) ++
      writeItems style (depth + 1) items ++ style.lineBreak depth ++ [']'])
  | .object [] => ['\x7b', '\x7d']
  | .object ((name, value) :: members) =>
    '\x7b' :: (style.lineBreak (depth + 1) ++ stringText name ++ style.colon ++
      value.write style (depth + 1) ++ writeMembers style (depth + 1) members ++
      style.lineBreak depth ++ ['\x7d'])

/-- The further items of a list, each behind a comma. -/
def writeItems (style : Style) (depth : Nat) : List Value → List Char
  | [] => []
  | item :: items =>
    ',' :: (style.lineBreak depth ++ item.write style depth ++ writeItems style depth items)

/-- The further members of an object, each behind a comma. -/
def writeMembers (style : Style) (depth : Nat) : List (String × Value) → List Char
  | [] => []
  | (name, value) :: members =>
    ',' :: (style.lineBreak depth ++ stringText name ++ style.colon ++
      value.write style depth ++ writeMembers style depth members)

end

/-- A value on one line. -/
def Value.compact (value : Value) : String := String.ofList (value.write .compact 0)

/-- A value on indented lines. -/
def Value.pretty (value : Value) : String := String.ofList (value.write .indented 0)

/-- A value that may be missing. -/
def Value.optional {α : Type} (form : α → Value) : Option α → Value
  | none => .null
  | some value => form value

end Attenuation.Json
