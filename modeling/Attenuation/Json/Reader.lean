import Attenuation.Json.Skip

/-!
# Readers of shapes

Readers of the values that a record is made of. Each reads the value that it expects; from any
other value it reads only as much as is needed to name it.
-/

namespace Attenuation.Json

variable {α : Type}

/-- Refuse a text for its shape. -/
def refuse (mismatch : Mismatch) : Reader α := throw (.misshapen mismatch)

/-- Refuse the value that starts with a character. A scalar is read to be named, and a fault
inside it is reported before the mismatch. -/
def refuseValue (expected : String) (c : Char) : Reader α := do
  if c = 'n' then
    advance
    readWord ['u', 'l', 'l']
    refuse (.wrongKind .null expected)
  else if c = 't' then
    advance
    readWord ['r', 'u', 'e']
    refuse (.wrongKind (.boolean true) expected)
  else if c = 'f' then
    advance
    readWord ['a', 'l', 's', 'e']
    refuse (.wrongKind (.boolean false) expected)
  else if c = '-' then
    advance
    refuse (.wrongKind (← readNumber true).found expected)
  else if c.isDigit then
    refuse (.wrongKind (← readNumber false).found expected)
  else if c = '"' then
    advance
    refuse (.wrongKind (.text (← readString)) expected)
  else if c = '[' then refuse (.wrongKind .list expected)
  else if c = '\x7b' then refuse (.wrongKind .object expected)
  else throw .malformed

/-- Look at the first character of the value that has to follow. -/
def peekValue : Reader Char := do
  match ← peek with
  | none => throw .truncated
  | some c => return c

/-- Read a text. -/
def readText : Reader String := do
  let c ← peekValue
  if c = '"' then
    advance
    readString
  else refuseValue "a string" c

/-- Read a number of any form. -/
def numberReader (expected : String) : Reader Number := do
  let c ← peekValue
  if c = '-' then
    advance
    readNumber true
  else if c.isDigit then readNumber false
  else refuseValue expected c

/-- Read a whole number up to a limit. -/
def readBounded (expected : String) (limit : Nat) : Reader Nat := do
  match ← numberReader expected with
  | .natural value =>
    if value ≤ limit then return value else refuse (.outOfRange value expected)
  | .negative magnitude => refuse (.outOfRange (-magnitude) expected)
  | .real value => refuse (.wrongKind (.real value) expected)

/-- Read an index or a count. -/
def readIndex : Reader Nat := readBounded "usize" greatestSignificand

/-- Read a network port: a natural number of sixteen bits. -/
def readPort : Reader Nat := readBounded "u16" 0xFFFF

/-- Read a double. A whole number is rounded to one. -/
def readDouble : Reader Float := do
  match ← numberReader "f64" with
  | .natural value => return Float.ofNat value
  | .negative magnitude => return -(Float.ofNat magnitude)
  | .real value => return value

/-- Read a value that may be null. -/
def readOptional (item : Reader α) : Reader (Option α) := do
  match ← peek with
  | some 'n' =>
    advance
    readWord ['u', 'l', 'l']
    return none
  | _ => return some (← item)

/-- Look for another item of a list behind its open bracket: false at the closing bracket, which is
left in place. Behind an item a comma is needed, and an item behind a comma. -/
def peekItem (first : Bool) : Reader Bool := do
  match ← peek with
  | none => throw .truncated
  | some c =>
    if c = ']' then return false
    else if first then return true
    else if c = ',' then
      advance
      match ← peek with
      | none => throw .truncated
      | some c => if c = ']' then throw .malformed else return true
    else throw .malformed

/-- Read the items of a list behind its open bracket, and the closing bracket. Each item takes at
least one character, so the length of the text bounds their number. -/
def readItems (item : Reader α) : Nat → Bool → Reader (List α)
  | 0, _ => throw .truncated
  | fuel + 1, first => do
    if ← peekItem first then
      let value ← item
      return value :: (← readItems item fuel false)
    else
      advance
      return []

/-- Read a list. -/
def readList (item : Reader α) : Reader (List α) := do
  let c ← peekValue
  if c = '[' then
    advance
    readItems item ((← get).length + 1) true
  else refuseValue "a sequence" c

/-- Read a null. -/
def readNull : Reader Unit := do
  let c ← peekValue
  if c = 'n' then
    advance
    readWord ['u', 'l', 'l']
  else refuseValue "unit" c

/-- The choice of a name. -/
def choose (choices : List (String × α)) (name : String) : Reader α :=
  match choices.lookup name with
  | some choice => pure choice
  | none => refuse (.unknownChoice name (choices.map Prod.fst))

/-- Read the name of the one member of an object behind its open bracket. -/
def readChoiceName : Reader String := do
  let c ← peekValue
  if c = '"' then
    advance
    readString
  else throw .malformed

/-- Read one of several named choices: its name, or an object with that name and a null. -/
def readChoice (choices : List (String × α)) : Reader α := do
  let c ← peekValue
  if c = '"' then
    advance
    choose choices (← readString)
  else if c = '\x7b' then
    advance
    let choice ← choose choices (← readChoiceName)
    readColon
    readNull
    let c ← peekValue
    if c = '\x7d' then
      advance
      return choice
    else throw .malformed
  else throw .malformed

/-- Read one value that is the whole text, white space aside. -/
def readWhole (item : Reader α) (text : String) : Except Fault α :=
  match (do let value ← item; return (value, ← peek)).run text.toList with
  | .error fault => .error fault
  | .ok ((value, none), _) => .ok value
  | .ok ((_, some _), _) => .error .malformed

end Attenuation.Json
