import Attenuation.Json.Lexeme

/-!
# Passing over values

The value of an unknown field is passed over without being kept. It may nest to any depth, so the
reader is a machine with the open brackets on a stack. Numbers may be of any size, and strings
are held to the form of their escapes only.
-/

namespace Attenuation.Json

/-- A bracket that is open. -/
inductive Bracket where
  /-- The bracket of a list. -/
  | list
  /-- The bracket of an object. -/
  | object
deriving Repr, DecidableEq

/-- The character that closes a bracket. -/
def Bracket.close : Bracket → Char
  | .list => ']'
  | .object => '\x7d'

/-- What the machine expects next. -/
inductive SkipState where
  /-- A value. -/
  | value
  /-- The first item behind the innermost open bracket, or its end. -/
  | firstItem
  /-- A comma or the end of the innermost open bracket. -/
  | nextItem
deriving Repr, DecidableEq

/-- Apply a step on texts as a reader. -/
def passOver (step : List Char → Except Fault (List Char)) : Reader Unit := fun text => do
  return ((), ← step text)

/-- Pass over a scalar value that starts with a character, if one does. -/
def skipScalar (c : Char) : Reader Unit :=
  if c = 'n' then do advance; readWord ['u', 'l', 'l']
  else if c = 't' then do advance; readWord ['r', 'u', 'e']
  else if c = 'f' then do advance; readWord ['a', 'l', 's', 'e']
  else if c = '-' then do advance; passOver skipMagnitude
  else if c.isDigit then passOver skipMagnitude
  else if c = '"' then do advance; passOver skipStringBody
  else throw .malformed

/-- Pass over a colon. -/
def readColon : Reader Unit := do
  match ← peek with
  | none => throw .truncated
  | some c => if c = ':' then advance else throw .malformed

/-- Pass over the name of a member and its colon. -/
def skipName : Reader Unit := do
  match ← peek with
  | none => throw .truncated
  | some c =>
    if c = '"' then do
      advance
      passOver skipStringBody
      readColon
    else throw .malformed

/-- Pass over what stands in front of the value of an item. -/
def Bracket.skipItemStart : Bracket → Reader Unit
  | .list => pure ()
  | .object => skipName

/-- One step of the machine: what it expects next and the brackets that are open. -/
def skipStep (state : SkipState) (stack : List Bracket) : Reader (SkipState × List Bracket) := do
  match ← peek with
  | none => throw .truncated
  | some c =>
    match state, stack with
    | .value, _ =>
      if c = '[' then do
        advance
        return (.firstItem, .list :: stack)
      else if c = '\x7b' then do
        advance
        return (.firstItem, .object :: stack)
      else do
        skipScalar c
        return (.nextItem, stack)
    | _, [] => throw .malformed
    | .firstItem, bracket :: outer =>
      if c = bracket.close then do
        advance
        return (.nextItem, outer)
      else do
        bracket.skipItemStart
        return (.value, stack)
    | .nextItem, bracket :: outer =>
      if c = bracket.close then do
        advance
        return (.nextItem, outer)
      else if c = ',' then do
        advance
        bracket.skipItemStart
        return (.value, stack)
      else throw .malformed

/-- Run the machine until no bracket is open and a value has been read. -/
def skipLoop : Nat → SkipState → List Bracket → Reader Unit
  | _, .nextItem, [] => pure ()
  | 0, _, _ => throw .truncated
  | fuel + 1, state, stack => do
    let (state, stack) ← skipStep state stack
    skipLoop fuel state stack

/-- Pass over one value. Two steps for each character of the text are enough. -/
def skipValue : Reader Unit := do
  skipLoop (2 * (← get).length + 1) .value []

end Attenuation.Json
