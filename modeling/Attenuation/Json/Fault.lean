import Attenuation.Json.Value
import Attenuation.Text.Quoted

/-!
# Faults of a JSON text

A text is refused because it is no JSON, because it ends too early, or because what it says so
far has the wrong shape. Reading stops at the first fault in reading order.
-/

namespace Attenuation.Json

/-- What stands where something else was expected. -/
inductive Found where
  /-- Nothing. -/
  | null
  /-- A truth value. -/
  | boolean (value : Bool)
  /-- A whole number. -/
  | integer (value : Int)
  /-- A number with a fraction or an exponent, or one too large for a whole number. -/
  | real (value : Float)
  /-- A text. -/
  | text (value : String)
  /-- A list. -/
  | list
  /-- An object. -/
  | object

/-- What was found, in words. -/
def Found.message : Found → String
  | .null => "null"
  | .boolean value => s!"boolean `{value}`"
  | .integer value => s!"integer `{value}`"
  | .real value => "floating point `" ++ String.ofList (numberText value) ++ "`"
  | .text value => "string " ++ Text.quoted value
  | .list => "sequence"
  | .object => "map"

/-- A text that is JSON so far has the wrong shape. -/
inductive Mismatch where
  /-- A value of another kind was expected. -/
  | wrongKind (found : Found) (expected : String)
  /-- A number does not fit where it stands. -/
  | outOfRange (value : Int) (expected : String)
  /-- A field without a default is missing. -/
  | missingField (name : String)
  /-- A field is given twice. -/
  | duplicateField (name : String)
  /-- A name is none of the choices. -/
  | unknownChoice (name : String) (choices : List String)
  /-- A record given as a list is too short. -/
  | tooShort (given : Nat) (expected : String)

/-- A name between back quotes. -/
def backQuoted (name : String) : String := s!"`{name}`"

/-- The message of a mismatch. -/
def Mismatch.message : Mismatch → String
  | .wrongKind found expected => s!"invalid type: {found.message}, expected {expected}"
  | .outOfRange value expected => s!"invalid value: integer `{value}`, expected {expected}"
  | .missingField name => s!"missing field `{name}`"
  | .duplicateField name => s!"duplicate field `{name}`"
  | .unknownChoice name choices =>
    s!"unknown variant `{name}`, expected one of " ++
      String.intercalate ", " (choices.map backQuoted)
  | .tooShort given expected => s!"invalid length {given}, expected {expected}"

/-- Why a JSON text is refused. -/
inductive Fault where
  /-- The text is no JSON. -/
  | malformed
  /-- The text ends too early. -/
  | truncated
  /-- The text has the wrong shape. -/
  | misshapen (mismatch : Mismatch)

/-- The message of a fault. -/
def Fault.message : Fault → String
  | .malformed => "malformed text"
  | .truncated => "text ends too early"
  | .misshapen mismatch => mismatch.message

end Attenuation.Json
