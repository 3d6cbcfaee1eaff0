import Attenuation.Json.Reader

/-!
# Records

A record is an object with its fields in any order, or a list of its fields in the order of
their declaration. It is read into a draft in which every field may still be open. In an object,
unknown fields are passed over and a field given twice is refused; in a list, fields at the end
may be left out as far as they have defaults.
-/

namespace Attenuation.Json

/-- One field of a record with a draft type. -/
structure RecordField (δ : Type) where
  /-- The name of the field. -/
  name : String
  /-- Whether the draft has the field already. -/
  given : δ → Bool
  /-- Read the value of the field into the draft. -/
  read : δ → Reader δ
  /-- An object may leave the field out. -/
  optional : Bool
  /-- A list may end in front of the field. -/
  defaulted : Bool

/-- A field kept in an option of the draft. -/
def RecordField.keptIn {δ β : Type} (name : String) (item : Reader β) (view : δ → Option β)
    (put : δ → β → δ) (optional defaulted : Bool) : RecordField δ where
  name := name
  given draft := (view draft).isSome
  read draft := do return put draft (← item)
  optional := optional
  defaulted := defaulted

/-- The form of a record of type `α`. -/
structure Schema (δ α : Type) where
  /-- The name of the record. -/
  name : String
  /-- The fields in the order of their declaration. -/
  fields : List (RecordField δ)
  /-- The draft with every field open. -/
  blank : δ
  /-- The record of a draft in which every field without a default is given. -/
  finish : δ → α

namespace Schema

variable {δ α : Type}

/-- What a value of the record is called. -/
def expected (schema : Schema δ α) : String := s!"struct {schema.name}"

/-- What a complete list of the fields is called. -/
def expectedLength (schema : Schema δ α) : String :=
  s!"struct {schema.name} with {schema.fields.length} elements"

/-- The first field that a draft lacks and may not lack. -/
def missing? (schema : Schema δ α) (draft : δ) : Option (RecordField δ) :=
  schema.fields.find? fun field => !field.given draft && !field.optional

/-- Look for another member of an object behind its open bracket: false at the closing bracket,
which is left in place, and true in front of the name of a member. -/
def peekMember (first : Bool) : Reader Bool := do
  match ← peek with
  | none => throw .truncated
  | some c =>
    if c = '\x7d' then return false
    else if first then
      if c = '"' then return true else throw .malformed
    else if c = ',' then
      advance
      match ← peek with
      | none => throw .truncated
      | some c => if c = '"' then return true else throw .malformed
    else throw .malformed

/-- Read one member into a draft. A field given twice is refused at its name. -/
def readMember (schema : Schema δ α) (draft : δ) : Reader δ := do
  advance
  let name ← readString
  match schema.fields.find? fun field => field.name == name with
  | none =>
    readColon
    skipValue
    return draft
  | some field =>
    if field.given draft then refuse (.duplicateField name)
    else
      readColon
      field.read draft

/-- Read the members of an object behind its open bracket, and the closing bracket. -/
def readMembers (schema : Schema δ α) : Nat → Bool → δ → Reader δ
  | 0, _, _ => throw .truncated
  | fuel + 1, first, draft => do
    if ← peekMember first then
      schema.readMembers fuel false (← schema.readMember draft)
    else
      advance
      return draft

/-- Read an object behind its open bracket. -/
def readObject (schema : Schema δ α) : Reader α := do
  let draft ← schema.readMembers ((← get).length + 1) true schema.blank
  match schema.missing? draft with
  | some field => refuse (.missingField field.name)
  | none => return schema.finish draft

/-- Pass over the bracket that closes a list in which every field was given. -/
def closeList : Reader Unit := do
  match ← peek with
  | none => throw .truncated
  | some c => if c = ']' then advance else throw .malformed

/-- Read fields from a list behind its open bracket into a draft, the first of them at a
position. -/
def readFields (schema : Schema δ α) (draft : δ) (position : Nat) :
    List (RecordField δ) → Reader δ
  | [] => do
    closeList
    return draft
  | field :: fields => do
    if ← peekItem (position = 0) then
      schema.readFields (← field.read draft) (position + 1) fields
    else
      match (field :: fields).findIdx? fun field => !field.defaulted with
      | some offset => refuse (.tooShort (position + offset) schema.expectedLength)
      | none =>
        advance
        return draft

/-- Read a record. -/
def read (schema : Schema δ α) : Reader α := do
  let c ← peekValue
  if c = '[' then
    advance
    return schema.finish (← schema.readFields schema.blank 0 schema.fields)
  else if c = '\x7b' then
    advance
    schema.readObject
  else refuseValue schema.expected c

end Schema

end Attenuation.Json
