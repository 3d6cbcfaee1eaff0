import Attenuation.Proofs.StringText

/-!
# The grammar of JSON texts

What a JSON text is, apart from any reader: the literal words, numbers, strings, and lists and
objects as pieces between brackets with commas between them and white space around them.
-/

namespace Attenuation.Json

/-- What stands behind a piece, up to the closing bracket: further pieces, each behind a comma, with
white space around them. -/
inductive Further : List (List Char) → List Char → Prop where
  /-- No piece is left. -/
  | last {blanks : List Char} (blank : AllSpace blanks) : Further [] blanks
  /-- A piece behind a comma. -/
  | more {behind before piece text : List Char} {pieces : List (List Char)}
    (back : AllSpace behind) (front : AllSpace before) (others : Further pieces text) :
    Further (piece :: pieces) (behind ++ ',' :: (before ++ (piece ++ text)))

/-- Pieces between two brackets. -/
inductive Enclosed (opening closing : Char) : List (List Char) → List Char → Prop where
  /-- Nothing but white space stands between the brackets. -/
  | empty {blanks : List Char} (blank : AllSpace blanks) :
    Enclosed opening closing [] (opening :: (blanks ++ [closing]))
  /-- There is a piece, and further ones may follow. -/
  | pieces {before piece text : List Char} {pieces : List (List Char)} (front : AllSpace before)
    (others : Further pieces text) :
    Enclosed opening closing (piece :: pieces)
      (opening :: (before ++ (piece ++ (text ++ [closing]))))

/-- Every further piece takes a character. -/
theorem Further.length_le {pieces : List (List Char)} {text : List Char}
    (further : Further pieces text) : pieces.length ≤ text.length := by
  induction further with
  | last => exact Nat.zero_le _
  | more _ _ _ others =>
    simp only [List.length_cons, List.length_append]
    omega

/-- What stands behind a piece, with the closing bracket, does not continue a number. -/
theorem Further.endsNumber {pieces : List (List Char)} {text : List Char}
    (further : Further pieces text) {closing : Char} (other : continuesNumber closing = false)
    (rest : List Char) : EndsNumber (text ++ closing :: rest) := by
  cases further with
  | last blank => exact blank.endsNumber (.cons other rest)
  | more back _ _ =>
    rw [List.append_assoc]
    exact back.endsNumber (.cons rfl _)

/-- A number, with a minus or without. -/
def IsNumber (text : List Char) : Prop :=
  IsMagnitude text ∨ ∃ magnitude, IsMagnitude magnitude ∧ text = '-' :: magnitude

/-- A member of an object as it is written. -/
structure Entry where
  /-- What stands between the quotes of its name. -/
  name : List Char
  /-- What stands in front of the colon. -/
  gap : List Char
  /-- In front of the colon stands white space. -/
  gapBlank : AllSpace gap
  /-- What stands behind the colon. -/
  behind : List Char
  /-- Behind the colon stands white space. -/
  behindBlank : AllSpace behind
  /-- The text of its value. -/
  value : List Char

/-- The text of a member. -/
def Entry.text (entry : Entry) : List Char :=
  '"' :: (entry.name ++ '"' :: (entry.gap ++ ':' :: (entry.behind ++ entry.value)))

/-- A JSON value, without white space around it. -/
inductive IsJson : List Char → Prop where
  /-- Nothing. -/
  | null : IsJson ['n', 'u', 'l', 'l']
  /-- What holds. -/
  | true : IsJson ['t', 'r', 'u', 'e']
  /-- What does not hold. -/
  | false : IsJson ['f', 'a', 'l', 's', 'e']
  /-- A number. -/
  | number {text : List Char} (written : IsNumber text) : IsJson text
  /-- A string. -/
  | string {body : List Char} (written : IsStringBody body) : IsJson ('"' :: (body ++ ['"']))
  /-- A list of values. -/
  | list {values : List (List Char)} {text : List Char} (written : Enclosed '[' ']' values text)
    (all : ∀ value ∈ values, IsJson value) : IsJson text
  /-- An object whose members have values. -/
  | object {entries : List Entry} {text : List Char}
    (written : Enclosed '\x7b' '\x7d' (entries.map Entry.text) text)
    (names : ∀ entry ∈ entries, IsStringBody entry.name)
    (all : ∀ entry ∈ entries, IsJson entry.value) : IsJson text

/-- A list of JSON values. -/
structure IsList (values : List (List Char)) (text : List Char) : Prop where
  /-- The values stand between brackets. -/
  written : Enclosed '[' ']' values text
  /-- Each of them is a JSON value. -/
  all : ∀ value ∈ values, IsJson value

/-- An object with JSON values. -/
structure IsObject (entries : List Entry) (text : List Char) : Prop where
  /-- The members stand between brackets. -/
  written : Enclosed '\x7b' '\x7d' (entries.map Entry.text) text
  /-- Each of them has a string for its name. -/
  names : ∀ entry ∈ entries, IsStringBody entry.name
  /-- Each of them has a JSON value. -/
  all : ∀ entry ∈ entries, IsJson entry.value

/-- A text that starts with a character that starts a value. -/
def Starts (text : List Char) : Prop := ∃ c rest, text = c :: rest ∧ startsValue c

/-- What stands between brackets starts with the opening one. -/
theorem Enclosed.exists_cons {opening closing : Char} {pieces : List (List Char)} {text : List Char}
    (enclosed : Enclosed opening closing pieces text) : ∃ rest, text = opening :: rest := by
  cases enclosed with
  | empty | pieces => exact ⟨_, rfl⟩

/-- A number starts with a digit or with its minus. -/
theorem IsNumber.exists_cons {text : List Char} (number : IsNumber text) :
    ∃ c rest, text = c :: rest ∧ (c.isDigit ∨ c = '-') := by
  obtain written | ⟨magnitude, -, rfl⟩ := number
  · obtain ⟨c, rest, same, digit⟩ := written.exists_cons
    exact ⟨c, rest, same, .inl digit⟩
  · exact ⟨'-', magnitude, rfl, .inr rfl⟩

/-- A value starts with a character that starts a value. -/
theorem IsJson.starts {text : List Char} (json : IsJson text) : Starts text := by
  cases json with
  | null | true | false | string => exact ⟨_, _, rfl, rfl⟩
  | number written =>
    obtain ⟨c, rest, same, digit | rfl⟩ := written.exists_cons
    · exact ⟨c, rest, same, startsValue_of_isDigit digit⟩
    · exact ⟨'-', rest, same, rfl⟩
  | list written | object written =>
    obtain ⟨rest, same⟩ := written.exists_cons
    exact ⟨_, rest, same, rfl⟩

/-- A member starts with the quote of its name. -/
theorem Entry.starts (entry : Entry) : Starts entry.text := ⟨_, _, rfl, rfl⟩

end Attenuation.Json
