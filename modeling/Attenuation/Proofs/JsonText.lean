import Attenuation.Proofs.JsonAnswers
import Mathlib.Data.List.Forall2

/-!
# Reading what was written

A value is written as a JSON text, in any style that breaks lines with white space, so a reader is
held against what was written as against any other text. `Reader.Reads` says what it answers in
every such style. The answer may be a fault, since not every number is read back; then the reader
stops with that fault. Every reader of a shape has one lemma of this form, and the lemmas about
lists and optional values are built from those about their items.
-/

namespace Attenuation.Json

variable {α β : Type}

/-- A hexadecimal digit is written for its value. -/
theorem isHexDigit_hexDigit : ∀ value < 16, IsHexDigit value (hexDigit value) := by
  unfold IsHexDigit
  decide

/-- A control is written as the escape of its unit. -/
theorem isUnit_control {c : Char} (control : c.toNat < 0x20) :
    IsUnit c.toNat ['0', '0', hexDigit (c.toNat / 16), hexDigit (c.toNat % 16)] := by
  have high := isHexDigit_hexDigit (c.toNat / 16) (by omega)
  have low := isHexDigit_hexDigit (c.toNat % 16) (by omega)
  refine ⟨_, _, _, _, rfl, ?_, ?_, ?_, low⟩
  · rw [Nat.div_eq_of_lt (by omega)]
    exact ⟨by decide, .inl rfl⟩
  · rw [Nat.div_eq_of_lt (by omega)]
    exact ⟨by decide, .inl rfl⟩
  · rwa [Nat.mod_eq_of_lt (by omega)]

/-- A character is spelled by what it is written as inside a string. -/
theorem SpellsString.escapeChar (c : Char) {value text : List Char}
    (others : SpellsString value text) :
    SpellsString (c :: value) (Json.escapeChar c ++ text) := by
  unfold Json.escapeChar
  split_ifs with quote slash b t n f r control
  -- Seven characters have an escape of one letter.
  any_goals
    subst_vars
    apply SpellsString.short _ others
    decide
  · exact .unit (isUnit_control control) others
  · exact .plain quote slash (Nat.not_lt.mp control) others

/-- A text is spelled by what it is written as. -/
theorem spellsString_written (value : List Char) :
    SpellsString value (value.flatMap escapeChar) := by
  induction value with
  | nil => exact .nil
  | cons c value hypothesis => exact hypothesis.escapeChar c

/-- A natural number is written as a number. -/
theorem isMagnitude_toDigits (value : Nat) : IsMagnitude (Nat.toDigits 10 value) := by
  have whole : IsWhole (Nat.toDigits 10 value) := by
    obtain rfl | positive := Nat.eq_zero_or_pos value
    · exact .inl rfl
    · exact .inr ⟨.toDigits value, Decimal.head_toDigits positive⟩
  have number := IsMagnitude.parts whole (.inl rfl) (.inl rfl)
  rwa [List.append_nil, List.append_nil] at number

/-- A finite double is written as a number. -/
theorem isNumber_numberText {value : Float} (finite : value.isFinite) :
    IsNumber (numberText value) := by
  obtain ⟨text, written, same | same⟩ := numberText_finite finite <;> rw [same]
  · exact .inl written
  · exact .inr ⟨text, written, rfl⟩

/-- A double is written as a number or as null. -/
theorem isJson_numberText (value : Float) : IsJson (numberText value) := by
  cases finite : value.isFinite with
  | false =>
    rw [numberText_notFinite finite]
    exact .null
  | true => exact .number (isNumber_numberText finite)

/-- A style that breaks lines, and stands off values, with white space. -/
structure Style.IsBlank (style : Style) : Prop where
  /-- Lines are broken with white space. -/
  lineBreak : ∀ depth, AllSpace (style.lineBreak depth)
  /-- Nothing but white space stands between the colon and the value. -/
  colon : ∃ blanks, AllSpace blanks ∧ style.colon = ':' :: blanks

/-- Indented lines are broken with white space. -/
theorem Style.indented_isBlank : Style.indented.IsBlank where
  lineBreak depth c member := by
    obtain rfl | blank := List.mem_cons.mp member
    · rfl
    · rw [List.eq_of_mem_replicate blank]
      rfl
  colon := ⟨[' '], by simp [AllSpace, isSpace], rfl⟩

/-- A style on one line has no white space at all. -/
theorem Style.compact_isBlank : Style.compact.IsBlank where
  lineBreak _ := .nil
  colon := ⟨[], .nil, rfl⟩

section Written

variable {style : Style} (isBlank : style.IsBlank) (depth : Nat)

/-- A member of an object as a style writes it. -/
def Style.IsBlank.entry (member : String × Value) : Entry where
  name := member.1.toList.flatMap escapeChar
  gap := []
  gapBlank := .nil
  behind := style.colon.tail
  behindBlank := by
    obtain ⟨blanks, blank, same⟩ := isBlank.colon
    rwa [same]
  value := member.2.write style depth

/-- The text of a member is its name, a colon and its value. -/
theorem Style.IsBlank.entry_text (member : String × Value) :
    (isBlank.entry depth member).text =
      stringText member.1 ++ (style.colon ++ member.2.write style depth) := by
  obtain ⟨blanks, -, same⟩ := isBlank.colon
  simp [entry, Entry.text, stringText, same]

include isBlank

/-- The further items of a list stand behind its first one. -/
theorem further_writeItems (outer : Nat) (items : List Value) :
    Further (items.map (·.write style depth))
      (writeItems style depth items ++ style.lineBreak outer) := by
  induction items with
  | nil => exact .last (isBlank.lineBreak outer)
  | cons item items hypothesis =>
    have more := @Further.more [] _ (item.write style depth) _ _ .nil (isBlank.lineBreak depth)
      hypothesis
    simpa [writeItems] using more

/-- The items of a written list stand between its brackets. -/
theorem enclosed_write_list (items : List Value) :
    Enclosed '[' ']' (items.map (·.write style (depth + 1)))
      ((Value.list items).write style depth) := by
  cases items with
  | nil => exact @Enclosed.empty '[' ']' [] .nil
  | cons item items =>
    have written := @Enclosed.pieces '[' ']' _ (item.write style (depth + 1)) _ _
      (isBlank.lineBreak (depth + 1)) (further_writeItems isBlank (depth + 1) depth items)
    simpa [Value.write] using written

/-- The further members of an object stand behind its first one. -/
theorem further_writeMembers (outer : Nat) (members : List (String × Value)) :
    Further (members.map fun member => (isBlank.entry depth member).text)
      (writeMembers style depth members ++ style.lineBreak outer) := by
  induction members with
  | nil => exact .last (isBlank.lineBreak outer)
  | cons member members hypothesis =>
    have more := @Further.more [] _ (isBlank.entry depth member).text _ _ .nil
      (isBlank.lineBreak depth) hypothesis
    simpa [writeMembers, isBlank.entry_text] using more

/-- The members of a written object stand between its brackets. -/
theorem enclosed_write_object (members : List (String × Value)) :
    Enclosed '\x7b' '\x7d' ((members.map (isBlank.entry (depth + 1))).map Entry.text)
      ((Value.object members).write style depth) := by
  cases members with
  | nil => exact @Enclosed.empty '\x7b' '\x7d' [] .nil
  | cons member members =>
    have written := @Enclosed.pieces '\x7b' '\x7d' _ (isBlank.entry (depth + 1) member).text _ _
      (isBlank.lineBreak (depth + 1)) (further_writeMembers isBlank (depth + 1) depth members)
    simpa [Value.write, isBlank.entry_text, Function.comp_def] using written

/-- The name of every written member is a string. -/
theorem members_named (members : List (String × Value)) :
    ∀ entry ∈ members.map (isBlank.entry depth), IsStringBody entry.name := by
  intro entry listed
  obtain ⟨member, -, rfl⟩ := List.mem_map.mp listed
  exact (spellsString_written member.1.toList).isStringBody

end Written

mutual

/-- Every value is written as a JSON text. -/
theorem Value.write_isJson {style : Style} (isBlank : style.IsBlank) (value : Value) (depth : Nat) :
    IsJson (value.write style depth) := by
  cases value with
  | null => exact .null
  | boolean value =>
    cases value with
    | true => exact .true
    | false => exact .false
  | natural value => exact .number (.inl (isMagnitude_toDigits value))
  | real value => exact isJson_numberText value
  | text value => exact .string (spellsString_written value.toList).isStringBody
  | list items =>
    exact .list (enclosed_write_list isBlank depth items) (items_isJson isBlank items (depth + 1))
  | object members =>
    exact .object (enclosed_write_object isBlank depth members)
      (members_named isBlank (depth + 1) members) (members_isJson isBlank members (depth + 1))

/-- Every item is written as a JSON text. -/
theorem items_isJson {style : Style} (isBlank : style.IsBlank) (items : List Value) (depth : Nat) :
    ∀ piece ∈ items.map (·.write style depth), IsJson piece := by
  cases items with
  | nil => exact fun piece listed => nomatch listed
  | cons item items =>
    intro piece listed
    obtain rfl | listed := List.mem_cons.mp listed
    · exact item.write_isJson isBlank depth
    · exact items_isJson isBlank items depth piece listed

/-- The value of every member is written as a JSON text. -/
theorem members_isJson {style : Style} (isBlank : style.IsBlank)
    (members : List (String × Value)) (depth : Nat) :
    ∀ entry ∈ members.map (isBlank.entry depth), IsJson entry.value := by
  cases members with
  | nil => exact fun entry listed => nomatch listed
  | cons member members =>
    intro entry listed
    obtain rfl | listed := List.mem_cons.mp listed
    · exact member.2.write_isJson isBlank depth
    · exact members_isJson isBlank members depth entry listed

end

/-- A list is written as a list of its items. -/
theorem isList_write {style : Style} (isBlank : style.IsBlank) (items : List Value) (depth : Nat) :
    IsList (items.map (·.write style (depth + 1))) ((Value.list items).write style depth) where
  written := enclosed_write_list isBlank depth items
  all := items_isJson isBlank items (depth + 1)

/-- An object is written as an object of its members. -/
theorem isObject_write {style : Style} (isBlank : style.IsBlank) (members : List (String × Value))
    (depth : Nat) :
    IsObject (members.map (isBlank.entry (depth + 1)))
      ((Value.object members).write style depth) where
  written := enclosed_write_object isBlank depth members
  names := members_named isBlank (depth + 1) members
  all := members_isJson isBlank members (depth + 1)

/-- A reader takes a value as it is written in every style, and answers with `answer`. -/
def Reader.Reads (reader : Reader α) (value : Value) (answer : Except Fault α) : Prop :=
  ∀ (style : Style) (depth : Nat) (blanks rest : List Char), style.IsBlank → AllSpace blanks →
    EndsNumber rest →
    reader.run (blanks ++ (value.write style depth ++ rest)) = answer.map (·, rest)

section Readers

variable {reader : Reader α} {value : Value} {answer : Except Fault α}

/-- A reader reads a written value if it has the answer to each of its texts. -/
theorem Reader.reads_of_answers
    (answers : ∀ style depth, style.IsBlank → reader.Answers (value.write style depth) answer) :
    reader.Reads value answer :=
  fun style depth blanks rest isBlank => answers style depth isBlank blanks rest

/-- A reader that reads a written value has the answer to each of its texts. -/
theorem Reader.Reads.answers (reads : reader.Reads value answer) {style : Style}
    (isBlank : style.IsBlank) (depth : Nat) : reader.Answers (value.write style depth) answer :=
  fun blanks rest => reads style depth blanks rest isBlank

end Readers

/-- A text is read back. -/
theorem readText_reads (value : String) : readText.Reads (.text value) (.ok value) :=
  Reader.reads_of_answers fun _ _ _ => readText_answers (spellsString_written value.toList)

/-- The double that is read from the text of a double. -/
def rereadDouble (value : Float) : Except Fault Float :=
  readWhole readDouble (String.ofList (numberText value))

/-- The text of a double that is not finite is refused where a number is expected. -/
theorem rereadDouble_notFinite {value : Float} (notFinite : value.isFinite = false) :
    rereadDouble value = .error (.misshapen (.wrongKind .null "f64")) := by
  unfold rereadDouble
  rw [numberText_notFinite notFinite]
  rfl

/-- A double is read as it is read from its own text alone. -/
theorem readDouble_reads (value : Float) :
    readDouble.Reads (.real value) (rereadDouble value) := by
  obtain ⟨answer, answers⟩ := readDouble_decides _ (isJson_numberText value)
  have whole : (String.ofList (numberText value)).toList = [] ++ (numberText value ++ []) := by simp
  have alone : rereadDouble value = answer := answers.readWhole .nil .nil whole
  rw [alone]
  exact Reader.reads_of_answers fun _ _ _ => answers

/-- A finite double does not start with the letter of null. -/
theorem head_write_real {value : Float} (finite : value.isFinite) (style : Style) (depth : Nat) :
    (Value.write style depth (.real value)).head? ≠ some 'n' := by
  obtain ⟨c, rest, same, digit | rfl⟩ := (isNumber_numberText finite).exists_cons <;>
    rw [Value.write, same]
  · rintro ⟨⟩
    cases digit
  · exact nofun

/-- A null is read as no value. -/
theorem readOptional_null (item : Reader α) : (readOptional item).Reads .null (.ok none) :=
  Reader.reads_of_answers fun _ _ _ => readOptional_answers_null item

/-- A value that starts with another letter than null is read as what it is read as alone. -/
theorem readOptional_reads {item : Reader α} {value : Value} {answer : Except Fault α}
    (reads : item.Reads value answer)
    (other : ∀ style depth, (value.write style depth).head? ≠ some 'n') :
    (readOptional item).Reads value (answer.map some) := by
  apply Reader.reads_of_answers
  intro style depth isBlank
  have answers := reads.answers isBlank depth
  have head := other style depth
  obtain ⟨c, letters, same, starts⟩ := (value.write_isJson isBlank depth).starts
  rw [same] at answers head ⊢
  exact readOptional_answers starts (fun null => head (congrArg some null)) answers

/-- A name is read back as its choice. -/
theorem readChoice_reads {choices : List (String × α)} {name : String} {choice : α}
    (known : choices.lookup name = some choice) :
    (readChoice choices).Reads (.text name) (.ok choice) :=
  Reader.reads_of_answers fun _ _ _ => readChoice_answers known (spellsString_written name.toList)

section Lists

variable {item : Reader α} {form : β → Value} {answer : β → Except Fault α}

/-- A list is read back item by item, up to the first that is refused. -/
theorem readList_reads (values : List β)
    (reads : ∀ value ∈ values, item.Reads (form value) (answer value)) :
    (readList item).Reads (.list (values.map form)) (values.mapM answer) := by
  apply Reader.reads_of_answers
  intro style depth isBlank
  have all : List.Forall₂ item.Answers ((values.map form).map (·.write style (depth + 1)))
      (values.map answer) := by
    rw [List.map_map, List.forall₂_map_left_iff, List.forall₂_map_right_iff, List.forall₂_same]
    exact fun value member => (reads value member).answers isBlank (depth + 1)
  have answers := readList_answers (isList_write isBlank (values.map form) depth) all
  rwa [List.mapM_map] at answers

/-- A list whose items are read back as they were is read back. -/
theorem readList_reads_ok {form : α → Value} (values : List α)
    (reads : ∀ value ∈ values, item.Reads (form value) (.ok value)) :
    (readList item).Reads (.list (values.map form)) (.ok values) := by
  have read := readList_reads values reads
  rwa [mapM_ok] at read

/-- A list does not start with the letter of null. -/
theorem head_write_list (items : List Value) (style : Style) (depth : Nat) :
    (Value.write style depth (.list items)).head? ≠ some 'n' := by
  intro first
  cases items <;> cases first

end Lists

end Attenuation.Json
