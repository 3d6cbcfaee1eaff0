import Attenuation.Proofs.JsonSkip

/-!
# Readers on JSON values

What the readers of shapes make of JSON texts that nobody need have written. `Reader.Answers` says
that a reader takes a text as a whole and answers the same wherever it stands; the answer may be a
fault. `Reader.Decides` says that it does so for every JSON value: it never stops inside a value
without a fault. A record that holds a value inside another one can then be followed past it.
-/

namespace Attenuation.Json

variable {α β : Type}

/-- What follows on a value goes on with it. -/
theorem ok_bind (value : α) (next : α → Except Fault β) : (.ok value >>= next) = next value := rfl

/-- Values that are no faults are answered in sequence as they are. -/
theorem mapM_ok (values : List α) :
    values.mapM (fun value => (.ok value : Except Fault α)) = .ok values := by
  have whole : values.mapM (fun value => (pure value : Except Fault α)) = _ := List.mapM_pure
  rwa [List.map_id'] at whole

/-- A reader takes a text as a whole and gives an answer, behind white space and in front of what
does not continue a number. -/
def Reader.Answers (reader : Reader α) (text : List Char) (answer : Except Fault α) : Prop :=
  ∀ blanks rest, AllSpace blanks → EndsNumber rest →
    reader.run (blanks ++ (text ++ rest)) = answer.map (·, rest)

/-- A reader has an answer to every JSON value. -/
def Reader.Decides (reader : Reader α) : Prop :=
  ∀ text, IsJson text → ∃ answer, reader.Answers text answer

namespace Reader

variable {reader : Reader α} {text : List Char} {answer : Except Fault α}

/-- A reader has one answer at most. -/
theorem Answers.unique {other : Except Fault α} (answers : reader.Answers text answer)
    (again : reader.Answers text other) : answer = other := by
  have same := (answers [] [] .nil .nil).symm.trans (again [] [] .nil .nil)
  cases answer <;> cases other <;> cases same <;> rfl

/-- A text is read where nothing stands in front of it. -/
theorem Answers.run_front (answers : reader.Answers text answer) {rest : List Char}
    (ends : EndsNumber rest) : reader.run (text ++ rest) = answer.map (·, rest) :=
  answers [] rest .nil ends

/-- A text that is read as a whole may have white space around it. -/
theorem Answers.readWhole (answers : reader.Answers text answer) {before after : List Char}
    (front : AllSpace before) (back : AllSpace after) {whole : String}
    (same : whole.toList = before ++ (text ++ after)) : readWhole reader whole = answer := by
  have ends : EndsNumber after := by
    have ends := back.endsNumber .nil
    rwa [List.append_nil] at ends
  have read := answers before after front ends
  have nothing : peek.run after = .ok (none, []) := by
    have passed : after.dropWhile isSpace = [] := by
      rw [← List.append_nil after, List.dropWhile_append_of_pos back]
      rfl
    exact congrArg (fun left => Except.ok (left.head?, left)) passed
  have both : (do let value ← reader; return (value, ← peek) : Reader (α × Option Char)).run
      (before ++ (text ++ after)) = answer.map fun value => ((value, none), []) := by
    rw [run_bind read]
    cases answer with
    | error fault => rfl
    | ok value =>
      rw [ok_bind]
      exact run_bind_ok nothing _
  unfold Json.readWhole
  rw [same, both]
  cases answer <;> rfl

/-- An answer may be packed. -/
theorem Answers.map (answers : reader.Answers text answer) (pack : α → β) :
    (do return pack (← reader) : Reader β).Answers text (answer.map pack) := by
  intro blanks rest blank ends
  rw [run_bind (answers blanks rest blank ends)]
  cases answer <;> rfl

/-- A reader that follows on a reader without taking more of the text has answers where that has
them. -/
theorem Decides.bind (decides : reader.Decides) {next : α → Reader β}
    (follows : ∀ value, ∃ last : Except Fault β, ∀ rest,
      (next value).run rest = last.map (·, rest)) :
    (reader >>= next).Decides := by
  intro text json
  obtain ⟨answer, answers⟩ := decides text json
  cases answer with
  | error fault =>
    refine ⟨.error fault, fun blanks rest blank ends => ?_⟩
    rw [run_bind (answers blanks rest blank ends)]
    rfl
  | ok value =>
    obtain ⟨last, same⟩ := follows value
    refine ⟨last, fun blanks rest blank ends => ?_⟩
    rw [run_bind (answers blanks rest blank ends)]
    exact same rest

/-- Packing what is read leaves an answer to every value. -/
theorem Decides.map (decides : reader.Decides) (pack : α → β) :
    (do return pack (← reader) : Reader β).Decides :=
  decides.bind fun value => ⟨.ok (pack value), fun _ => rfl⟩

end Reader

section First

variable {letters : List Char}

/-- A number starts with a digit or with its minus. -/
theorem IsNumber.first {c : Char} (number : IsNumber (c :: letters)) : c.isDigit ∨ c = '-' := by
  obtain ⟨_, _, same, first⟩ := number.exists_cons
  cases same
  exact first

/-- A value that starts with a quote is a string. -/
theorem IsJson.string_of_quote (json : IsJson ('"' :: letters)) :
    ∃ body, IsStringBody body ∧ letters = body ++ ['"'] := by
  cases json with
  | string written => exact ⟨_, written, rfl⟩
  | number written => exact absurd written.first (by decide)
  | list written | object written =>
    obtain ⟨rest, same⟩ := written.exists_cons
    cases same

/-- A value that starts with a minus is a number. -/
theorem IsJson.number_of_minus (json : IsJson ('-' :: letters)) : IsMagnitude letters := by
  cases json with
  | number written =>
    obtain written | ⟨magnitude, written, same⟩ := written
    · obtain ⟨c, rest, same, digit⟩ := written.exists_cons
      cases same
      cases digit
    · cases same
      exact written
  | list written | object written =>
    obtain ⟨rest, same⟩ := written.exists_cons
    cases same

/-- A value that starts with a digit is a number. -/
theorem IsJson.number_of_digit {c : Char} (digit : c.isDigit) (json : IsJson (c :: letters)) :
    IsMagnitude (c :: letters) := by
  cases json with
  | number written =>
    obtain written | ⟨magnitude, -, same⟩ := written
    · exact written
    · cases same
      cases digit
  | null | true | false | string => cases digit
  | list written | object written =>
    obtain ⟨rest, same⟩ := written.exists_cons
    cases same
    cases digit

/-- A value that starts with the letter of null is null. -/
theorem IsJson.null_of_letter (json : IsJson ('n' :: letters)) : letters = ['u', 'l', 'l'] := by
  cases json with
  | null => rfl
  | number written => exact absurd written.first (by decide)
  | list written | object written =>
    obtain ⟨rest, same⟩ := written.exists_cons
    cases same

/-- A value that starts with the bracket of a list is a list. -/
theorem IsJson.list_of_bracket (json : IsJson ('[' :: letters)) :
    ∃ values, IsList values ('[' :: letters) := by
  cases json with
  | number written => exact absurd written.first (by decide)
  | list written all => exact ⟨_, written, all⟩
  | object written =>
    obtain ⟨rest, same⟩ := written.exists_cons
    cases same

/-- A value that starts with the bracket of an object is an object. -/
theorem IsJson.object_of_bracket (json : IsJson ('\x7b' :: letters)) :
    ∃ entries, IsObject entries ('\x7b' :: letters) := by
  cases json with
  | number written => exact absurd written.first (by decide)
  | list written => cases written
  | object written names all => exact ⟨_, written, names, all⟩

end First

/-- A refusal behind a part that has an answer has one fault. -/
theorem run_bind_refuse (answer : Except Fault β) (mismatch : β → Mismatch) :
    ∃ fault, ∀ (first : Reader β) text rest, first.run text = answer.map (·, rest) →
      (first >>= fun value => refuse (mismatch value) : Reader α).run text = .error fault := by
  cases answer with
  | error fault =>
    refine ⟨fault, fun first text rest read => ?_⟩
    rw [run_bind read]
    rfl
  | ok value =>
    refine ⟨.misshapen (mismatch value), fun first text rest read => ?_⟩
    rw [run_bind read]
    rfl

/-- A string is read or refused, whatever stands behind its closing quote. -/
theorem run_readString_body {body : List Char} (written : IsStringBody body) :
    ∃ answer : Except Fault String, ∀ rest,
      readString.run (body ++ '"' :: rest) = answer.map (·, rest) := by
  obtain ⟨value, spelled⟩ | ⟨fault, refused⟩ := written.readsOrRefuses
  · refine ⟨.ok (String.ofList value), fun rest => ?_⟩
    show (readStringBody _ >>= fun entry => .ok (String.ofList entry.1, entry.2)) = _
    rw [spelled.read]
    rfl
  · refine ⟨.error fault, fun rest => ?_⟩
    show (readStringBody _ >>= fun entry => .ok (String.ofList entry.1, entry.2)) = _
    rw [refused]
    rfl

/-- A string is read as the text that it spells. -/
theorem run_readString_spelled {value : String} {body : List Char}
    (spelled : SpellsString value.toList body) (rest : List Char) :
    readString.run (body ++ '"' :: rest) = .ok (value, rest) := by
  show (readStringBody _ >>= fun entry => .ok (String.ofList entry.1, entry.2)) = _
  rw [spelled.read]
  exact congrArg (fun text => Except.ok (text, rest)) String.ofList_toList

/-- A value of another kind is refused, with a fault that only depends on it. -/
theorem run_refuseValue (expected : String) {c : Char} {letters : List Char}
    (json : IsJson (c :: letters)) :
    ∃ fault, ∀ rest, EndsNumber rest →
      (refuseValue expected c : Reader α).run (c :: (letters ++ rest)) = .error fault := by
  by_cases digit : c.isDigit
  · obtain ⟨answer, settled⟩ := readMagnitude_settles false (json.number_of_digit digit)
    obtain ⟨fault, refused⟩ :=
      @run_bind_refuse α _ answer fun number => .wrongKind number.found expected
    refine ⟨fault, fun rest ends => ?_⟩
    have other (letter : Char) (solid : letter.isDigit = false) : c ≠ letter := by
      rintro rfl
      rw [digit] at solid
      cases solid
    unfold refuseValue
    rw [if_neg (other _ rfl), if_neg (other _ rfl), if_neg (other _ rfl), if_neg (other _ rfl),
      if_pos digit]
    exact refused _ _ rest (settled rest ends)
  generalize same : c :: letters = text at json
  cases json with
  | null | true | false =>
    cases same
    exact ⟨_, fun rest ends => rfl⟩
  | number written =>
    obtain written | ⟨magnitude, written, rfl⟩ := written
    · obtain ⟨c, rest, rfl, first⟩ := written.exists_cons
      cases same
      exact absurd first digit
    · cases same
      obtain ⟨answer, settled⟩ := readMagnitude_settles true written
      obtain ⟨fault, refused⟩ :=
        @run_bind_refuse α _ answer fun number => .wrongKind number.found expected
      refine ⟨fault, fun rest ends => ?_⟩
      exact run_bind_ok (run_advance _ _) _ |>.trans (refused _ _ rest (settled rest ends))
  | string written =>
    cases same
    obtain ⟨answer, read⟩ := run_readString_body written
    obtain ⟨fault, refused⟩ :=
      @run_bind_refuse α _ answer fun value => .wrongKind (.text value) expected
    refine ⟨fault, fun rest ends => ?_⟩
    rw [List.append_assoc]
    exact run_bind_ok (run_advance _ _) _ |>.trans (refused _ _ rest (read rest))
  | list written | object written =>
    obtain ⟨rest, rfl⟩ := written.exists_cons
    cases same
    exact ⟨_, fun rest ends => rfl⟩

/-- A reader that looks at the first character of a value answers as it goes on from there. -/
theorem answers_peekValue {start : Char → Reader α} {answer : Except Fault α} {c : Char}
    {letters : List Char} (starts : startsValue c)
    (read : ∀ rest, EndsNumber rest → (start c).run (c :: (letters ++ rest)) =
      answer.map (·, rest)) : (peekValue >>= start).Answers (c :: letters) answer := by
  intro blanks rest blank ends
  rw [List.cons_append, run_bind_ok (run_peekValue blank (isSpace_of_startsValue starts) _)]
  exact read rest ends

/-- A reader that refuses a value that does not start as it expects has an answer to it. -/
theorem exists_answers_of_refuseValue {start : Char → Reader α} {expected : String} {c : Char}
    {letters : List Char} (json : IsJson (c :: letters))
    (other : start c = refuseValue expected c) :
    ∃ answer, (peekValue >>= start).Answers (c :: letters) answer := by
  obtain ⟨d, rest, same, starts⟩ := json.starts
  cases same
  obtain ⟨fault, refused⟩ := @run_refuseValue α expected _ _ json
  refine ⟨.error fault, answers_peekValue starts fun rest ends => ?_⟩
  rw [other]
  exact refused rest ends

/-- A text is read as what its string spells. -/
theorem readText_answers {value : String} {body : List Char}
    (spelled : SpellsString value.toList body) :
    readText.Answers ('"' :: (body ++ ['"'])) (.ok value) := by
  apply answers_peekValue rfl
  intro rest ends
  rw [if_pos rfl, List.append_assoc, run_bind_ok (run_advance _ _)]
  exact run_readString_spelled spelled rest

/-- The reader of texts has an answer to every value. -/
theorem readText_decides : readText.Decides := by
  intro text json
  obtain ⟨c, letters, rfl, starts⟩ := json.starts
  by_cases quote : c = '"'
  · subst quote
    obtain ⟨body, written, rfl⟩ := json.string_of_quote
    obtain ⟨answer, read⟩ := run_readString_body written
    refine ⟨answer, answers_peekValue rfl fun rest ends => ?_⟩
    rw [if_pos rfl, List.append_assoc, run_bind_ok (run_advance _ _)]
    exact read rest
  · exact exists_answers_of_refuseValue json (if_neg quote)

/-- A number without a minus is found by its first digit. -/
theorem numberReader_answers_digit (expected : String) {c : Char} {letters : List Char}
    (digit : c.isDigit) {answer : Except Fault Number}
    (read : ∀ rest, EndsNumber rest → readMagnitude false (c :: letters ++ rest) =
      answer.map (·, rest)) : (numberReader expected).Answers (c :: letters) answer := by
  have unsigned : c ≠ '-' := by
    rintro rfl
    cases digit
  apply answers_peekValue (startsValue_of_isDigit digit)
  intro rest ends
  rw [if_neg unsigned, if_pos digit]
  exact read rest ends

/-- The reader of numbers has an answer to every value. -/
theorem numberReader_decides (expected : String) : (numberReader expected).Decides := by
  intro text json
  obtain ⟨c, letters, rfl, starts⟩ := json.starts
  by_cases minus : c = '-'
  · subst minus
    obtain ⟨answer, settled⟩ := readMagnitude_settles true json.number_of_minus
    refine ⟨answer, answers_peekValue rfl fun rest ends => ?_⟩
    rw [if_pos rfl, run_bind_ok (run_advance _ _)]
    exact settled rest ends
  by_cases digit : c.isDigit
  · obtain ⟨answer, settled⟩ := readMagnitude_settles false (json.number_of_digit digit)
    exact ⟨answer, numberReader_answers_digit expected digit settled⟩
  · apply exists_answers_of_refuseValue json
    rw [if_neg minus, if_neg digit]

/-- The reader of whole numbers has an answer to every value. -/
theorem readBounded_decides (expected : String) (limit : Nat) :
    (readBounded expected limit).Decides := by
  apply (numberReader_decides expected).bind
  intro number
  cases number with
  | natural value =>
    by_cases fits : value ≤ limit
    · exact ⟨.ok value, fun rest => congrArg (StateT.run · rest) (if_pos fits)⟩
    · exact ⟨.error _, fun rest => congrArg (StateT.run · rest) (if_neg fits)⟩
  | negative magnitude => exact ⟨.error _, fun rest => rfl⟩
  | real value => exact ⟨.error _, fun rest => rfl⟩

/-- The reader of doubles has an answer to every value. -/
theorem readDouble_decides : readDouble.Decides := by
  apply (numberReader_decides "f64").bind
  intro number
  cases number with
  | natural value => exact ⟨.ok _, fun rest => rfl⟩
  | negative magnitude => exact ⟨.ok _, fun rest => rfl⟩
  | real value => exact ⟨.ok _, fun rest => rfl⟩

/-- A natural number is read from its digits up to a limit of at most sixty-four bits. -/
theorem readBounded_answers (expected : String) {limit value : Nat} (fits : value ≤ limit)
    (narrow : limit ≤ greatestSignificand) :
    (readBounded expected limit).Answers (Nat.toDigits 10 value) (.ok value) := by
  have read : (numberReader expected).Answers (Nat.toDigits 10 value) (.ok (.natural value)) := by
    obtain ⟨c, letters, same, digit⟩ := (IsDigits.toDigits value).exists_cons
    rw [same]
    apply numberReader_answers_digit expected digit
    intro rest ends
    rw [← same]
    exact readMagnitude_toDigits (Nat.le_trans fits narrow) ends
  intro blanks rest blank ends
  unfold readBounded
  rw [run_bind_ok (read blanks rest blank ends)]
  exact congrArg (StateT.run · rest) (if_pos fits)

variable {item : Reader α} {text : List Char} {answer : Except Fault α}

/-- A null is read as no value. -/
theorem readOptional_answers_null (item : Reader α) :
    (readOptional item).Answers ['n', 'u', 'l', 'l'] (.ok none) := by
  intro blanks rest blank ends
  unfold readOptional
  rw [List.cons_append, run_bind_ok (run_peek blank rfl _)]
  rfl

/-- A value that starts with another letter than null is read as it is read alone. -/
theorem readOptional_answers {c : Char} {letters : List Char} (starts : startsValue c)
    (other : c ≠ 'n') (answers : item.Answers (c :: letters) answer) :
    (readOptional item).Answers (c :: letters) (answer.map some) := by
  intro blanks rest blank ends
  have read := answers.run_front ends
  rw [List.cons_append]
  unfold readOptional
  rw [run_bind_ok (run_peek blank (isSpace_of_startsValue starts) _)]
  split
  · rename_i same
    cases same
    exact absurd rfl other
  · refine (run_bind read _).trans ?_
    cases answer <;> rfl

/-- The reader of optional values has an answer to every value if that of its values does. -/
theorem readOptional_decides (decides : item.Decides) : (readOptional item).Decides := by
  intro text json
  obtain ⟨c, letters, rfl, starts⟩ := json.starts
  by_cases null : c = 'n'
  · subst null
    cases json.null_of_letter
    exact ⟨.ok none, readOptional_answers_null item⟩
  · obtain ⟨answer, answers⟩ := decides _ json
    exact ⟨_, readOptional_answers starts null answers⟩

/-- What is related to a list item by item has a partner in each place. -/
theorem exists_getElem?_of_forall₂ {related : α → β → Prop} {values : List α} {partners : List β}
    (all : List.Forall₂ related values partners) {position : Nat} {value : α}
    (listed : values[position]? = some value) :
    ∃ partner, partners[position]? = some partner ∧ related value partner := by
  induction all generalizing position with
  | nil => cases listed
  | cons first others hypothesis =>
    cases position with
    | zero =>
      cases listed
      exact ⟨_, rfl, first⟩
    | succ position => exact hypothesis listed

/-- What is related to a list item by item has a partner for each item. -/
theorem exists_mem_of_forall₂ {related : α → β → Prop} {values : List α} {partners : List β}
    (all : List.Forall₂ related values partners) {value : α} (member : value ∈ values) :
    ∃ partner ∈ partners, related value partner := by
  obtain ⟨position, listed⟩ := List.mem_iff_getElem?.mp member
  obtain ⟨partner, same, known⟩ := exists_getElem?_of_forall₂ all listed
  exact ⟨partner, List.mem_of_getElem? same, known⟩

/-- Further items are read one after the other, up to the closing bracket. -/
theorem run_readItems_further {pieces : List (List Char)} {text : List Char}
    (further : Further pieces text) (starts : ∀ piece ∈ pieces, Starts piece)
    {answers : List (Except Fault α)} (all : List.Forall₂ item.Answers pieces answers)
    (rest : List Char) :
    ∀ fuel, pieces.length < fuel → (readItems item fuel false).run (text ++ ']' :: rest) =
      (answers.mapM id).map (·, rest) := by
  induction further generalizing answers with
  | last blank =>
    intro fuel enough
    obtain ⟨fuel, rfl⟩ := Nat.exists_eq_add_of_lt enough
    cases all
    rw [readItems, run_bind_ok (run_peekItem_close false blank rest)]
    rfl
  | @more behind before piece text pieces back front others hypothesis =>
    intro fuel enough
    obtain ⟨spare, rfl⟩ := Nat.exists_eq_add_of_lt enough
    obtain ⟨c, letters, rfl, start⟩ := starts piece List.mem_cons_self
    cases all with
    | cons first all =>
      have ends := @Further.endsNumber _ _ others ']' rfl rest
      have read := first.run_front ends
      have remaining := hypothesis
        (fun piece member => starts piece (List.mem_cons_of_mem _ member)) all
        (pieces.length + 1 + spare) (by omega)
      rw [readItems]
      simp only [List.append_assoc, List.cons_append] at read ⊢
      rw [run_bind_ok (run_peekItem_comma back front start _), if_pos rfl, List.mapM_cons]
      exact run_cons read remaining

/-- A list is read item by item, up to the first that is refused. -/
theorem readList_answers {pieces : List (List Char)} (list : IsList pieces text)
    {answers : List (Except Fault α)} (all : List.Forall₂ item.Answers pieces answers) :
    (readList item).Answers text (answers.mapM id) := by
  intro blanks rest blank ends
  have starts : ∀ piece ∈ pieces, Starts piece := fun piece member => (list.all piece member).starts
  have opened (text : List Char) : (readList item).run (blanks ++ '[' :: text) =
      (readItems item (text.length + 1) true).run text := by
    unfold readList
    rw [run_bind_ok (run_peekValue blank rfl _), if_pos rfl, run_bind_ok (run_advance _ _)]
    exact run_bind_ok rfl _
  cases list.written with
  | empty gapBlank =>
    cases all
    simp only [List.append_assoc, List.cons_append, List.nil_append]
    rw [opened, readItems, run_bind_ok (run_peekItem_close true gapBlank rest)]
    rfl
  | @pieces before piece text pieces front others =>
    obtain ⟨c, letters, rfl, start⟩ := starts piece List.mem_cons_self
    cases all with
    | cons first all =>
      have ends := @Further.endsNumber _ _ others ']' rfl rest
      have read := first.run_front ends
      have remaining := run_readItems_further others
        (fun piece member => starts piece (List.mem_cons_of_mem _ member)) all rest
      have enough := others.length_le
      simp only [List.append_assoc, List.cons_append, List.nil_append] at read ⊢
      rw [opened, readItems, run_bind_ok (run_peekItem_front front start _), if_pos rfl,
        List.mapM_cons]
      refine run_cons read (remaining _ ?_)
      simp only [List.length_append, List.length_cons]
      omega

/-- A reader that has an answer to every value has one to each of several values. -/
theorem exists_answers (decides : item.Decides) (pieces : List (List Char))
    (all : ∀ piece ∈ pieces, IsJson piece) :
    ∃ answers, List.Forall₂ item.Answers pieces answers := by
  induction pieces with
  | nil => exact ⟨[], .nil⟩
  | cons piece pieces hypothesis =>
    obtain ⟨answer, first⟩ := decides piece (all piece List.mem_cons_self)
    obtain ⟨answers, others⟩ :=
      hypothesis fun piece member => all piece (List.mem_cons_of_mem _ member)
    exact ⟨answer :: answers, .cons first others⟩

/-- The reader of lists has an answer to every value if that of the items does. -/
theorem readList_decides (decides : item.Decides) : (readList item).Decides := by
  intro text json
  obtain ⟨c, letters, rfl, starts⟩ := json.starts
  by_cases bracket : c = '['
  · subst bracket
    obtain ⟨pieces, list⟩ := json.list_of_bracket
    obtain ⟨answers, all⟩ := exists_answers decides pieces list.all
    exact ⟨_, readList_answers list all⟩
  · exact exists_answers_of_refuseValue json (if_neg bracket)

/-- A null is read as nothing. -/
theorem readNull_answers : readNull.Answers ['n', 'u', 'l', 'l'] (.ok ()) :=
  answers_peekValue rfl fun _ _ => rfl

/-- The reader of nulls has an answer to every value. -/
theorem readNull_decides : readNull.Decides := by
  intro text json
  obtain ⟨c, letters, rfl, starts⟩ := json.starts
  by_cases null : c = 'n'
  · subst null
    cases json.null_of_letter
    exact ⟨.ok (), readNull_answers⟩
  · exact exists_answers_of_refuseValue json (if_neg null)

section Choices

variable {choices : List (String × α)} {entry : Entry}

/-- A known name is read as its choice. -/
theorem readChoice_answers {name : String} {choice : α} {body : List Char}
    (known : choices.lookup name = some choice) (spelled : SpellsString name.toList body) :
    (readChoice choices).Answers ('"' :: (body ++ ['"'])) (.ok choice) := by
  apply answers_peekValue rfl
  intro rest ends
  rw [if_pos rfl, List.append_assoc, run_bind_ok (run_advance _ _)]
  refine (run_bind_ok (run_readString_spelled spelled rest) _).trans ?_
  unfold choose
  rw [known]
  rfl

/-- The choice of a name, or the fault that there is none. -/
def chosen (choices : List (String × α)) (name : String) : Except Fault α :=
  match choices.lookup name with
  | some choice => .ok choice
  | none => .error (.misshapen (.unknownChoice name (choices.map Prod.fst)))

/-- A choice is taken or refused, whatever stands behind its name. -/
theorem run_choose (choices : List (String × α)) (name : String) (rest : List Char) :
    (choose choices name).run rest = (chosen choices name).map (·, rest) := by
  unfold choose chosen
  cases choices.lookup name <;> rfl

/-- The name of the first member is read behind white space. -/
theorem run_readChoiceName {blanks : List Char} (blank : AllSpace blanks) (entry : Entry)
    (rest : List Char) :
    readChoiceName.run (blanks ++ (entry.text ++ rest)) =
      readString.run (entry.name ++ '"' :: (entry.gap ++ ':' ::
        (entry.behind ++ (entry.value ++ rest)))) := by
  simp only [Entry.text, List.cons_append, List.append_assoc]
  unfold readChoiceName
  rw [run_bind_ok (run_peekValue blank rfl _), if_pos rfl]
  exact run_bind_ok (run_advance _ _) _

/-- The choice of an object by its first member: its name, the null behind that, and whether it is
the only one. -/
def choiceOfMember (choices : List (String × α)) (named : Except Fault String)
    (null : Except Fault Unit) (alone : Bool) : Except Fault α := do
  let choice ← chosen choices (← named)
  null
  if alone then return choice else throw .malformed

/-- The reader of choices takes an object by its first member. -/
theorem run_readChoice_object {before text : List Char} {pieces : List (List Char)}
    {named : Except Fault String} {null : Except Fault Unit} (front : AllSpace before)
    (names : ∀ rest, readString.run (entry.name ++ '"' :: rest) = named.map (·, rest))
    (nulls : readNull.Answers entry.value null) (further : Further pieces text)
    {blanks : List Char} (blank : AllSpace blanks) (rest : List Char) :
    (readChoice choices).run
      (blanks ++ '\x7b' :: (before ++ (entry.text ++ (text ++ '\x7d' :: rest)))) =
        (choiceOfMember choices named null pieces.isEmpty).map (·, rest) := by
  have first := run_readChoiceName front entry (text ++ '\x7d' :: rest)
  rw [names] at first
  have nothing := nulls entry.behind _ entry.behindBlank
    (@Further.endsNumber _ _ further '\x7d' rfl rest)
  unfold readChoice
  rw [run_bind_ok (run_peekValue blank rfl _), if_neg (by decide), if_pos rfl,
    run_bind_ok (run_advance _ _), run_bind first]
  cases named with
  | error fault => rfl
  | ok name =>
    have same : choiceOfMember choices (.ok name) null pieces.isEmpty =
      (chosen choices name >>= fun choice => null >>= fun _ =>
        if pieces.isEmpty then .ok choice else .error .malformed) := rfl
    rw [ok_bind, run_bind (run_choose choices name _), same]
    cases chosen choices name with
    | error fault => rfl
    | ok choice =>
      rw [ok_bind, run_bind_ok (run_readColon entry.gapBlank _), run_bind nothing]
      cases null with
      | error fault => rfl
      | ok nothing =>
        rw [ok_bind]
        cases further with
        | last gapBlank => exact run_bind_ok (@run_peekValue _ gapBlank '\x7d' rfl rest) _
        | more back front others =>
          simp only [List.append_assoc, List.cons_append]
          exact run_bind_ok (@run_peekValue _ back ',' rfl _) _

/-- A known name with a null is read as its choice. -/
theorem readChoice_answers_object {name : String} {choice : α} {text : List Char}
    (known : choices.lookup name = some choice) (spelled : SpellsString name.toList entry.name)
    (null : entry.value = ['n', 'u', 'l', 'l'])
    (written : Enclosed '\x7b' '\x7d' [entry.text] text) :
    (readChoice choices).Answers text (.ok choice) := by
  intro blanks rest blank ends
  have nulls : readNull.Answers entry.value (.ok ()) := by
    rw [null]
    exact readNull_answers
  have taken : chosen choices name = .ok choice := by
    unfold chosen
    rw [known]
  cases written with
  | pieces front others =>
    have names := run_readString_spelled spelled
    have read := @run_readChoice_object _ choices entry _ _ _ (.ok name) _ front names nulls others
      _ blank rest
    simp only [List.append_assoc, List.cons_append, List.nil_append]
    rw [read]
    show (chosen choices name >>= _).map _ = _
    rw [taken]
    rfl

/-- The reader of choices has an answer to every value. -/
theorem readChoice_decides (choices : List (String × α)) : (readChoice choices).Decides := by
  intro text json
  obtain ⟨c, letters, rfl, starts⟩ := json.starts
  by_cases quote : c = '"'
  · subst quote
    obtain ⟨body, written, rfl⟩ := json.string_of_quote
    obtain ⟨named, read⟩ := run_readString_body written
    refine ⟨named >>= chosen choices, answers_peekValue rfl fun rest ends => ?_⟩
    rw [if_pos rfl, List.append_assoc, run_bind_ok (run_advance _ _)]
    refine (run_bind (read rest) _).trans ?_
    cases named with
    | error fault => rfl
    | ok name => exact run_choose choices name rest
  by_cases bracket : c = '\x7b'
  · subst bracket
    obtain ⟨entries, object⟩ := json.object_of_bracket
    generalize same : '\x7b' :: letters = text at object
    cases entries with
    | nil =>
      refine ⟨.error .malformed, fun blanks rest blank ends => ?_⟩
      cases object.written with
      | empty gapBlank =>
        cases same
        have nothing := @run_peekValue _ gapBlank '\x7d' rfl rest
        unfold readChoice
        simp only [List.append_assoc, List.cons_append, List.nil_append]
        rw [run_bind_ok (run_peekValue blank rfl _), if_neg (by decide), if_pos rfl,
          run_bind_ok (run_advance _ _)]
        unfold readChoiceName
        rw [StateT.run_bind, run_bind_ok nothing]
        rfl
    | cons entry entries =>
      obtain ⟨named, names⟩ := run_readString_body (object.names entry List.mem_cons_self)
      obtain ⟨null, nulls⟩ := readNull_decides _ (object.all entry List.mem_cons_self)
      cases object.written with
      | pieces front others =>
        cases same
        refine ⟨choiceOfMember choices named null (entries.map Entry.text).isEmpty,
          fun blanks rest blank ends => ?_⟩
        simp only [List.append_assoc, List.cons_append, List.nil_append]
        exact run_readChoice_object front names nulls others blank rest
  · refine ⟨.error .malformed, answers_peekValue starts fun rest ends => ?_⟩
    rw [if_neg quote, if_neg bracket]
    rfl

end Choices

end Attenuation.Json
