import Attenuation.Json.Reader
import Attenuation.Proofs.NumberText

/-!
# Steps of the JSON readers

What the parts of the readers do to a text that starts with what they look for: the characters of a
string, white space in front of a lexeme, and what stands between the items of a list.
-/

namespace Attenuation.Json

variable {α β : Type}

/-- A one-letter escape is read as the character that it stands for. -/
theorem readStringBody_simple {letter character : Char}
    (known : simpleEscape? letter = some character) (text : List Char) :
    readStringBody ('\\' :: letter :: text) = consRead character (readStringBody text) := by
  have short : letter ≠ 'u' := by
    rintro rfl
    cases known
  rw [readStringBody.eq_def]
  simp [short, known]

/-- No character is half of a surrogate pair. -/
theorem not_surrogate (c : Char) :
    isLowSurrogate c.toNat = false ∧ isHighSurrogate c.toNat = false := by
  have valid : c.toNat < 0xD800 ∨ 0xDFFF < c.toNat ∧ c.toNat < 0x110000 := c.valid
  simp only [isLowSurrogate, isHighSurrogate, Bool.and_eq_false_iff, decide_eq_false_iff_not]
  omega

/-- The escape of a unit is read as the character that it is. -/
theorem readStringBody_unit {a b c d character : Char}
    (known : hexUnit? a b c d = some character.toNat) (text : List Char) :
    readStringBody ('\\' :: 'u' :: a :: b :: c :: d :: text) =
      consRead character (readStringBody text) := by
  obtain ⟨low, high⟩ := not_surrogate character
  rw [readStringBody.eq_def]
  simp [known, low, high]

/-- A character that needs no escape is read as it stands. -/
theorem readStringBody_plain {c : Char} (quote : c ≠ '"') (slash : c ≠ '\\')
    (control : ¬ c.toNat < 0x20) (text : List Char) :
    readStringBody (c :: text) = consRead c (readStringBody text) := by
  rw [readStringBody.eq_def]
  simp only [quote, slash, control, if_false]

/-- A reader goes on with the answer of its first part behind what that took. -/
theorem run_bind {reader : Reader α} {text rest : List Char} {answer : Except Fault α}
    (first : reader.run text = answer.map (·, rest)) (next : α → Reader β) :
    (reader >>= next).run text = answer >>= fun value => (next value).run rest := by
  rw [StateT.run_bind, first]
  cases answer <;> rfl

/-- A reader whose first part has an answer goes on with it. -/
theorem run_bind_ok {reader : Reader α} {text rest : List Char} {value : α}
    (first : reader.run text = .ok (value, rest)) (next : α → Reader β) :
    (reader >>= next).run text = (next value).run rest := by
  rw [StateT.run_bind, first]
  rfl

/-- An item and the items behind it are read one after the other. -/
theorem run_cons {item : Reader α} {items : Reader (List α)} {text middle rest : List Char}
    {answer : Except Fault α} {answers : Except Fault (List α)}
    (first : item.run text = answer.map (·, middle))
    (others : items.run middle = answers.map (·, rest)) :
    (do let value ← item; return value :: (← items) : Reader (List α)).run text =
      (do let value ← answer; return value :: (← answers)).map (·, rest) := by
  rw [run_bind first]
  cases answer with
  | error fault => rfl
  | ok value =>
    have whole := run_bind others fun values => (pure (value :: values) : Reader (List α))
    refine Eq.trans whole ?_
    cases answers <;> rfl

/-- One character is passed over. -/
theorem run_advance (c : Char) (rest : List Char) : advance.run (c :: rest) = .ok ((), rest) := rfl

/-- Characters of white space. -/
def AllSpace (text : List Char) : Prop := ∀ c ∈ text, isSpace c

/-- No text is white space. -/
theorem AllSpace.nil : AllSpace [] := fun _ member => nomatch member

/-- White space in front of what does not continue a number does not continue it either. -/
theorem AllSpace.endsNumber {blanks rest : List Char} (blank : AllSpace blanks)
    (ends : EndsNumber rest) : EndsNumber (blanks ++ rest) := by
  cases blanks with
  | nil => exact ends
  | cons c blanks =>
    have space := blank c List.mem_cons_self
    simp only [isSpace, Bool.or_eq_true, beq_iff_eq, or_assoc] at space
    have other : continuesNumber c = false := by
      obtain rfl | rfl | rfl | rfl := space <;> rfl
    exact .cons other _

/-- White space is passed over in front of a lexeme. -/
theorem run_peek {blanks : List Char} (blank : AllSpace blanks) {c : Char}
    (solid : isSpace c = false) (rest : List Char) :
    peek.run (blanks ++ c :: rest) = .ok (some c, c :: rest) := by
  have passed : (blanks ++ c :: rest).dropWhile isSpace = c :: rest := by
    rw [List.dropWhile_append_of_pos blank, List.dropWhile_cons_of_neg (by simp [solid])]
  exact congrArg (fun left => Except.ok (left.head?, left)) passed

/-- The first character of a value is found behind white space. -/
theorem run_peekValue {blanks : List Char} (blank : AllSpace blanks) {c : Char}
    (solid : isSpace c = false) (rest : List Char) :
    peekValue.run (blanks ++ c :: rest) = .ok (c, c :: rest) :=
  run_bind_ok (run_peek blank solid rest) _

/-- Whether a character starts a value. -/
def startsValue (c : Char) : Bool :=
  c.isDigit || c == '-' || c == '"' || c == '[' || c == '\x7b' || c == 'n' || c == 't' || c == 'f'

/-- A digit starts a value. -/
theorem startsValue_of_isDigit {c : Char} (digit : c.isDigit) : startsValue c := by
  simp [startsValue, digit]

/-- What starts a value is no white space. -/
theorem isSpace_of_startsValue {c : Char} (starts : startsValue c) : isSpace c = false := by
  by_contra space
  simp only [isSpace, Bool.not_eq_false, Bool.or_eq_true, beq_iff_eq, or_assoc] at space
  obtain rfl | rfl | rfl | rfl := space <;> cases starts

/-- The closing bracket behind white space ends the items of a list. -/
theorem run_peekItem_close (first : Bool) {blanks : List Char} (blank : AllSpace blanks)
    (rest : List Char) :
    (peekItem first).run (blanks ++ ']' :: rest) = .ok (false, ']' :: rest) := by
  unfold peekItem
  rw [run_bind_ok (run_peek blank rfl _)]
  rfl

/-- The first item is found behind white space. -/
theorem run_peekItem_front {blanks : List Char} (blank : AllSpace blanks) {c : Char}
    (starts : startsValue c) (rest : List Char) :
    (peekItem true).run (blanks ++ c :: rest) = .ok (true, c :: rest) := by
  have other : c ≠ ']' := by
    rintro rfl
    cases starts
  unfold peekItem
  rw [run_bind_ok (run_peek blank (isSpace_of_startsValue starts) rest)]
  dsimp only
  rw [if_neg other]
  rfl

/-- A further item is found behind a comma, with white space on both sides of that. -/
theorem run_peekItem_comma {behind before : List Char} (back : AllSpace behind)
    (front : AllSpace before) {c : Char} (starts : startsValue c) (rest : List Char) :
    (peekItem false).run (behind ++ ',' :: (before ++ c :: rest)) = .ok (true, c :: rest) := by
  have other : c ≠ ']' := by
    rintro rfl
    cases starts
  unfold peekItem
  rw [run_bind_ok (run_peek back rfl _)]
  dsimp only
  rw [if_neg (by decide), if_neg (by decide), if_pos rfl, run_bind_ok (run_advance _ _),
    run_bind_ok (run_peek front (isSpace_of_startsValue starts) rest)]
  dsimp only
  rw [if_neg other]
  rfl

end Attenuation.Json
