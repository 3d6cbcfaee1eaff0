import Attenuation.Proofs.ReaderSteps

/-!
# String texts

The texts that strings of JSON are written as, and what the string readers make of them. A text may
spell its characters with any mix of escapes: a character of more than sixteen bits then takes a
pair of units, the surrogates. The body of a string may also hold half of a pair alone. Then it
spells nothing and is refused where it is read, but it is passed over like any other one.
-/

namespace Attenuation.Json

/-- A hexadecimal digit of either case by its value. -/
def IsHexDigit (value : Nat) (c : Char) : Prop :=
  value < 16 ∧ (c = Nat.digitChar value ∨ c = (Nat.digitChar value).toUpper)

/-- The four hexadecimal digits of a unit of sixteen bits. -/
def IsUnit (unit : Nat) (text : List Char) : Prop :=
  ∃ a b c d, text = [a, b, c, d] ∧ IsHexDigit (unit / 4096) a ∧ IsHexDigit (unit / 256 % 16) b ∧
    IsHexDigit (unit / 16 % 16) c ∧ IsHexDigit (unit % 16) d

/-- The escapes of one letter, each with the character that it stands for. -/
def shortEscapes : List (Char × Char) :=
  [('"', '"'), ('\\', '\\'), ('/', '/'), ('b', '\x08'), ('f', '\x0c'), ('n', '\n'), ('r', '\r'),
    ('t', '\t')]

/-- What may stand between the quotes of a string. -/
inductive IsStringBody : List Char → Prop where
  /-- Nothing. -/
  | nil : IsStringBody []
  /-- A character as it is. -/
  | plain {c : Char} {text : List Char} (quote : c ≠ '"') (slash : c ≠ '\\')
    (control : 0x20 ≤ c.toNat) (others : IsStringBody text) : IsStringBody (c :: text)
  /-- An escape of one letter. -/
  | short {letter c : Char} {text : List Char} (escape : (letter, c) ∈ shortEscapes)
    (others : IsStringBody text) : IsStringBody ('\\' :: letter :: text)
  /-- An escape of a unit, which may be half of a surrogate pair alone. -/
  | unit {unit : Nat} {digits text : List Char} (written : IsUnit unit digits)
    (others : IsStringBody text) : IsStringBody ('\\' :: 'u' :: (digits ++ text))

/-- The characters that the body of a string spells. -/
inductive SpellsString : List Char → List Char → Prop where
  /-- Nothing. -/
  | nil : SpellsString [] []
  /-- A character as it is. -/
  | plain {c : Char} {value text : List Char} (quote : c ≠ '"') (slash : c ≠ '\\')
    (control : 0x20 ≤ c.toNat) (others : SpellsString value text) :
    SpellsString (c :: value) (c :: text)
  /-- A character by its escape of one letter. -/
  | short {letter c : Char} {value text : List Char} (escape : (letter, c) ∈ shortEscapes)
    (others : SpellsString value text) : SpellsString (c :: value) ('\\' :: letter :: text)
  /-- A character of sixteen bits by its unit. -/
  | unit {c : Char} {value digits text : List Char} (written : IsUnit c.toNat digits)
    (others : SpellsString value text) :
    SpellsString (c :: value) ('\\' :: 'u' :: (digits ++ text))
  /-- A character of more than sixteen bits by its surrogate pair. -/
  | pair {c : Char} {value high low text : List Char} (wide : 0x10000 ≤ c.toNat)
    (first : IsUnit (0xD800 + (c.toNat - 0x10000) / 0x400) high)
    (second : IsUnit (0xDC00 + (c.toNat - 0x10000) % 0x400) low)
    (others : SpellsString value text) :
    SpellsString (c :: value) ('\\' :: 'u' :: (high ++ '\\' :: 'u' :: (low ++ text)))

/-- What spells a text is the body of a string. -/
theorem SpellsString.isStringBody {value text : List Char} (spelled : SpellsString value text) :
    IsStringBody text := by
  induction spelled with
  | nil => exact .nil
  | plain quote slash control _ others => exact .plain quote slash control others
  | short escape _ others => exact .short escape others
  | unit written _ others => exact .unit written others
  | pair _ first second _ others => exact .unit first (.unit second others)

/-- A hexadecimal digit of either case has its value. -/
theorem hexValue?_of_isHexDigit {value : Nat} {c : Char} (digit : IsHexDigit value c) :
    hexValue? c = some value := by
  obtain ⟨small, rfl | rfl⟩ := digit <;> interval_cases value <;> rfl

/-- The digits of a unit have its value. -/
theorem IsUnit.exists_hexUnit {unit : Nat} {digits : List Char} (written : IsUnit unit digits) :
    ∃ a b c d, digits = [a, b, c, d] ∧ hexUnit? a b c d = some unit := by
  obtain ⟨a, b, c, d, rfl, first, second, third, fourth⟩ := written
  refine ⟨a, b, c, d, rfl, ?_⟩
  simp only [hexUnit?, hexValue?_of_isHexDigit first, hexValue?_of_isHexDigit second,
    hexValue?_of_isHexDigit third, hexValue?_of_isHexDigit fourth, bind, Option.bind, pure]
  congr 1
  omega

/-- An escape of one letter stands for its character. -/
theorem simpleEscape?_of_mem {letter c : Char} (escape : (letter, c) ∈ shortEscapes) :
    simpleEscape? letter = some c := by
  simp only [shortEscapes, List.mem_cons, Prod.mk.injEq, List.not_mem_nil, or_false] at escape
  obtain ⟨rfl, rfl⟩ | ⟨rfl, rfl⟩ | ⟨rfl, rfl⟩ | ⟨rfl, rfl⟩ | ⟨rfl, rfl⟩ | ⟨rfl, rfl⟩ | ⟨rfl, rfl⟩ |
    ⟨rfl, rfl⟩ := escape <;> rfl

/-- The letter of an escape of one letter does not announce a unit. -/
theorem ne_of_mem_shortEscapes {letter c : Char} (escape : (letter, c) ∈ shortEscapes) :
    letter ≠ 'u' := by
  rintro rfl
  cases simpleEscape?_of_mem escape

section Pairs

variable {a b c d : Char} {unit : Nat}

/-- A unit that closes a pair does not open one. -/
theorem not_low_of_high (high : isHighSurrogate unit) : isLowSurrogate unit = false := by
  simp only [isHighSurrogate, isLowSurrogate, Bool.and_eq_true, decide_eq_true_eq,
    Bool.and_eq_false_iff, decide_eq_false_iff_not] at high ⊢
  omega

/-- A unit that closes a pair is refused without the other one. -/
theorem readStringBody_low (known : hexUnit? a b c d = some unit) (low : isLowSurrogate unit)
    (text : List Char) :
    readStringBody ('\\' :: 'u' :: a :: b :: c :: d :: text) = .error .malformed := by
  rw [readStringBody.eq_def]
  simp [known, low]

/-- A unit that opens a pair is refused in front of anything but an escape. -/
theorem readStringBody_high_plain (known : hexUnit? a b c d = some unit)
    (high : isHighSurrogate unit) {other : Char} (plain : other ≠ '\\') (text : List Char) :
    readStringBody ('\\' :: 'u' :: a :: b :: c :: d :: other :: text) = .error .malformed := by
  rw [readStringBody.eq_def]
  cases text <;> simp [known, high, not_low_of_high high, plain]

/-- A unit that opens a pair is refused in front of an escape of one letter. -/
theorem readStringBody_high_short (known : hexUnit? a b c d = some unit)
    (high : isHighSurrogate unit) {letter : Char} (short : letter ≠ 'u') (text : List Char) :
    readStringBody ('\\' :: 'u' :: a :: b :: c :: d :: '\\' :: letter :: text) =
      .error .malformed := by
  rw [readStringBody.eq_def]
  simp [known, high, not_low_of_high high, short]

/-- A unit that opens a pair and the unit behind it are read as their character, if that closes the
pair, and are refused otherwise. -/
theorem readStringBody_high_unit (known : hexUnit? a b c d = some unit)
    (high : isHighSurrogate unit) {e f g h : Char} {next : Nat}
    (second : hexUnit? e f g h = some next) (text : List Char) :
    readStringBody ('\\' :: 'u' :: a :: b :: c :: d :: '\\' :: 'u' :: e :: f :: g :: h :: text) =
      if isLowSurrogate next then consRead (pairedChar unit next) (readStringBody text)
      else .error .malformed := by
  rw [readStringBody.eq_def]
  simp [known, high, not_low_of_high high, second]

end Pairs

/-- The character of a pair has more than sixteen bits. -/
theorem toNat_pairedChar {high low : Nat} (opens : isHighSurrogate high)
    (closes : isLowSurrogate low) :
    (pairedChar high low).toNat = 0x10000 + (high - 0xD800) * 0x400 + (low - 0xDC00) := by
  simp only [isHighSurrogate, isLowSurrogate, Bool.and_eq_true, decide_eq_true_eq] at opens closes
  have valid : (0x10000 + (high - 0xD800) * 0x400 + (low - 0xDC00)).isValidChar := by
    right
    omega
  unfold pairedChar Char.ofNat
  rw [dif_pos valid]
  rfl

/-- What spells characters is read as them, up to the closing quote. -/
theorem SpellsString.read {value text : List Char} (spelled : SpellsString value text)
    (rest : List Char) : readStringBody (text ++ '"' :: rest) = .ok (value, rest) := by
  induction spelled with
  | nil =>
    rw [List.nil_append, readStringBody.eq_def]
    rfl
  | plain quote slash control _ hypothesis =>
    rw [List.cons_append, readStringBody_plain quote slash (Nat.not_lt.mpr control), hypothesis]
    rfl
  | short escape _ hypothesis =>
    rw [List.cons_append, List.cons_append, readStringBody_simple (simpleEscape?_of_mem escape),
      hypothesis]
    rfl
  | unit written _ hypothesis =>
    obtain ⟨a, b, c, d, rfl, known⟩ := written.exists_hexUnit
    simp only [List.cons_append, List.nil_append]
    rw [readStringBody_unit known, hypothesis]
    rfl
  | @pair c value high low text wide first second _ hypothesis =>
    obtain ⟨a, b, c', d, rfl, opens⟩ := first.exists_hexUnit
    obtain ⟨e, f, g, h, rfl, closes⟩ := second.exists_hexUnit
    have valid : c.toNat < 0xD800 ∨ 0xDFFF < c.toNat ∧ c.toNat < 0x110000 := c.valid
    have high : isHighSurrogate (0xD800 + (c.toNat - 0x10000) / 0x400) := by
      simp only [isHighSurrogate, Bool.and_eq_true, decide_eq_true_eq]
      omega
    have low : isLowSurrogate (0xDC00 + (c.toNat - 0x10000) % 0x400) := by
      simp only [isLowSurrogate, Bool.and_eq_true, decide_eq_true_eq]
      omega
    have same : pairedChar (0xD800 + (c.toNat - 0x10000) / 0x400)
        (0xDC00 + (c.toNat - 0x10000) % 0x400) = c := by
      apply Char.toNat_inj.mp
      rw [toNat_pairedChar high low]
      omega
    simp only [List.cons_append, List.nil_append]
    rw [readStringBody_high_unit opens high closes, if_pos low, same, hypothesis]
    rfl

/-- The body of a string is read the same, whatever stands behind its closing quote: it spells a
text, or it is refused. -/
def ReadsOrRefuses (text : List Char) : Prop :=
  (∃ value, SpellsString value text) ∨
    ∃ fault, ∀ rest, readStringBody (text ++ '"' :: rest) = .error fault

/-- A character in front of a body does not change whether it is refused. -/
theorem ReadsOrRefuses.extend {c : Char} {text whole : List Char} (others : ReadsOrRefuses text)
    (spells : ∀ value, SpellsString value text → SpellsString (c :: value) whole)
    (reads : ∀ rest,
      readStringBody (whole ++ '"' :: rest) = consRead c (readStringBody (text ++ '"' :: rest))) :
    ReadsOrRefuses whole := by
  obtain ⟨value, spelled⟩ | ⟨fault, refused⟩ := others
  · exact .inl ⟨c :: value, spells value spelled⟩
  · refine .inr ⟨fault, fun rest => ?_⟩
    rw [reads, refused]
    rfl

/-- A unit is a surrogate, or it is a character. -/
theorem IsUnit.exists_char {unit : Nat} {digits : List Char} (written : IsUnit unit digits)
    (low : ¬ isLowSurrogate unit) (high : ¬ isHighSurrogate unit) :
    ∃ c : Char, c.toNat = unit := by
  obtain ⟨a, b, c, d, -, ⟨small, -⟩, -⟩ := written
  simp only [isLowSurrogate, isHighSurrogate, Bool.and_eq_true, decide_eq_true_eq] at low high
  have valid : unit.isValidChar := by
    unfold Nat.isValidChar
    omega
  exact ⟨Char.ofNatAux unit valid, rfl⟩

/-- The body of a string is read or refused, alone and behind a unit that opens a pair. -/
theorem IsStringBody.readsOrRefuses_both {text : List Char} (written : IsStringBody text) :
    ReadsOrRefuses text ∧ ∀ unit digits, isHighSurrogate unit → IsUnit unit digits →
      ReadsOrRefuses ('\\' :: 'u' :: (digits ++ text)) := by
  induction written with
  | nil =>
    refine ⟨.inl ⟨[], .nil⟩, fun unit digits high written => ?_⟩
    obtain ⟨a, b, c, d, rfl, known⟩ := written.exists_hexUnit
    exact .inr ⟨.malformed, readStringBody_high_plain known high (by decide)⟩
  | @plain c text quote slash control _ hypothesis =>
    constructor
    · apply hypothesis.1.extend fun value => .plain quote slash control
      exact fun rest => readStringBody_plain quote slash (Nat.not_lt.mpr control) _
    · intro unit digits high written
      obtain ⟨a, b, c, d, rfl, known⟩ := written.exists_hexUnit
      exact .inr ⟨.malformed, fun rest => readStringBody_high_plain known high slash _⟩
  | @short letter c text escape _ hypothesis =>
    constructor
    · apply hypothesis.1.extend fun value => .short escape
      exact fun rest => readStringBody_simple (simpleEscape?_of_mem escape) _
    · intro unit digits high written
      obtain ⟨a, b, c, d, rfl, known⟩ := written.exists_hexUnit
      exact .inr ⟨.malformed, fun rest =>
        readStringBody_high_short known high (ne_of_mem_shortEscapes escape) _⟩
  | @unit next later text written _ hypothesis =>
    obtain ⟨e, f, g, h, rfl, second⟩ := written.exists_hexUnit
    constructor
    · by_cases low : isLowSurrogate next
      · exact .inr ⟨.malformed, fun rest => readStringBody_low second low _⟩
      by_cases high : isHighSurrogate next
      · exact hypothesis.2 next _ high written
      obtain ⟨c, rfl⟩ := written.exists_char low high
      apply hypothesis.1.extend fun value => .unit written
      exact fun rest => readStringBody_unit second _
    · intro unit digits high opening
      obtain ⟨a, b, c, d, rfl, known⟩ := opening.exists_hexUnit
      have read (rest : List Char) :=
        readStringBody_high_unit known high second (text ++ '"' :: rest)
      by_cases low : isLowSurrogate next
      · -- The two units are a pair, which spells its character.
        simp only [low, if_true] at read
        apply hypothesis.1.extend _ read
        intro value spelled
        have code := toNat_pairedChar high low
        simp only [isHighSurrogate, isLowSurrogate, Bool.and_eq_true, decide_eq_true_eq]
          at high low
        have first : 0xD800 + ((pairedChar unit next).toNat - 0x10000) / 0x400 = unit := by omega
        have last : 0xDC00 + ((pairedChar unit next).toNat - 0x10000) % 0x400 = next := by omega
        exact .pair (by omega) (by rwa [first]) (by rwa [last]) spelled
      · simp only [low] at read
        exact .inr ⟨.malformed, read⟩

/-- The body of a string spells a text, or it is refused. -/
theorem IsStringBody.readsOrRefuses {text : List Char} (written : IsStringBody text) :
    ReadsOrRefuses text := written.readsOrRefuses_both.1

/-- The body of a string spells one text at most. -/
theorem SpellsString.unique {value other text : List Char} (spelled : SpellsString value text)
    (again : SpellsString other text) : value = other := by
  have same := (spelled.read []).symm.trans (again.read [])
  cases same
  rfl

/-- The body of a string is passed over with its closing quote. -/
theorem skipStringBody_append {body : List Char} (written : IsStringBody body)
    (rest : List Char) : skipStringBody (body ++ '"' :: rest) = .ok rest := by
  induction written with
  | nil =>
    rw [List.nil_append, skipStringBody.eq_def]
    exact if_pos rfl
  | plain quote slash control _ hypothesis =>
    rw [List.cons_append, skipStringBody.eq_def]
    simp only [quote, slash, Nat.not_lt.mpr control, if_false]
    exact hypothesis
  | short escape _ hypothesis =>
    rw [List.cons_append, List.cons_append, skipStringBody.eq_def]
    simpa [ne_of_mem_shortEscapes escape, simpleEscape?_of_mem escape] using hypothesis
  | unit written _ hypothesis =>
    obtain ⟨a, b, c, d, rfl, known⟩ := written.exists_hexUnit
    rw [List.cons_append, List.cons_append, skipStringBody.eq_def]
    simpa [known] using hypothesis

end Attenuation.Json
