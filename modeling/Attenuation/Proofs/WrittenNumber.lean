import Attenuation.Proofs.JsonText

/-!
# Numbers read from their own text

A finite double is written by its shortest decimal, as digits around a point or with a power of ten
behind them. The reader collects the digits on both sides of the point into one significand and
counts those behind the point. As long as the significand fits sixty-four bits, what it collects is
the shortest decimal again, except that the zero behind the point of a whole number is one digit
more. So a double is read back as its shortest decimal is scaled.
-/

namespace Attenuation

namespace Decimal

open Json (numberLayout)

namespace Numeral

/-- The power of ten of the leading digit. -/
def leading (d : Numeral) : Int := d.exponent + ((Nat.toDigits 10 d.digits).length : Int) - 1

/-- The decimal that is collected from the text of a decimal. A whole number that is written without
a power of ten has a zero behind its point, which is collected with the other digits. -/
def collected (d : Numeral) : Numeral :=
  if numberLayout.isPositional d.leading && 0 ≤ d.exponent then
    ⟨10 * (d.digits * tenTo d.exponent.toNat), -1⟩
  else d

variable {d : Numeral}

/-- A fraction is collected as it is. -/
theorem collected_of_neg (below : d.exponent < 0) : d.collected = d :=
  if_neg (by simp [below])

/-- What is written with a power of ten is collected as it is. -/
theorem collected_of_not_positional (other : numberLayout.isPositional d.leading = false) :
    d.collected = d :=
  if_neg (by simp [other])

/-- A whole number without a power of ten is collected with the zero behind its point. -/
theorem collected_of_whole (positional : numberLayout.isPositional d.leading)
    (whole : 0 ≤ d.exponent) :
    d.collected = ⟨10 * (d.digits * tenTo d.exponent.toNat), -1⟩ :=
  if_pos (by simp [positional, whole])

end Numeral

/-- The decimal that is collected from the text of a magnitude. -/
def Binary.written (x : Binary) : Numeral :=
  if x.mantissa = 0 then ⟨0, -1⟩ else (x.shortest .toEven).collected

end Decimal

namespace Json

open Decimal (Binary Layout Numeral Parts tenTo withSign)

variable (negative : Bool) {rest : List Char}

/-- Digits in front of a point that fit are all collected. -/
theorem readMagnitude_fits {whole : List Char} (written : IsDigits whole)
    (first : whole.head? ≠ some '0') (fits : Nat.ofDigitChars 10 whole 0 ≤ greatestSignificand)
    (ends : EndsDigits rest) :
    readMagnitude negative (whole ++ rest) =
      finishNumber negative (Nat.ofDigitChars 10 whole 0) 0 rest := by
  rw [readMagnitude_digits negative written first ends, collectDigits_fits written.all 0 fits]
  rfl

/-- Digits behind a point that fit are all collected, and each takes a place. -/
theorem readFraction_fits (significand : Nat) {digits : List Char} (written : IsDigits digits)
    (fits : Nat.ofDigitChars 10 digits significand ≤ greatestSignificand)
    (ends : EndsDigits rest) :
    readFraction negative significand 0 (digits ++ rest) =
      finishReal negative (Nat.ofDigitChars 10 digits significand) (-digits.length) rest := by
  rw [readFraction_append negative significand 0 written ends,
    collectDigits_fits written.all 0 fits, Nat.zero_add, Int.zero_sub]

/-- Digits around a point that fit are collected as one significand. -/
theorem readMagnitude_point {whole digits : List Char} (front : IsWhole whole)
    (written : IsDigits digits)
    (fits : Nat.ofDigitChars 10 (whole ++ digits) 0 ≤ greatestSignificand)
    (ends : EndsDigits rest) :
    readMagnitude negative (whole ++ '.' :: (digits ++ rest)) =
      finishReal negative (Nat.ofDigitChars 10 (whole ++ digits) 0) (-digits.length) rest := by
  have point : EndsDigits ('.' :: (digits ++ rest)) := .cons rfl _
  obtain rfl | ⟨frontDigits, first⟩ := front
  · rw [List.singleton_append, readMagnitude_zero negative point]
    exact readFraction_fits negative 0 written fits ends
  · rw [Nat.ofDigitChars_append] at fits ⊢
    have frontFits := Nat.le_trans (le_ofDigitChars digits _) fits
    rw [readMagnitude_fits negative frontDigits first frontFits point]
    exact readFraction_fits negative _ written fits ends

/-- A power of ten that is not huge is read as it is written. -/
theorem readExponent_toDigits (significand : Nat) (start power : Int)
    (moderate : power.natAbs ≤ greatestExponent) (ends : EndsDigits rest) :
    readExponent negative significand start
        ((if power < 0 then '-' else '+') :: (Nat.toDigits 10 power.natAbs ++ rest)) =
      (realNumber negative significand (start + power)).map (·, rest) := by
  have signed : IsSign [if power < 0 then '-' else '+'] := by
    split
    · exact .inr (.inr rfl)
    · exact .inr (.inl rfl)
  have size : Decimal.digitsValue (Nat.toDigits 10 power.natAbs) = power.natAbs :=
    Nat.ofDigitChars_ten_toDigits
  have read := readExponent_append negative significand start signed (.toDigits power.natAbs) ends
  rw [size, if_neg (Nat.not_lt.mpr moderate)] at read
  refine read.trans (congrArg (fun exponent =>
    (realNumber negative significand exponent).map (·, rest)) ?_)
  by_cases below : power < 0
  · rw [if_pos below, if_pos (by decide)]
    omega
  · rw [if_neg below, if_neg (by decide)]
    omega

section Decimals

variable {d : Numeral}

/-- The text of a decimal below one is collected as the decimal. -/
theorem readMagnitude_below (below : d.leading < 0) (fits : d.digits ≤ greatestSignificand)
    (ends : EndsNumber rest) :
    readMagnitude negative
        (numberLayout.positionalText (Nat.toDigits 10 d.digits) d.leading ++ rest) =
      (realNumber negative d.digits d.exponent).map (·, rest) := by
  have written := (IsDigits.toDigits d.digits).zeros_append (-d.leading - 1).toNat
  have value : Nat.ofDigitChars 10 (['0'] ++
      (List.replicate (-d.leading - 1).toNat '0' ++ Nat.toDigits 10 d.digits)) 0 = d.digits := by
    rw [Nat.ofDigitChars_append, Nat.ofDigitChars_append, Nat.ofDigitChars_replicate_zero]
    exact Nat.ofDigitChars_ten_toDigits
  have places : (-(List.replicate (-d.leading - 1).toNat '0' ++
      Nat.toDigits 10 d.digits).length : Int) = d.exponent := by
    rw [List.length_append, List.length_replicate]
    unfold Numeral.leading at below ⊢
    omega
  have read := readMagnitude_point negative (.inl rfl) written (value.trans_le fits) ends.endsDigits
  rw [value, places, finishReal_end negative _ _ ends] at read
  unfold Layout.positionalText
  rw [if_pos below]
  exact read

/-- The text of a whole number is collected with the zero behind its point. -/
theorem readMagnitude_whole (positive : 0 < d.digits) (whole : 0 ≤ d.exponent)
    (fits : 10 * (d.digits * tenTo d.exponent.toNat) ≤ greatestSignificand)
    (ends : EndsNumber rest) :
    readMagnitude negative
        (numberLayout.positionalText (Nat.toDigits 10 d.digits) d.leading ++ rest) =
      (realNumber negative (10 * (d.digits * tenTo d.exponent.toNat)) (-1)).map (·, rest) := by
  have length : 0 < (Nat.toDigits 10 d.digits).length := Nat.length_toDigits_pos
  have places : d.leading.toNat + 1 - (Nat.toDigits 10 d.digits).length = d.exponent.toNat := by
    unfold Numeral.leading
    omega
  have front : IsWhole (Nat.toDigits 10 d.digits ++ List.replicate d.exponent.toNat '0') :=
    .inr ⟨(IsDigits.toDigits d.digits).append_zeros _, by
      rw [List.head?_append_of_ne_nil _ Nat.toDigits_ne_nil]
      exact Decimal.head_toDigits positive⟩
  have value : Nat.ofDigitChars 10
      (Nat.toDigits 10 d.digits ++ List.replicate d.exponent.toNat '0' ++ ['0']) 0 =
        10 * (d.digits * tenTo d.exponent.toNat) := by
    rw [Nat.ofDigitChars_append, Nat.ofDigitChars_append, Nat.ofDigitChars_ten_toDigits,
      Nat.ofDigitChars_replicate_zero, Nat.mul_comm d.digits]
    rfl
  have read := readMagnitude_point negative front .zero (value.trans_le fits) ends.endsDigits
  rw [value, finishReal_end negative _ _ ends] at read
  unfold Layout.positionalText
  have above : ¬ d.leading < 0 := by
    unfold Numeral.leading
    omega
  rw [if_neg above]
  dsimp only
  rw [if_pos (by unfold Numeral.leading; omega), places]
  simpa [Layout.wholeEnding, numberLayout] using read

/-- The text of a number with digits on both sides of its point is collected as the decimal. -/
theorem readMagnitude_around (positive : 0 < d.digits) (above : 0 ≤ d.leading)
    (fraction : d.exponent < 0) (fits : d.digits ≤ greatestSignificand) (ends : EndsNumber rest) :
    readMagnitude negative
        (numberLayout.positionalText (Nat.toDigits 10 d.digits) d.leading ++ rest) =
      (realNumber negative d.digits d.exponent).map (·, rest) := by
  have written := IsDigits.toDigits d.digits
  have long : d.leading.toNat + 1 < (Nat.toDigits 10 d.digits).length := by
    unfold Numeral.leading at above ⊢
    omega
  have front : IsWhole ((Nat.toDigits 10 d.digits).take (d.leading.toNat + 1)) :=
    .inr ⟨written.take _, by
      rw [List.head?_take, if_neg (Nat.succ_ne_zero _)]
      exact Decimal.head_toDigits positive⟩
  have value : Nat.ofDigitChars 10 ((Nat.toDigits 10 d.digits).take (d.leading.toNat + 1) ++
      (Nat.toDigits 10 d.digits).drop (d.leading.toNat + 1)) 0 = d.digits := by
    rw [List.take_append_drop]
    exact Nat.ofDigitChars_ten_toDigits
  have places : (-((Nat.toDigits 10 d.digits).drop (d.leading.toNat + 1)).length : Int) =
      d.exponent := by
    rw [List.length_drop]
    unfold Numeral.leading at above long ⊢
    omega
  have read := readMagnitude_point negative front (written.drop long) (value.trans_le fits)
    ends.endsDigits
  rw [value, places, finishReal_end negative _ _ ends] at read
  unfold Layout.positionalText
  rw [if_neg (by omega), if_neg (by omega), List.append_assoc]
  exact read

/-- The text of a decimal with a power of ten is collected as the decimal. -/
theorem readMagnitude_exponentText (positive : 0 < d.digits)
    (fits : d.digits ≤ greatestSignificand)
    (moderate : d.leading.natAbs ≤ greatestExponent) (ends : EndsNumber rest) :
    readMagnitude negative
        (numberLayout.exponentText (Nat.toDigits 10 d.digits) d.leading ++ rest) =
      (realNumber negative d.digits d.exponent).map (·, rest) := by
  have written := IsDigits.toDigits d.digits
  have first := Decimal.head_toDigits positive
  have value : Nat.ofDigitChars 10 (Nat.toDigits 10 d.digits) 0 = d.digits :=
    Nat.ofDigitChars_ten_toDigits
  have power (start : Int) := readExponent_toDigits negative d.digits start d.leading moderate
    ends.endsDigits
  have mark : EndsDigits ('e' :: ((if d.leading < 0 then '-' else '+') ::
      (Nat.toDigits 10 d.leading.natAbs ++ rest))) := .cons rfl _
  have same : d.leading = d.exponent + ((Nat.toDigits 10 d.digits).length : Int) - 1 := rfl
  have sign : (if d.leading < 0 then ['-'] else if numberLayout.signedExponent then ['+'] else []) =
      [if d.leading < 0 then '-' else '+'] := by
    split <;> rfl
  unfold Layout.exponentText
  dsimp only
  rw [sign]
  generalize d.leading = leading at *
  generalize Nat.toDigits 10 d.digits = digits at *
  obtain ⟨c, others, rfl, -⟩ := written.exists_cons
  cases others with
  | nil =>
    -- A single digit has no point, and the power of ten stands right behind it.
    have read := readMagnitude_fits negative written first (value.trans_le fits) mark
    rw [value] at read
    have scaled := read.trans (power 0)
    rw [show 0 + leading = d.exponent by simp at same; omega] at scaled
    simpa using scaled
  | cons second others =>
    have front : IsWhole [c] := .inr ⟨written.take 0, first⟩
    have fraction : IsDigits (second :: others) :=
      written.drop (show 1 < (c :: second :: others).length by simp)
    have read := readMagnitude_point negative front fraction (value.trans_le fits) mark
    rw [List.singleton_append, List.singleton_append, value] at read
    have scaled := read.trans (power (-(second :: others).length))
    rw [show -((second :: others).length : Int) + leading = d.exponent by
      simp at same ⊢
      omega] at scaled
    simpa using scaled

/-- The text of a decimal is read as what is collected from it. -/
theorem readMagnitude_decimalText (positive : 0 < d.digits)
    (fits : d.collected.digits ≤ greatestSignificand)
    (moderate : d.leading.natAbs ≤ greatestExponent) (ends : EndsNumber rest) :
    readMagnitude negative (numberLayout.decimalText d ++ rest) =
      (realNumber negative d.collected.digits d.collected.exponent).map (·, rest) := by
  have layout : numberLayout.decimalText d = if numberLayout.isPositional d.leading
      then numberLayout.positionalText (Nat.toDigits 10 d.digits) d.leading
      else numberLayout.exponentText (Nat.toDigits 10 d.digits) d.leading := rfl
  rw [layout]
  cases positional : numberLayout.isPositional d.leading with
  | false =>
    rw [Numeral.collected_of_not_positional positional] at fits ⊢
    exact readMagnitude_exponentText negative positive fits moderate ends
  | true =>
    rcases lt_or_ge d.exponent 0 with fraction | whole
    · rw [Numeral.collected_of_neg fraction] at fits ⊢
      rcases lt_or_ge d.leading 0 with below | above
      · exact readMagnitude_below negative below fits ends
      · exact readMagnitude_around negative positive above fraction fits ends
    · rw [Numeral.collected_of_whole positional whole] at fits ⊢
      exact readMagnitude_whole negative positive whole fits ends

end Decimals

/-- A magnitude whose text can be collected: the digits fit the significand, and the power of ten
fits its own bound. -/
structure Legible (x : Binary) : Prop where
  /-- The digits fit sixty-four bits. -/
  fits : x.written.digits ≤ greatestSignificand
  /-- The power of ten of the leading digit fits thirty-one bits. -/
  moderate : (x.shortest .toEven).leading.natAbs ≤ greatestExponent

/-- The text of a magnitude is read as what is collected from it. -/
theorem readMagnitude_magnitudeText {x : Binary} (legible : Legible x) (ends : EndsNumber rest) :
    readMagnitude negative (numberLayout.magnitudeText x ++ rest) =
      (realNumber negative x.written.digits x.written.exponent).map (·, rest) := by
  have fits := legible.fits
  unfold Layout.magnitudeText
  unfold Binary.written at fits ⊢
  by_cases zero : x.mantissa = 0
  · rw [if_pos zero, if_pos zero]
    have read := readMagnitude_point negative (.inl rfl) .zero (by decide) ends.endsDigits
    rw [finishReal_end negative _ _ ends] at read
    exact read
  · rw [if_neg zero] at fits ⊢
    rw [if_neg zero]
    exact readMagnitude_decimalText negative (Decimal.Binary.shortest_pos zero .toEven) fits
      legible.moderate ends

/-- The reader of numbers reads the text of a finite double as what is collected from it. -/
theorem numberReader_numberText (expected : String) {value : Float} {x : Binary}
    (parts : Parts.ofFloat value = .finite negative x) (legible : Legible x) :
    (numberReader expected).Answers (numberText value)
      (realNumber negative x.written.digits x.written.exponent) := by
  unfold numberText Layout.render
  rw [parts]
  cases negative with
  | true =>
    apply answers_peekValue rfl
    intro rest ends
    rw [if_pos rfl, run_bind_ok (run_advance _ _)]
    exact readMagnitude_magnitudeText true legible ends
  | false =>
    obtain ⟨c, letters, same, digit⟩ := (isMagnitude_magnitudeText x).exists_cons
    have read {rest : List Char} (ends : EndsNumber rest) :=
      readMagnitude_magnitudeText false legible ends
    dsimp only
    rw [same] at read ⊢
    exact numberReader_answers_digit expected digit fun rest ends => read ends

/-- A finite double is read back as the decimal that is collected from its text is scaled. -/
theorem rereadDouble_finite {value : Float} {x : Binary}
    (parts : Parts.ofFloat value = .finite negative x) (legible : Legible x) :
    rereadDouble value =
      match scaleSignificand? x.written.digits x.written.exponent with
      | some read => .ok (withSign negative read)
      | none => .error .malformed := by
  have answers := numberReader_numberText negative "f64" parts legible
  have read : readDouble.Answers (numberText value)
      (match scaleSignificand? x.written.digits x.written.exponent with
        | some read => .ok (withSign negative read)
        | none => .error .malformed) := by
    intro blanks rest blank ends
    unfold readDouble
    rw [run_bind (answers blanks rest blank ends)]
    unfold realNumber
    cases scaleSignificand? x.written.digits x.written.exponent <;> rfl
  exact read.readWhole .nil .nil (by simp)

end Json

end Attenuation
