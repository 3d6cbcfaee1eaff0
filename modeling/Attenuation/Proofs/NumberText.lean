import Attenuation.Json.Lexeme
import Mathlib.Data.List.Basic
import Mathlib.Tactic.IntervalCases

/-!
# Number texts

The texts that numbers of JSON are written as, and what the number reader makes of them.
`IsMagnitude` is the grammar of a written number without its sign: a leading zero stands alone,
and a point and a mark of a power of ten have digits behind them. Every finite double is written
in it, since its shortest decimal is not zero unless the double is. A text of the grammar
`Settles`: the reader takes the whole of it, and its answer does not depend on what stands behind,
as long as that does not continue the number.
-/

namespace Attenuation

namespace Decimal

/-- A power of two is positive. -/
theorem twoTo_pos (exponent : Nat) : 0 < twoTo exponent := Nat.pow_pos (by decide)

/-- A power of ten is positive. -/
theorem tenTo_pos (exponent : Nat) : 0 < tenTo exponent := Nat.pow_pos (by decide)

/-- A power of ten is not below the power of two with the same exponent. -/
theorem twoTo_le_tenTo (exponent : Nat) : twoTo exponent ≤ tenTo exponent :=
  Nat.pow_le_pow_left (by decide) exponent

namespace Binary

variable {x : Binary}

/-- A decimal that reads back as a magnitude other than zero is not zero. -/
theorem readsBack_pos (nonzero : x.mantissa ≠ 0) {d : Numeral} (reads : x.readsBack d) :
    0 < d.digits := by
  by_contra zero
  have none : d.digits = 0 := by omega
  have below (bound : Nat) (positive : 0 < bound) :
      compareScaled d.digits d.exponent bound (x.exponent - 2) = .lt := by
    unfold compareScaled
    rw [none, Nat.zero_mul, Nat.zero_mul, Nat.compare_eq_lt]
    exact Nat.mul_pos (Nat.mul_pos positive (twoTo_pos _)) (tenTo_pos _)
  have low : 0 < if x.narrowBelow then 4 * x.mantissa - 1 else 4 * x.mantissa - 2 := by
    split <;> omega
  unfold readsBack at reads
  simp [below _ low] at reads

/-- The decimal of a grid that reads back as a magnitude other than zero is not zero. -/
theorem onGrid_pos (nonzero : x.mantissa ≠ 0) {tie : Tie} {grid : Int} {d : Numeral}
    (found : x.onGrid? tie grid = some d) : 0 < d.digits := by
  unfold onGrid? at found
  dsimp only at found
  generalize x.gridNumerator grid / x.gridDenominator grid = lower at found
  cases below : x.readsBack ⟨lower, grid⟩ <;> cases above : x.readsBack ⟨lower + 1, grid⟩ <;>
    rw [below, above] at found
  · cases found
  · cases found
    exact Nat.succ_pos lower
  · cases found
    exact readsBack_pos nonzero below
  · cases found
    have positive : 0 < lower := readsBack_pos nonzero below
    unfold nearer
    dsimp only
    repeat' split
    all_goals omega

/-- The exact decimal of a magnitude other than zero is not zero. -/
theorem exact_pos (nonzero : x.mantissa ≠ 0) : 0 < x.exact.digits :=
  Nat.mul_pos (Nat.mul_pos (Nat.pos_of_ne_zero nonzero) (twoTo_pos _))
    (Nat.div_pos (twoTo_le_tenTo _) (twoTo_pos _))

end Binary

/-- Moving zeros into the exponent leaves digits other than zero. -/
theorem Numeral.trim_pos (fuel : Nat) {d : Numeral} (positive : 0 < d.digits) :
    0 < (d.trim fuel).digits := by
  induction fuel generalizing d with
  | zero => exact positive
  | succ fuel hypothesis =>
    rw [trim]
    by_cases ends : d.digits % 10 = 0 && d.digits != 0
    · rw [if_pos ends]
      apply hypothesis
      simp only [Bool.and_eq_true, decide_eq_true_eq, bne_iff_ne] at ends
      dsimp only
      omega
    · rwa [if_neg ends]

/-- The shortest decimal of a magnitude other than zero is not zero. -/
theorem Binary.shortest_pos {x : Binary} (nonzero : x.mantissa ≠ 0) (tie : Tie) :
    0 < (x.shortest tie).digits := by
  unfold shortest
  apply Numeral.trim_pos
  generalize search : ((List.range 17).findSome? fun (length : Nat) =>
    x.onGrid? tie (x.scale - (length + 1 : Nat))) = found
  cases found with
  | none => exact exact_pos nonzero
  | some d =>
    obtain ⟨length, -, found⟩ := List.exists_of_findSome?_eq_some search
    exact onGrid_pos nonzero found

/-- The digits of a positive number do not start with a zero. -/
theorem head_toDigits {value : Nat} (positive : 0 < value) :
    (Nat.toDigits 10 value).head? ≠ some '0' := by
  induction value using Nat.strongRecOn with
  | ind value hypothesis =>
    rw [Nat.toDigits_eq_if (by decide)]
    by_cases small : value < 10
    · rw [if_pos small]
      interval_cases value <;> decide
    · rw [if_neg small, List.head?_append_of_ne_nil _ Nat.toDigits_ne_nil]
      exact hypothesis (value / 10) (by omega) (by omega)

/-- Whether the parts are those of a finite double. -/
def Parts.isFinite : Parts → Bool
  | .finite _ _ => true
  | _ => false

open Float.Model (UnpackedFloat Format) in
/-- A double is finite exactly if its exponent bits are not all set. -/
theorem Parts.isFinite_ofFloat (x : Float) : (Parts.ofFloat x).isFinite = x.isFinite := by
  unfold Float.isFinite Float.Model.isFinite Float.Model.unpack UnpackedFloat.unpack ofFloat
  dsimp only
  generalize field :
    @UnpackedFloat.unpackExponent Format.binary64 x.toModel.toBits.toBitVec = biased
  have biasedBits : x.toModel.toBits.toNat / twoTo 52 % twoTo 11 = biased.toNat := by
    simp [← field, UnpackedFloat.unpackExponent, twoTo, Nat.shiftRight_eq_div_pow]
  change x.toBits.toNat / twoTo 52 % twoTo 11 = biased.toNat at biasedBits
  have allSet : biased = -1#11 ↔ biased.toNat = twoTo 11 - 1 := by
    rw [← BitVec.toNat_inj]
    rfl
  rw [biasedBits]
  by_cases special : biased = -1#11
  · rw [if_pos special, if_pos (allSet.mp special)]
    split <;> split <;> rfl
  · rw [if_neg special, if_neg (mt allSet.mpr special)]
    by_cases subnormal : biased = 0#11
    · rw [if_pos subnormal]
      by_cases zero : @UnpackedFloat.unpackMantissa Format.binary64 x.toModel.toBits.toBitVec = 0#52
      · rw [dif_pos zero]
        rfl
      · rw [dif_neg zero]
        rfl
    · rw [if_neg subnormal]
      rfl

end Decimal

namespace Json

open Decimal (splitDigits splitSign Layout)

/-- Digits, one or more. -/
structure IsDigits (text : List Char) : Prop where
  /-- There is a digit. -/
  nonempty : text ≠ []
  /-- There is nothing else. -/
  all : ∀ c ∈ text, c.isDigit

/-- The digits in front of a point: a zero alone, or digits that start with another one. -/
def IsWhole (text : List Char) : Prop := text = ['0'] ∨ IsDigits text ∧ text.head? ≠ some '0'

/-- A fraction: nothing, or a point and digits. -/
def IsFraction (text : List Char) : Prop :=
  text = [] ∨ ∃ digits, IsDigits digits ∧ text = '.' :: digits

/-- The sign of a power of ten, which may be left out. -/
def IsSign (text : List Char) : Prop := text = [] ∨ text = ['+'] ∨ text = ['-']

/-- A power of ten: nothing, or a mark, a sign and digits. -/
def IsPower (text : List Char) : Prop :=
  text = [] ∨ ∃ mark sign digits,
    (mark = 'e' ∨ mark = 'E') ∧ IsSign sign ∧ IsDigits digits ∧ text = mark :: (sign ++ digits)

/-- A number without its sign. -/
inductive IsMagnitude : List Char → Prop where
  /-- The digits in front of the point, a fraction and a power of ten. -/
  | parts {whole fraction power : List Char} (front : IsWhole whole) (behind : IsFraction fraction)
    (scale : IsPower power) : IsMagnitude (whole ++ (fraction ++ power))

namespace IsDigits

variable {digits : List Char}

/-- Digits start with a digit. -/
theorem exists_cons (written : IsDigits digits) :
    ∃ c others, digits = c :: others ∧ c.isDigit := by
  obtain ⟨c, others, rfl⟩ := List.exists_cons_of_ne_nil written.nonempty
  exact ⟨c, others, rfl, written.all c List.mem_cons_self⟩

/-- A zero is a digit. -/
theorem zero : IsDigits ['0'] where
  nonempty := List.cons_ne_nil _ _
  all := by simp

/-- Zeros in front of digits are digits. -/
theorem zeros_append (written : IsDigits digits) (count : Nat) :
    IsDigits (List.replicate count '0' ++ digits) where
  nonempty := List.append_ne_nil_of_right_ne_nil _ written.nonempty
  all c member := by
    obtain zero | digit := List.mem_append.mp member
    · rw [List.eq_of_mem_replicate zero]
      rfl
    · exact written.all c digit

/-- Zeros behind digits are digits. -/
theorem append_zeros (written : IsDigits digits) (count : Nat) :
    IsDigits (digits ++ List.replicate count '0') where
  nonempty := List.append_ne_nil_of_left_ne_nil written.nonempty _
  all c member := by
    obtain digit | zero := List.mem_append.mp member
    · exact written.all c digit
    · rw [List.eq_of_mem_replicate zero]
      rfl

/-- The front of digits is digits. -/
theorem take (written : IsDigits digits) (count : Nat) : IsDigits (digits.take (count + 1)) where
  nonempty := by simp [written.nonempty]
  all c member := written.all c (List.mem_of_mem_take member)

/-- What digits leave behind their front is digits. -/
theorem drop (written : IsDigits digits) {count : Nat} (long : count < digits.length) :
    IsDigits (digits.drop count) where
  nonempty := by simpa using long
  all c member := written.all c (List.mem_of_mem_drop member)

/-- A natural number is written in digits. -/
theorem toDigits (value : Nat) : IsDigits (Nat.toDigits 10 value) where
  nonempty := Nat.toDigits_ne_nil
  all _ member := Nat.isDigit_of_mem_toDigits (by decide) (by decide) member

end IsDigits

/-- A number without its sign starts with a digit. -/
theorem IsMagnitude.exists_cons {text : List Char} (written : IsMagnitude text) :
    ∃ c rest, text = c :: rest ∧ c.isDigit := by
  obtain @⟨whole, fraction, power, front, -, -⟩ := written
  obtain rfl | ⟨digits, -⟩ := front
  · exact ⟨'0', _, rfl, rfl⟩
  · obtain ⟨c, others, rfl, digit⟩ := digits.exists_cons
    exact ⟨c, _, rfl, digit⟩

/-- A text that does not start with a digit. -/
def EndsDigits (text : List Char) : Prop := ∀ c ∈ text.head?, c.isDigit = false

/-- Another character than a digit does not continue digits. -/
theorem EndsDigits.cons {c : Char} (other : c.isDigit = false) (rest : List Char) :
    EndsDigits (c :: rest) := by
  intro first same
  cases same
  exact other

/-- Whether a character continues a number that stands in front of it. -/
def continuesNumber (c : Char) : Bool := c.isDigit || c == '.' || c == 'e' || c == 'E'

/-- A text that does not continue a number that stands in front of it. -/
def EndsNumber (text : List Char) : Prop := ∀ c ∈ text.head?, continuesNumber c = false

/-- What does not continue a number does not continue its digits. -/
theorem EndsNumber.endsDigits {text : List Char} (ends : EndsNumber text) : EndsDigits text := by
  intro c first
  have other := ends c first
  simp only [continuesNumber, Bool.or_eq_false_iff] at other
  exact other.1.1.1

/-- The end of a text does not continue a number. -/
theorem EndsNumber.nil : EndsNumber [] := fun _ first => nomatch first

/-- A character that does not continue a number ends it. -/
theorem EndsNumber.cons {c : Char} (other : continuesNumber c = false) (rest : List Char) :
    EndsNumber (c :: rest) := by
  intro first same
  cases same
  exact other

/-- A power of ten does not continue digits. -/
theorem IsPower.endsDigits {power rest : List Char} (written : IsPower power)
    (ends : EndsNumber rest) : EndsDigits (power ++ rest) := by
  obtain rfl | ⟨mark, sign, digits, marked, -, -, rfl⟩ := written
  · exact ends.endsDigits
  · obtain rfl | rfl := marked <;> exact .cons rfl _

/-- A power of ten does not start with a point. -/
theorem IsPower.unpointed {power rest : List Char} (written : IsPower power)
    (ends : EndsNumber rest) (behind : List Char) : power ++ rest ≠ '.' :: behind := by
  intro same
  obtain rfl | ⟨mark, sign, digits, marked, -, -, rfl⟩ := written
  · have first := ends '.' (by rw [List.nil_append] at same; rw [same]; rfl)
    cases first
  · obtain rfl | rfl := marked <;> cases same

/-- A fraction does not continue digits. -/
theorem IsFraction.endsDigits {fraction rest : List Char} (written : IsFraction fraction)
    (ends : EndsDigits rest) : EndsDigits (fraction ++ rest) := by
  obtain rfl | ⟨digits, -, rfl⟩ := written
  · exact ends
  · exact .cons rfl _

/-- Digits are split from what does not continue them. -/
theorem splitDigits_append {digits rest : List Char} (all : ∀ c ∈ digits, c.isDigit)
    (ends : EndsDigits rest) : splitDigits (digits ++ rest) = (digits, rest) := by
  unfold splitDigits
  rw [List.takeWhile_append_of_pos all, List.dropWhile_append_of_pos all]
  cases rest with
  | nil => simp
  | cons c rest =>
    have other : ¬ c.isDigit := by simp [ends c rfl]
    rw [List.takeWhile_cons_of_neg other, List.dropWhile_cons_of_neg other, List.append_nil]

/-- A sign is split from the digit behind it. -/
theorem splitSign_append {sign : List Char} (signed : IsSign sign) {c : Char} (digit : c.isDigit)
    (text : List Char) : splitSign (sign ++ c :: text) = (sign == ['-'], c :: text) := by
  obtain rfl | rfl | rfl := signed
  · unfold splitSign
    split
    · rename_i same
      cases same
      cases digit
    · rename_i same
      cases same
      cases digit
    · rfl
  · rfl
  · rfl

/-- Which digits are collected does not depend on what stands behind all of them. -/
theorem collectDigits_append {rest : List Char} (ends : EndsDigits rest) (digits : List Char)
    (significand count : Nat) :
    collectDigits significand count (digits ++ rest) =
      ((collectDigits significand count digits).1, (collectDigits significand count digits).2.1,
        (collectDigits significand count digits).2.2 ++ rest) := by
  induction digits generalizing significand count with
  | nil =>
    cases rest with
    | nil => rfl
    | cons c rest => simp [collectDigits, ends c rfl]
  | cons digit digits hypothesis =>
    rw [List.cons_append, collectDigits, collectDigits]
    split
    · exact hypothesis _ _
    · rfl

/-- What is not collected was there. -/
theorem collectDigits_subset (digits : List Char) (significand count : Nat) :
    (collectDigits significand count digits).2.2 ⊆ digits := by
  induction digits generalizing significand count with
  | nil => exact List.Subset.refl _
  | cons digit digits hypothesis =>
    rw [collectDigits]
    split
    · exact List.subset_cons_of_subset _ (hypothesis _ _)
    · exact List.Subset.refl _

/-- Digits behind a significand do not make it smaller. -/
theorem le_ofDigitChars (digits : List Char) (significand : Nat) :
    significand ≤ Nat.ofDigitChars 10 digits significand := by
  rw [Nat.ofDigitChars_eq_ofDigitChars_zero]
  have scale : 0 < 10 ^ digits.length := Nat.pow_pos (by decide)
  exact Nat.le_trans (Nat.le_mul_of_pos_left _ scale) (Nat.le_add_right _ _)

/-- All digits of a number that fits are collected. -/
theorem collectDigits_fits {digits : List Char} (all : ∀ c ∈ digits, c.isDigit)
    {significand : Nat} (count : Nat)
    (fits : Nat.ofDigitChars 10 digits significand ≤ greatestSignificand) :
    collectDigits significand count digits =
      (Nat.ofDigitChars 10 digits significand, count + digits.length, []) := by
  induction digits generalizing significand count with
  | nil => rfl
  | cons digit digits hypothesis =>
    rw [Nat.ofDigitChars_cons] at fits ⊢
    have small : 10 * significand + Decimal.digitValue digit ≤ greatestSignificand :=
      Nat.le_trans (le_ofDigitChars digits _) fits
    have digit := all digit List.mem_cons_self
    have others : ∀ c ∈ digits, c.isDigit := fun c member => all c (List.mem_cons_of_mem _ member)
    rw [collectDigits, if_pos (by simp [digit, small]), List.length_cons,
      Nat.add_comm digits.length 1, ← Nat.add_assoc]
    exact hypothesis others (count + 1) fits

/-- A reader takes a text as a whole, and its answer does not depend on what stands behind, as
long as that does not continue a number. -/
def Settles {α : Type} (read : List Char → Except Fault (α × List Char)) (text : List Char) :
    Prop :=
  ∃ answer : Except Fault α, ∀ rest, EndsNumber rest →
    read (text ++ rest) = answer.map (·, rest)

variable (negative : Bool) (significand : Nat)

/-- What is read behind the mark of a power of ten. -/
theorem readExponent_append (start : Int) {sign : List Char} (signed : IsSign sign)
    {digits : List Char} (written : IsDigits digits) {rest : List Char} (ends : EndsDigits rest) :
    readExponent negative significand start (sign ++ digits ++ rest) =
      (if greatestExponent < Decimal.digitsValue digits then
        if significand ≠ 0 && !(sign == ['-']) then .error .malformed
        else .ok (.real (Decimal.withSign negative 0.0))
      else realNumber negative significand
        (if sign == ['-'] then start - Decimal.digitsValue digits
        else start + Decimal.digitsValue digits)).map (·, rest) := by
  obtain ⟨c, others, rfl, digit⟩ := written.exists_cons
  have split := splitDigits_append written.all ends
  unfold readExponent
  rw [List.append_assoc, List.cons_append, splitSign_append signed digit]
  simp only [List.cons_append] at split ⊢
  rw [if_pos digit, split]
  dsimp only
  split_ifs <;> rfl

/-- A power of ten settles behind its mark. -/
theorem readExponent_settles (start : Int) {sign : List Char} (signed : IsSign sign)
    {digits : List Char} (written : IsDigits digits) :
    Settles (readExponent negative significand start) (sign ++ digits) :=
  ⟨_, fun _ ends =>
    readExponent_append negative significand start signed written ends.endsDigits⟩

/-- A number that ends behind its fraction is finished without a power of ten of its own. -/
theorem finishReal_end (exponent : Int) {rest : List Char} (ends : EndsNumber rest) :
    finishReal negative significand exponent rest =
      (realNumber negative significand exponent).map (·, rest) := by
  cases rest with
  | nil =>
    simp only [finishReal]
    cases realNumber negative significand exponent <;> rfl
  | cons c rest =>
    have other := ends c rfl
    simp only [continuesNumber, Bool.or_eq_false_iff, beq_eq_false_iff_ne] at other
    simp only [finishReal, other, decide_false, Bool.or_self, Bool.false_eq_true, if_false]
    cases realNumber negative significand exponent <;> rfl

/-- The power of ten that may end a number settles. -/
theorem finishReal_settles (exponent : Int) {power : List Char} (written : IsPower power) :
    Settles (finishReal negative significand exponent) power := by
  obtain rfl | ⟨mark, sign, digits, marked, signed, written, rfl⟩ := written
  · exact ⟨_, fun _ ends => finishReal_end negative significand exponent ends⟩
  · obtain rfl | rfl := marked <;>
      exact readExponent_settles negative significand exponent signed written

/-- What is read behind a point: the digits that fit are collected, and the others do not count. -/
theorem readFraction_append (start : Int) {digits : List Char} (written : IsDigits digits)
    {rest : List Char} (ends : EndsDigits rest) :
    readFraction negative significand start (digits ++ rest) =
      finishReal negative (collectDigits significand 0 digits).1
        (start - (collectDigits significand 0 digits).2.1) rest := by
  obtain ⟨c, others, rfl, digit⟩ := written.exists_cons
  have collect := collectDigits_append ends (c :: others) significand 0
  have left : ∀ last ∈ (collectDigits significand 0 (c :: others)).2.2, last.isDigit :=
    fun last member => written.all last (collectDigits_subset _ _ _ member)
  unfold readFraction
  simp only [List.cons_append] at collect ⊢
  rw [if_pos digit, collect]
  dsimp only
  rw [splitDigits_append left ends]

/-- The digits behind a point, with the power of ten that may follow, settle. -/
theorem readFraction_settles (start : Int) {digits power : List Char} (written : IsDigits digits)
    (scale : IsPower power) :
    Settles (readFraction negative significand start) (digits ++ power) := by
  obtain ⟨answer, settled⟩ :=
    finishReal_settles negative (collectDigits significand 0 digits).1
      (start - (collectDigits significand 0 digits).2.1) scale
  exists answer
  intro rest ends
  rw [List.append_assoc,
    readFraction_append negative significand start written (scale.endsDigits ends)]
  exact settled rest ends

/-- A number without fraction, power of ten and dropped digits is whole. -/
theorem finishNumber_whole {rest : List Char} (ends : EndsNumber rest) :
    finishNumber negative significand 0 rest = .ok (wholeNumber negative significand, rest) := by
  cases rest with
  | nil => rfl
  | cons c rest =>
    have other := ends c rfl
    simp only [continuesNumber, Bool.or_eq_false_iff, beq_eq_false_iff_ne] at other
    unfold finishNumber
    split
    · rename_i same
      cases same
      exact absurd rfl other.1.1.2
    · simp [other]

/-- A number without a fraction that dropped digits is real. -/
theorem finishNumber_dropped {dropped : Nat} (some : dropped ≠ 0) {power rest : List Char}
    (scale : IsPower power) (ends : EndsNumber rest) :
    finishNumber negative significand dropped (power ++ rest) =
      finishReal negative significand dropped (power ++ rest) := by
  unfold finishNumber
  split
  · rename_i same
    exact absurd same (scale.unpointed ends _)
  · rw [if_neg some]

/-- What may stand behind the digits in front of a point settles. -/
theorem finishNumber_settles (dropped : Nat) {fraction power : List Char}
    (behind : IsFraction fraction) (scale : IsPower power) :
    Settles (finishNumber negative significand dropped) (fraction ++ power) := by
  obtain rfl | ⟨digits, written, rfl⟩ := behind
  · by_cases whole : dropped = 0
    · subst whole
      obtain rfl | ⟨mark, sign, digits, marked, signed, written, rfl⟩ := scale
      · exact ⟨.ok (wholeNumber negative significand),
          fun rest ends => finishNumber_whole negative significand ends⟩
      · obtain rfl | rfl := marked <;>
          exact readExponent_settles negative significand 0 signed written
    · obtain ⟨answer, settled⟩ := finishReal_settles negative significand dropped scale
      exists answer
      intro rest ends
      rw [List.nil_append, finishNumber_dropped negative significand whole scale ends]
      exact settled rest ends
  · exact readFraction_settles negative significand dropped written scale

/-- A zero in front of anything but a digit stands alone. -/
theorem readMagnitude_zero {rest : List Char} (ends : EndsDigits rest) :
    readMagnitude negative ('0' :: rest) = finishNumber negative 0 0 rest := by
  have alone : ¬ (rest.head?.map Char.isDigit).getD false := by
    cases first : rest.head? with
    | none => simp
    | some c => simp [ends c first]
  exact if_neg alone

/-- Digits that do not start with a zero are collected, and those that do not fit are dropped. -/
theorem readMagnitude_digits {whole rest : List Char} (written : IsDigits whole)
    (first : whole.head? ≠ some '0') (ends : EndsDigits rest) :
    readMagnitude negative (whole ++ rest) =
      finishNumber negative (collectDigits 0 0 whole).1 (collectDigits 0 0 whole).2.2.length
        rest := by
  have collect := collectDigits_append ends whole 0 0
  have left : ∀ c ∈ (collectDigits 0 0 whole).2.2, c.isDigit :=
    fun c member => written.all c (collectDigits_subset _ _ _ member)
  obtain ⟨c, others, rfl, digit⟩ := written.exists_cons
  rw [List.cons_append] at collect ⊢
  unfold readMagnitude
  split
  · contradiction
  · rename_i same
    cases same
    contradiction
  · rename_i same
    cases same
    rw [if_pos digit, collect]
    dsimp only
    rw [splitDigits_append left ends]

/-- A number without its sign settles. -/
theorem readMagnitude_settles {text : List Char} (written : IsMagnitude text) :
    Settles (readMagnitude negative) text := by
  obtain @⟨whole, fraction, power, front, behind, scale⟩ := written
  have next {rest : List Char} (ends : EndsNumber rest) :
      EndsDigits (fraction ++ (power ++ rest)) := behind.endsDigits (scale.endsDigits ends)
  obtain rfl | ⟨digits, first⟩ := front
  · obtain ⟨answer, settled⟩ := finishNumber_settles negative 0 0 behind scale
    exists answer
    intro rest ends
    rw [← settled rest ends, List.append_assoc, List.append_assoc]
    exact readMagnitude_zero negative (next ends)
  · obtain ⟨answer, settled⟩ := finishNumber_settles negative (collectDigits 0 0 whole).1
      (collectDigits 0 0 whole).2.2.length behind scale
    exists answer
    intro rest ends
    rw [← settled rest ends, List.append_assoc, List.append_assoc]
    exact readMagnitude_digits negative digits first (next ends)

/-- A natural number of at most sixty-four bits is read back from its digits. -/
theorem readMagnitude_toDigits {value : Nat} (fits : value ≤ greatestSignificand)
    {rest : List Char} (ends : EndsNumber rest) :
    readMagnitude false (Nat.toDigits 10 value ++ rest) = .ok (.natural value, rest) := by
  obtain rfl | positive := Nat.eq_zero_or_pos value
  · rw [Nat.toDigits_zero]
    exact (readMagnitude_zero false ends.endsDigits).trans (finishNumber_whole false 0 ends)
  · have written := IsDigits.toDigits value
    have collect := collectDigits_fits written.all 0 (Nat.ofDigitChars_ten_toDigits.trans_le fits)
    rw [readMagnitude_digits false written (Decimal.head_toDigits positive) ends.endsDigits,
      collect, Nat.ofDigitChars_ten_toDigits]
    exact finishNumber_whole false value ends

/-- Digits around a point are a number. -/
theorem isMagnitude_positionalText {digits : List Char} (written : IsDigits digits)
    (first : digits.head? ≠ some '0') (leading : Int) :
    IsMagnitude (numberLayout.positionalText digits leading) := by
  unfold Layout.positionalText
  by_cases below : leading < 0
  · rw [if_pos below]
    have fraction := written.zeros_append (-leading - 1).toNat
    simpa using IsMagnitude.parts (.inl rfl) (.inr ⟨_, fraction, rfl⟩) (.inl rfl)
  · rw [if_neg below]
    dsimp only
    by_cases short : digits.length ≤ leading.toNat + 1
    · rw [if_pos short]
      have whole := written.append_zeros (leading.toNat + 1 - digits.length)
      have start :
          (digits ++ List.replicate (leading.toNat + 1 - digits.length) '0').head? ≠ some '0' := by
        rwa [List.head?_append_of_ne_nil _ written.nonempty]
      simpa [Layout.wholeEnding, numberLayout] using
        IsMagnitude.parts (.inr ⟨whole, start⟩) (.inr ⟨_, .zero, rfl⟩) (.inl rfl)
    · rw [if_neg short]
      have whole := written.take leading.toNat
      have start : (digits.take (leading.toNat + 1)).head? ≠ some '0' := by
        rwa [List.head?_take, if_neg (Nat.succ_ne_zero _)]
      have fraction := written.drop (Nat.lt_of_not_le short)
      simpa using IsMagnitude.parts (.inr ⟨whole, start⟩) (.inr ⟨_, fraction, rfl⟩) (.inl rfl)

/-- Digits with a power of ten are a number. -/
theorem isMagnitude_exponentText {digits : List Char} (written : IsDigits digits)
    (first : digits.head? ≠ some '0') (leading : Int) :
    IsMagnitude (numberLayout.exponentText digits leading) := by
  obtain ⟨c, others, rfl, -⟩ := written.exists_cons
  have whole : IsWhole [c] := .inr ⟨written.take 0, first⟩
  have fraction : IsFraction (if others.isEmpty then [] else '.' :: others) := by
    by_cases none : others.isEmpty
    · rw [if_pos none]
      exact .inl rfl
    · rw [if_neg none]
      have some : 0 < others.length := List.length_pos_iff.mpr (by simpa using none)
      exact .inr ⟨others, written.drop (Nat.succ_lt_succ some), rfl⟩
  have power :
      IsPower ('e' :: (if leading < 0 then '-' else '+') :: Nat.toDigits 10 leading.natAbs) := by
    refine .inr ⟨'e', [if leading < 0 then '-' else '+'], _, .inl rfl, ?_, .toDigits _, rfl⟩
    split
    · exact .inr (.inr rfl)
    · exact .inr (.inl rfl)
  unfold Layout.exponentText
  by_cases below : leading < 0 <;>
    simpa [below, numberLayout] using IsMagnitude.parts whole fraction power

/-- A magnitude is written as a number. -/
theorem isMagnitude_magnitudeText (x : Decimal.Binary) :
    IsMagnitude (numberLayout.magnitudeText x) := by
  unfold Layout.magnitudeText
  by_cases zero : x.mantissa = 0
  · rw [if_pos zero]
    exact .parts (.inl rfl) (.inr ⟨_, .zero, rfl⟩) (.inl rfl)
  · rw [if_neg zero]
    have written := IsDigits.toDigits (x.shortest numberLayout.tie).digits
    have first := Decimal.head_toDigits (Decimal.Binary.shortest_pos zero numberLayout.tie)
    unfold Layout.decimalText
    dsimp only
    split
    · exact isMagnitude_positionalText written first _
    · exact isMagnitude_exponentText written first _

/-- A finite double is written as a number, with a minus or without. -/
theorem numberText_finite {value : Float} (finite : value.isFinite) :
    ∃ text, IsMagnitude text ∧ (numberText value = text ∨ numberText value = '-' :: text) := by
  rw [← Decimal.Parts.isFinite_ofFloat] at finite
  unfold numberText Layout.render
  cases parts : Decimal.Parts.ofFloat value with
  | notANumber => simp [parts, Decimal.Parts.isFinite] at finite
  | infinite => simp [parts, Decimal.Parts.isFinite] at finite
  | finite negative x =>
    refine ⟨numberLayout.magnitudeText x, isMagnitude_magnitudeText x, ?_⟩
    cases negative
    · exact .inl rfl
    · exact .inr rfl

/-- A double that is not finite is written as null. -/
theorem numberText_notFinite {value : Float} (notFinite : value.isFinite = false) :
    numberText value = ['n', 'u', 'l', 'l'] := by
  rw [← Decimal.Parts.isFinite_ofFloat] at notFinite
  unfold numberText Layout.render
  cases parts : Decimal.Parts.ofFloat value with
  | notANumber => rfl
  | infinite negative => cases negative <;> rfl
  | finite => simp [parts, Decimal.Parts.isFinite] at notFinite

end Json

end Attenuation
