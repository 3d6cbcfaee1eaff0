import Attenuation.Proofs.Arithmetic
import Attenuation.Proofs.NumberText
import Attenuation.Simulator

/-!
# Levels rounded to a step

A simulated instrument with a step stores the multiple of the step that is nearest to a level. The
level is divided by the step, rounded to a whole number with halves going away from zero, and
multiplied by the step. The division and the product are each rounded to a double, but none of the
three turns an order around, so a level that is not above another one is not stored above it.
-/

namespace Attenuation

namespace Level

open Decimal (Binary Parts isNegative roundHalfAway twoTo withSign)
open Float.Model (UnpackedFloat Format)
open Float.Model.UnpackedFloat (Sign unpackExponent unpackMantissa unpackSign)

/-- The nearest whole number, halves away from zero. -/
def halfAway (number : ℚ) : ℤ := if number < 0 then -round (-number) else round number

/-- Rounding halves up does not turn an order around. -/
theorem round_le {first second : ℚ} (le : first ≤ second) : round first ≤ round second := by
  rw [round_eq, round_eq]
  exact Int.floor_le_floor (by linarith)

/-- Rounding halves away from zero does not turn an order around. -/
theorem halfAway_le {first second : ℚ} (le : first ≤ second) :
    halfAway first ≤ halfAway second := by
  unfold halfAway
  split <;> split
  · exact neg_le_neg (round_le (neg_le_neg le))
  · have below : 0 ≤ round (-first) := (round_zero (α := ℚ)).ge.trans (round_le (by linarith))
    have above : 0 ≤ round second := (round_zero (α := ℚ)).ge.trans (round_le (by linarith))
    omega
  · linarith
  · exact round_le le

/-- A whole number is rounded to itself. -/
theorem halfAway_intCast (count : ℤ) : halfAway count = count := by
  unfold halfAway
  split
  · rw [← Int.cast_neg, round_intCast, neg_neg]
  · exact round_intCast count

/-- A sign does not change how a magnitude is rounded. -/
theorem halfAway_signed (sign : Sign) {magnitude : ℚ} (nonneg : 0 ≤ magnitude) :
    (halfAway (signed sign magnitude) : ℚ) = signed sign (round magnitude) := by
  unfold halfAway
  cases sign
  · rw [signed, signed, neg_neg]
    split
    · push_cast
      rfl
    · have zero : magnitude = 0 := by linarith
      rw [zero, neg_zero, round_zero, Int.cast_zero, neg_zero]
  · rw [signed, signed, if_neg (not_lt.mpr nonneg)]

/-- The sign that a flag stands for. -/
def signOf : Bool → Sign
  | true => .negative
  | false => .positive

/-- A double that is given a sign has the signed value. -/
theorem value_withSign (negative : Bool) (level : Level) :
    Level.value (withSign negative level) = signed (signOf negative) level.value ∧
      (withSign negative level).isNaN = level.isNaN := by
  cases negative
  · exact ⟨rfl, rfl⟩
  · exact value_neg level

/-- A natural number that fits a mantissa is small. -/
theorem natCast_lt_beyond {count : Nat} (short : count < 2 ^ 53) : (count : ℚ) < beyond :=
  calc (count : ℚ) < 2 ^ ((53 : Nat) : ℤ) := by
        rw [twoPow_natCast]
        exact_mod_cast short
    _ ≤ beyond := twoPow_le (by decide)

/-- A natural number that fits a mantissa is held exactly. -/
theorem value_ofNat {count : Nat} (short : count < 2 ^ 53) :
    Level.value (Float.ofNat count) = count ∧ (Float.ofNat count).isNaN = false := by
  have onGrid : OnGrid count := by
    simpa using onGrid_nat short (show -1074 ≤ (0 : ℤ) by decide)
  have small : |(count : ℚ)| < beyond := by
    rw [Nat.abs_cast]
    exact natCast_lt_beyond short
  have converted : Nearest count.toUInt64.toFloat count := by
    have nearest := nearest_normalize count 0 .positive
    rw [zpow_zero, mul_one] at nearest
    have word : count.toUInt64.toNat = count := Nat.mod_eq_of_lt (by omega)
    change Nearest (.ofModel (.pack (Float.Model.UnpackedFloat.normalize Format.binary64
      (count.toUInt64.toNat : ℤ) 0 .positive))) _
    rw [word]
    exact_mod_cast nearest
  have one : Level.value (Float.ofBits 0x3FF0000000000000) = 1 := by
    change ((2 ^ 52 : Nat) : ℚ) * 2 ^ (-52 : ℤ) = 1
    norm_num
  have finite : count.toUInt64.toFloat.isFinite :=
    isFinite_of_value converted.isNumber (by rwa [converted.eq_of_onGrid onGrid small.le])
  have oneFinite : (Float.ofBits 0x3FF0000000000000).isFinite := by rfl
  have product := mul_nearest finite oneFinite
  rw [one, mul_one, converted.eq_of_onGrid onGrid small.le] at product
  have same : Float.ofNat count = count.toUInt64.toFloat * Float.ofBits 0x3FF0000000000000 := by
    change Float.ofScientific count false 0 = _
    unfold Float.ofScientific
    rw [dif_pos ⟨short, by decide⟩]
    rfl
  rw [same]
  exact ⟨product.eq_of_onGrid onGrid small.le, product.isNumber⟩

/-- The sign bit of a double is the sign that it is taken apart into. -/
theorem signOf_isNegative (level : Level) : Sign.ofBitVec
    (@unpackSign Format.binary64 level.toModel.toBits.toBitVec) =
      signOf (isNegative level) := by
  have small : level.toBits.toNat < 2 ^ 64 := level.toBits.toNat_lt
  have bit : (@unpackSign Format.binary64 level.toModel.toBits.toBitVec).toNat =
      level.toBits.toNat / 2 ^ 63 := by
    have shifted : (@unpackSign Format.binary64 level.toModel.toBits.toBitVec).toNat =
        level.toBits.toNat / 2 ^ 63 % 2 := by
      simp [unpackSign, Nat.shiftRight_eq_div_pow, Float.toBits]
    omega
  have flag : isNegative level = decide (level.toBits.toNat / 2 ^ 63 = 1) := by
    unfold isNegative
    rw [Bool.eq_iff_iff, beq_iff_eq, decide_eq_true_iff, ← UInt64.toNat_inj]
    simp [Nat.shiftRight_eq_div_pow]
  unfold Sign.ofBitVec
  rw [flag]
  split
  · rename_i clear
    rw [clear] at bit
    rw [← bit]
    rfl
  · rename_i set
    have other : level.toBits.toNat / 2 ^ 63 = 1 := by
      have nonzero : level.toBits.toNat / 2 ^ 63 ≠ 0 := fun zero =>
        set (BitVec.eq_of_toNat_eq (bit.trans zero))
      omega
    rw [other]
    rfl

/-- A finite double is its sign, mantissa and exponent by its bits. -/
theorem value_eq_parts {level : Level} (finite : level.isFinite) :
    ∃ magnitude : Binary, Parts.ofFloat level = .finite (isNegative level) magnitude ∧
      magnitude.mantissa < 2 ^ 53 ∧ level.value =
        signed (signOf (isNegative level)) (magnitude.mantissa * 2 ^ magnitude.exponent) := by
  rw [← Parts.isFinite_ofFloat] at finite
  unfold value Float.Model.unpack UnpackedFloat.unpack
  unfold Parts.ofFloat at finite ⊢
  dsimp only at finite ⊢
  rw [signOf_isNegative]
  have biasedBits : level.toBits.toNat / twoTo 52 % twoTo 11 =
      (@unpackExponent Format.binary64 level.toModel.toBits.toBitVec).toNat := by
    simp [unpackExponent, twoTo, Nat.shiftRight_eq_div_pow, Float.toBits]
  have fractionBits : level.toBits.toNat % twoTo 52 =
      (@unpackMantissa Format.binary64 level.toModel.toBits.toBitVec).toNat := by
    simp [unpackMantissa, twoTo, Float.toBits]
  have fractionSmall : (@unpackMantissa Format.binary64
      level.toModel.toBits.toBitVec).toNat < 2 ^ 52 := BitVec.isLt _
  rw [biasedBits, fractionBits] at finite ⊢
  by_cases special : (@unpackExponent Format.binary64
      level.toModel.toBits.toBitVec).toNat = twoTo 11 - 1
  · rw [if_pos special] at finite
    split at finite <;> cases finite
  · have ordinary : @unpackExponent Format.binary64 level.toModel.toBits.toBitVec ≠ -1#11 :=
      fun same => special (congrArg BitVec.toNat same)
    rw [if_neg special, if_neg ordinary]
    refine ⟨_, rfl, ?_⟩
    unfold Binary.ofFields
    by_cases least : @unpackExponent Format.binary64 level.toModel.toBits.toBitVec = 0#11
    · have zero : (@unpackExponent Format.binary64
          level.toModel.toBits.toBitVec).toNat = 0 := congrArg BitVec.toNat least
      rw [if_pos least, if_pos zero]
      refine ⟨by dsimp only; omega, ?_⟩
      split
      · rename_i empty
        rw [empty]
        cases isNegative level <;> simp [exact, signed, signOf]
      · rw [zero]
        rfl
    · have nonzero : (@unpackExponent Format.binary64
          level.toModel.toBits.toBitVec).toNat ≠ 0 :=
        fun same => least (BitVec.eq_of_toNat_eq same)
      rw [if_neg least, if_neg nonzero]
      have whole : twoTo 52 = 2 ^ 52 := rfl
      dsimp only
      rw [exact, leading_append, whole]
      exact ⟨by omega, rfl⟩

/-- The whole number that a fraction of a power of two is rounded to. -/
theorem round_fraction (mantissa places : Nat) :
    round ((mantissa : ℚ) * 2 ^ (-(places : ℤ))) =
      ((2 * mantissa + 2 ^ places) / (2 * 2 ^ places) : Nat) := by
  have fraction : (mantissa : ℚ) * 2 ^ (-(places : ℤ)) + 1 / 2 =
      ((2 * mantissa + 2 ^ places : Nat) : ℚ) / ((2 * 2 ^ places : Nat) : ℚ) := by
    rw [zpow_neg, zpow_natCast]
    push_cast
    field_simp
  rw [round_eq, fraction, Rat.floor_natCast_div_natCast]
  exact_mod_cast rfl

/-- A finite double is rounded to the whole number that its value is rounded to. -/
theorem value_roundHalfAway {level : Level} (finite : level.isFinite) :
    Level.value (roundHalfAway level) = halfAway level.value ∧
      (roundHalfAway level).isNaN = false := by
  obtain ⟨magnitude, parts, short, sum⟩ := value_eq_parts finite
  have number := isNaN_of_isFinite finite
  unfold roundHalfAway
  rw [parts]
  dsimp only
  split
  · rename_i whole
    obtain ⟨places, whole⟩ := Int.eq_ofNat_of_zero_le whole
    have count : level.value = ((signOf (isNegative level)).apply
        (magnitude.mantissa * 2 ^ places : Nat) : ℤ) := by
      rw [sum, whole, ← mul_one (((signOf (isNegative level)).apply _ : ℤ) : ℚ), apply_magnitude]
      push_cast
      rw [mul_one, zpow_natCast]
    rw [count, halfAway_intCast]
    exact ⟨rfl, number⟩
  · rename_i fractional
    obtain ⟨places, below⟩ : ∃ places : Nat, magnitude.exponent = -((places + 1 : Nat) : ℤ) :=
      ⟨(-magnitude.exponent).toNat - 1, by omega⟩
    have unit : twoTo (-magnitude.exponent).toNat = 2 ^ (places + 1) := by
      rw [below, neg_neg, Int.toNat_natCast]
      rfl
    rw [unit]
    have fits : (2 * magnitude.mantissa + 2 ^ (places + 1)) / (2 * 2 ^ (places + 1)) < 2 ^ 53 := by
      have positive : 0 < 2 ^ places := Nat.two_pow_pos places
      rw [Nat.div_lt_iff_lt_mul (by omega)]
      have scaled : magnitude.mantissa * 1 ≤ magnitude.mantissa * 2 ^ places :=
        Nat.mul_le_mul_left _ positive
      have enough : (magnitude.mantissa + 1) * 2 ^ places ≤ 2 ^ 53 * 2 ^ places :=
        Nat.mul_le_mul_right _ short
      rw [Nat.pow_succ]
      nlinarith
    obtain ⟨held, isNumber⟩ := value_ofNat fits
    obtain ⟨signedValue, signedNumber⟩ := value_withSign (isNegative level)
      (Float.ofNat ((2 * magnitude.mantissa + 2 ^ (places + 1)) / (2 * 2 ^ (places + 1))))
    refine ⟨?_, signedNumber.trans isNumber⟩
    rw [signedValue, held, sum, halfAway_signed _ (by positivity), below, round_fraction]
    rfl

/-- What is not finite is not rounded. -/
theorem roundHalfAway_notFinite {level : Level} (infinite : level.isFinite = false) :
    roundHalfAway level = level := by
  rw [← Parts.isFinite_ofFloat] at infinite
  unfold roundHalfAway
  cases parts : Parts.ofFloat level with
  | finite => rw [parts] at infinite; cases infinite
  | _ => rfl

/-- What leaves infinities alone and does not turn the order of finite levels around does not turn
the order of any levels around. -/
theorem mono_of_finite (operation : Level → Level)
    (infinite : ∀ level : Level, level.isNaN = false → level.isFinite = false →
      (operation level).value = level.value)
    (finite : ∀ level other : Level, level.isFinite → other.isFinite → level.value ≤ other.value →
      (operation level).value ≤ (operation other).value)
    {level other : Level} (number : level.isNaN = false) (otherNumber : other.isNaN = false)
    (le : level.value ≤ other.value) : (operation level).value ≤ (operation other).value := by
  have least := (abs_le.mp (abs_value_le (operation other))).1
  have greatest := (abs_le.mp (abs_value_le (operation level))).2
  cases kind : level.isFinite with
  | true =>
    cases otherKind : other.isFinite with
    | true => exact finite level other kind otherKind le
    | false =>
      have small := abs_lt.mp (abs_value_lt kind)
      rw [infinite other otherNumber otherKind]
      rcases abs_cases other.value with ⟨same, _⟩ | ⟨same, _⟩ <;>
        rw [abs_value_infinity otherNumber otherKind] at same <;> linarith
  | false =>
    cases otherKind : other.isFinite with
    | true =>
      have small := abs_lt.mp (abs_value_lt otherKind)
      rw [infinite level number kind]
      rcases abs_cases level.value with ⟨same, _⟩ | ⟨same, _⟩ <;>
        rw [abs_value_infinity number kind] at same <;> linarith
    | false =>
      rw [infinite level number kind, infinite other otherNumber otherKind]
      exact le

/-- What gives a level nearest to an increasing image does not turn the order of finite levels
around. -/
theorem le_of_nearest (operation : Level → Level) (image : ℚ → ℚ) (increasing : StrictMono image)
    (zero : image 0 = 0)
    (nearest : ∀ level : Level, level.isFinite → Nearest (operation level) (image level.value))
    (determined : ∀ level other : Level, level.toModel.unpack = other.toModel.unpack →
      (operation level).value = (operation other).value)
    {level other : Level} (finite : level.isFinite) (otherFinite : other.isFinite)
    (le : level.value ≤ other.value) : (operation level).value ≤ (operation other).value := by
  rcases le.lt_or_eq with less | same
  · exact (nearest level finite).mono (nearest other otherFinite) (increasing less)
  · rcases unpack_eq_of_value (isNaN_of_isFinite finite) (isNaN_of_isFinite otherFinite) same with
      alike | ⟨sign, otherSign, first, second⟩
    · exact (determined level other alike).le
    · have zeroed {here : Level} {own : Sign} (hereFinite : here.isFinite)
          (parts : here.toModel.unpack = .zero own) : (operation here).value = 0 := by
        have near := nearest here hereFinite
        rw [show here.value = 0 by unfold value; rw [parts]; rfl, zero] at near
        exact near.eq_of_onGrid onGrid_zero (by rw [abs_zero]; exact beyond_pos.le)
      rw [zeroed finite first, zeroed otherFinite second]

/-- A positive finite level is taken apart into a positive magnitude. -/
theorem unpack_of_pos {level : Level} (finite : level.isFinite) (positive : 0 < level.value) :
    ∃ mantissa exponent some,
      level.toModel.unpack = .finite .positive mantissa exponent some := by
  change level.toModel.unpack.isFinite = true at finite
  change 0 < exact level.toModel.unpack at positive
  cases parts : level.toModel.unpack with
  | notANumber | infinity => rw [parts] at finite; cases finite
  | zero => rw [parts] at positive; exact absurd positive (lt_irrefl 0)
  | finite sign mantissa exponent some =>
    rw [parts] at positive
    cases sign with
    | positive => exact ⟨mantissa, exponent, some, rfl⟩
    | negative => exact absurd positive (neg_neg_of_pos (magnitude_pos some exponent)).not_gt

section Step

variable {step : Level}

/-- An infinity divided by a step is that infinity. -/
theorem infinity_div (stepFinite : step.isFinite) (positive : 0 < step.value) {level : Level}
    {sign : Sign} (parts : level.toModel.unpack = .infinity sign) :
    (level / step).toModel.unpack = .infinity sign := by
  obtain ⟨mantissa, exponent, above, kind⟩ := unpack_of_pos stepFinite positive
  change (Float.Model.pack (UnpackedFloat.div Format.binary64 level.toModel.unpack
    step.toModel.unpack)).unpack = _
  rw [parts, kind]
  cases sign <;> exact unpack_pack_infinity _

/-- An infinity multiplied by a step is that infinity. -/
theorem infinity_mul (stepFinite : step.isFinite) (positive : 0 < step.value) {level : Level}
    {sign : Sign} (parts : level.toModel.unpack = .infinity sign) :
    (level * step).toModel.unpack = .infinity sign := by
  obtain ⟨mantissa, exponent, above, kind⟩ := unpack_of_pos stepFinite positive
  change (Float.Model.pack (UnpackedFloat.mul Format.binary64 level.toModel.unpack
    step.toModel.unpack)).unpack = _
  rw [parts, kind]
  cases sign <;> exact unpack_pack_infinity _

/-- What gives an infinity for an infinity gives the value of that infinity. -/
theorem value_of_infinity (operation : Level → Level)
    (infinity : ∀ (level : Level) (sign : Sign), level.toModel.unpack = .infinity sign →
      (operation level).toModel.unpack = .infinity sign)
    {level : Level} (number : level.isNaN = false) (infinite : level.isFinite = false) :
    (operation level).value = level.value := by
  obtain ⟨sign, parts⟩ := infinity_of_notFinite number infinite
  unfold value
  rw [parts, infinity level sign parts]

/-- A division by a step does not turn an order around. -/
theorem div_mono (stepFinite : step.isFinite) (positive : 0 < step.value) {level other : Level}
    (number : level.isNaN = false) (otherNumber : other.isNaN = false)
    (le : level.value ≤ other.value) : (level / step).value ≤ (other / step).value := by
  refine mono_of_finite (· / step)
    (fun _ => value_of_infinity (· / step) fun _ _ => infinity_div stepFinite positive)
    (fun _ _ finite otherFinite => ?_) number otherNumber le
  refine le_of_nearest (· / step) (· / step.value)
    (fun _ _ less => div_lt_div_of_pos_right less positive) (zero_div _)
    (fun _ finite => div_nearest finite stepFinite positive.ne') (fun level other same => ?_) finite
    otherFinite
  change exact
    (Float.Model.pack (UnpackedFloat.div Format.binary64 level.toModel.unpack _)).unpack = _
  rw [same]
  rfl

/-- A multiplication by a step does not turn an order around. -/
theorem mul_mono (stepFinite : step.isFinite) (positive : 0 < step.value) {level other : Level}
    (number : level.isNaN = false) (otherNumber : other.isNaN = false)
    (le : level.value ≤ other.value) : (level * step).value ≤ (other * step).value := by
  refine mono_of_finite (· * step)
    (fun _ => value_of_infinity (· * step) fun _ _ => infinity_mul stepFinite positive)
    (fun _ _ finite otherFinite => ?_) number otherNumber le
  refine le_of_nearest (· * step) (· * step.value)
    (fun _ _ less => mul_lt_mul_of_pos_right less positive) (zero_mul _)
    (fun _ finite => mul_nearest finite stepFinite) (fun level other same => ?_) finite otherFinite
  change exact
    (Float.Model.pack (UnpackedFloat.mul Format.binary64 level.toModel.unpack _)).unpack = _
  rw [same]
  rfl

/-- Rounding to a whole number does not turn an order around. -/
theorem roundHalfAway_mono {level other : Level} (number : level.isNaN = false)
    (otherNumber : other.isNaN = false) (le : level.value ≤ other.value) :
    Level.value (roundHalfAway level) ≤ Level.value (roundHalfAway other) := by
  refine mono_of_finite roundHalfAway (fun _ _ infinite => by rw [roundHalfAway_notFinite infinite])
    (fun _ _ finite otherFinite le => ?_) number otherNumber le
  rw [(value_roundHalfAway finite).1, (value_roundHalfAway otherFinite).1]
  exact_mod_cast halfAway_le le

/-- Dividing a number by a step gives a number. -/
theorem isNaN_div (stepFinite : step.isFinite) (positive : 0 < step.value) {level : Level}
    (number : level.isNaN = false) : (level / step).isNaN = false := by
  cases kind : level.isFinite with
  | true => exact (div_nearest kind stepFinite positive.ne').isNumber
  | false =>
    obtain ⟨sign, parts⟩ := infinity_of_notFinite number kind
    exact congrArg UnpackedFloat.isNaN (infinity_div stepFinite positive parts)

/-- Multiplying a number by a step gives a number. -/
theorem isNaN_mul (stepFinite : step.isFinite) (positive : 0 < step.value) {level : Level}
    (number : level.isNaN = false) : (level * step).isNaN = false := by
  cases kind : level.isFinite with
  | true => exact (mul_nearest kind stepFinite).isNumber
  | false =>
    obtain ⟨sign, parts⟩ := infinity_of_notFinite number kind
    exact congrArg UnpackedFloat.isNaN (infinity_mul stepFinite positive parts)

/-- Rounding a number to a whole number gives a number. -/
theorem isNaN_roundHalfAway {level : Level} (number : level.isNaN = false) :
    (roundHalfAway level).isNaN = false := by
  cases kind : level.isFinite with
  | true => exact (value_roundHalfAway kind).2
  | false =>
    rw [roundHalfAway_notFinite kind]
    exact number

/-- What is stored for a number is a number. -/
theorem isNaN_quantize (stepFinite : step.isFinite) (positive : 0 < step.value) {level : Level}
    (number : level.isNaN = false) : (Simulator.quantize (some step) level).isNaN = false :=
  isNaN_mul stepFinite positive
    (isNaN_roundHalfAway (isNaN_div stepFinite positive number))

/-- A level that is not above another one is not stored above it. -/
theorem quantize_mono (stepFinite : step.isFinite) (positive : 0 < step.value) {level other : Level}
    (number : level.isNaN = false) (otherNumber : other.isNaN = false) (le : level ≤ other) :
    Simulator.quantize (some step) level ≤ Simulator.quantize (some step) other := by
  have divided := isNaN_div stepFinite positive number
  have otherDivided := isNaN_div stepFinite positive otherNumber
  rw [le_iff number otherNumber] at le
  rw [le_iff (isNaN_quantize stepFinite positive number)
    (isNaN_quantize stepFinite positive otherNumber)]
  exact mul_mono stepFinite positive (isNaN_roundHalfAway divided)
    (isNaN_roundHalfAway otherDivided)
    (roundHalfAway_mono divided otherDivided (div_mono stepFinite positive number otherNumber le))

/-- A level that is a whole multiple of the step is stored as it is. -/
theorem quantize_multiple (stepFinite : step.isFinite) (positive : 0 < step.value) {level : Level}
    (finite : level.isFinite) {count : ℤ} (short : |count| < 2 ^ 53)
    (multiple : level.value = count * step.value) :
    Level.value (Simulator.quantize (some step) level) = level.value := by
  have ratio : level.value / step.value = count := by
    rw [multiple, mul_div_cancel_right₀ _ positive.ne']
  have small : |(count : ℚ)| < beyond := by
    have natural : |(count : ℚ)| = (count.natAbs : ℚ) := by
      rw [← Int.cast_abs, Int.abs_eq_natAbs, Int.cast_natCast]
    rw [Int.abs_eq_natAbs] at short
    rw [natural]
    exact natCast_lt_beyond (by exact_mod_cast short)
  have onGrid : OnGrid count := ⟨count, 0, short, by decide, by simp⟩
  have quotient := div_nearest finite stepFinite positive.ne'
  rw [ratio] at quotient
  have whole := quotient.eq_of_onGrid onGrid small.le
  have quotientFinite := isFinite_of_value quotient.isNumber (by rwa [whole])
  obtain ⟨rounded, roundedNumber⟩ := value_roundHalfAway quotientFinite
  rw [whole, halfAway_intCast] at rounded
  have product := mul_nearest (isFinite_of_value roundedNumber (by rwa [rounded])) stepFinite
  rw [rounded, ← multiple] at product
  exact product.eq_of_onGrid (onGrid_value level) (abs_value_le level)

end Step

end Level

end Attenuation
