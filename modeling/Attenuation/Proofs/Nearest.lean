import Attenuation.Proofs.Double

/-!
# Nearest doubles

A sum, a difference, a product or a quotient of doubles is a double nearest to the exact result,
with an infinity in place of what lies beyond the finite doubles. The bits that a mantissa loses
when it is shifted are remembered in two bits that say on which side of the halfway point the exact
result lies; `Describes` says so, one shift preserves it, and the mantissa that is rounded with
them is a whole number nearest to the exact one.
-/

namespace Attenuation

namespace Level

open Float.Model (UnpackedFloat Format totalExponent)
open Float.Model.UnpackedFloat (Sign Accuracy ExtendedMantissa accuracyOfFraction decreaseExponent
  divCore roundWithAccuracy shiftToExponent shiftToTargetExponent)

/-- What a mantissa says with its two lost bits about the exact mantissa. -/
def Describes : ExtendedMantissa → ℚ → Prop
  | ⟨mantissa, false, false⟩, exact => exact = mantissa
  | ⟨mantissa, false, true⟩, exact => mantissa < exact ∧ exact < mantissa + 1 / 2
  | ⟨mantissa, true, false⟩, exact => exact = mantissa + 1 / 2
  | ⟨mantissa, true, true⟩, exact => mantissa + 1 / 2 < exact ∧ exact < mantissa + 1

/-- A mantissa that lost nothing describes itself. -/
theorem describes_exact (mantissa : Nat) :
    Describes (.ofMantissaAndAccuracy mantissa .exact) mantissa := rfl

/-- A shift by one place describes half of what was described. -/
theorem Describes.shiftRightOne {extended : ExtendedMantissa} {exact : ℚ}
    (described : Describes extended exact) : Describes extended.shiftRightOne (exact / 2) := by
  obtain ⟨mantissa, roundBit, stickyBit⟩ := extended
  obtain ⟨half, parity⟩ := Nat.even_or_odd' mantissa
  have halves : (2 * half) / 2 = half ∧ (2 * half + 1) / 2 = half := by omega
  have lastBits : ((2 * half) % 2 != 0) = false ∧ ((2 * half + 1) % 2 != 0) = true := by
    constructor <;> simp
  rcases parity with rfl | rfl <;> cases roundBit <;> cases stickyBit <;>
    simp only [ExtendedMantissa.shiftRightOne, Describes, halves, lastBits, Bool.or_self,
      Bool.or_true, Bool.or_false, Nat.cast_mul, Nat.cast_add, Nat.cast_ofNat,
      Nat.cast_one] at described ⊢
  all_goals first | (constructor <;> linarith) | linarith

/-- A shift describes the exact mantissa divided by that power of two. -/
theorem Describes.shiftRight {extended : ExtendedMantissa} {exact : ℚ}
    (described : Describes extended exact) (places : Nat) :
    Describes (extended >>> places) (exact / 2 ^ places) := by
  change Describes (places.repeat ExtendedMantissa.shiftRightOne extended) _
  induction places with
  | zero => rwa [pow_zero, div_one]
  | succ places shifted =>
    rw [pow_succ, ← div_div]
    exact shifted.shiftRightOne

/-- The rounded mantissa is a whole number nearest to the exact one. -/
theorem Describes.abs_rounded_sub {extended : ExtendedMantissa} {exact : ℚ}
    (described : Describes extended exact) : |(extended.roundedMantissa : ℚ) - exact| ≤ 1 / 2 := by
  obtain ⟨mantissa, roundBit, stickyBit⟩ := extended
  obtain ⟨half, parity⟩ := Nat.even_or_odd' mantissa
  have lastDigits : (2 * half) % 2 = 0 ∧ (2 * half + 1) % 2 = 1 := by omega
  rcases parity with rfl | rfl <;> cases roundBit <;> cases stickyBit <;>
    simp only [ExtendedMantissa.roundedMantissa, ExtendedMantissa.accuracy,
      Accuracy.roundToNearestEven, Describes, lastDigits, Nat.cast_add, Nat.cast_mul,
      Nat.cast_ofNat, Nat.cast_one, Nat.cast_zero] at described ⊢
  all_goals rw [abs_le]; constructor <;> linarith

/-- Halfway between two whole numbers the rounded mantissa is the even one. -/
theorem Describes.even_of_half {extended : ExtendedMantissa} {exact : ℚ}
    (described : Describes extended exact)
    (half : |(extended.roundedMantissa : ℚ) - exact| = 1 / 2) :
    extended.roundedMantissa % 2 = 0 := by
  obtain ⟨mantissa, roundBit, stickyBit⟩ := extended
  obtain ⟨pair, parity⟩ := Nat.even_or_odd' mantissa
  have lastDigits : (2 * pair) % 2 = 0 ∧ (2 * pair + 1) % 2 = 1 := by omega
  rcases parity with rfl | rfl <;> cases roundBit <;> cases stickyBit <;>
    simp only [ExtendedMantissa.roundedMantissa, ExtendedMantissa.accuracy,
      Accuracy.roundToNearestEven, Describes, lastDigits, Nat.cast_add, Nat.cast_mul,
      Nat.cast_ofNat, Nat.cast_one, Nat.cast_zero] at described half ⊢
  all_goals first
    | omega
    | exfalso; rcases abs_cases (_ : ℚ) with ⟨same, _⟩ | ⟨same, _⟩ <;> rw [same] at half <;> linarith

/-- A mantissa with its accuracy is at most what it describes, and less than one below it. -/
theorem Describes.floor {mantissa : Nat} {accuracy : Accuracy} {exact : ℚ}
    (described : Describes (.ofMantissaAndAccuracy mantissa accuracy) exact) :
    (mantissa : ℚ) ≤ exact ∧ exact < mantissa + 1 := by
  cases accuracy with
  | exact =>
    have same : exact = mantissa := described
    constructor <;> linarith
  | inexact side =>
    cases side <;> simp only [ExtendedMantissa.ofMantissaAndAccuracy, Describes] at described <;>
      constructor <;> linarith

/-- The exponent at which a magnitude is rounded. -/
def target (mantissa : Nat) (exponent : ℤ) : ℤ :=
  Format.binary64.targetExponent (totalExponent mantissa exponent)

/-- A magnitude is rounded at the exponent that leaves fifty-three bits, or at the least one. -/
theorem target_eq (mantissa : Nat) (exponent : ℤ) :
    target mantissa exponent = max (mantissa.log2 + exponent - 52) (-1074) := by
  change max ((mantissa.log2 : ℤ) + 1 + exponent - ((1 + 52 : Nat) : ℤ))
    (3 - 2 ^ 10 - ((1 + 52 : Nat) : ℤ)) = _
  omega

/-- A mantissa that fits is not shifted. -/
theorem shiftToTargetExponent_fits {mantissa : Nat} {exponent : ℤ} (fits : mantissa < 2 ^ 53)
    (floor : -1074 ≤ exponent) :
    shiftToTargetExponent Format.binary64 mantissa exponent .exact =
      (⟨mantissa, false, false⟩, exponent) := by
  have bits : mantissa.log2 ≤ 52 := by
    rcases Nat.eq_zero_or_pos mantissa with rfl | positive
    · decide
    · exact Nat.lt_succ_iff.mp ((Nat.log2_lt positive.ne').mpr fits)
  have still : (target mantissa exponent - exponent).toNat = 0 := by
    rw [target_eq]
    omega
  change shiftToExponent mantissa exponent .exact (target mantissa exponent) = _
  rw [shiftToExponent, still]
  simp only [Nat.cast_zero, Int.add_zero]
  rfl

/-- A mantissa that was rounded up to one bit more is shifted by one place. -/
theorem shiftToTargetExponent_carry {exponent : ℤ} (floor : -1074 ≤ exponent) :
    shiftToTargetExponent Format.binary64 (2 ^ 53) exponent .exact =
      (⟨2 ^ 52, false, false⟩, exponent + 1) := by
  have once : (target (2 ^ 53) exponent - exponent).toNat = 1 := by
    rw [target_eq, Nat.log2_two_pow]
    omega
  change shiftToExponent (2 ^ 53) exponent .exact (target (2 ^ 53) exponent) = _
  rw [shiftToExponent, once]
  rfl

/-- A number taken apart that is a signed magnitude of no more digits than a double has, however
large its exponent is. -/
def Magnitude (sign : Sign) (magnitude : ℚ) : UnpackedFloat → Prop
  | .zero other => other = sign ∧ magnitude = 0
  | .finite other mantissa exponent _ =>
    other = sign ∧ Sits mantissa exponent ∧ magnitude = mantissa * 2 ^ exponent
  | _ => False

/-- The least exponent bounds the exponent that a magnitude is rounded at. -/
theorem floor_le_target (mantissa : Nat) (exponent : ℤ) : -1074 ≤ target mantissa exponent := by
  rw [target_eq]
  exact le_max_right _ _

/-- A mantissa that is long enough, or whose exponent is small enough, is only shifted to the
right. -/
theorem le_target {mantissa : Nat} {exponent : ℤ} (ready : 2 ^ 52 ≤ mantissa ∨ exponent ≤ -1074) :
    exponent ≤ target mantissa exponent := by
  rw [target_eq]
  rcases ready with long | small
  · have bits : 52 ≤ mantissa.log2 := (Nat.le_log2 (by omega)).mpr long
    omega
  · omega

/-- The exact magnitude has at most fifty-three digits before the point at the exponent that it is
rounded at. -/
theorem Describes.lt_target {mantissa : Nat} {accuracy : Accuracy} {exact : ℚ}
    (described : Describes (.ofMantissaAndAccuracy mantissa accuracy) exact) (exponent : ℤ) :
    exact * 2 ^ exponent < 2 ^ (53 + target mantissa exponent) := by
  have whole : (mantissa : ℚ) + 1 ≤ 2 ^ ((mantissa.log2 + 1 : Nat) : ℤ) := by
    rw [twoPow_natCast]
    exact_mod_cast Nat.lt_log2_self
  calc exact * 2 ^ exponent
      < 2 ^ ((mantissa.log2 + 1 : Nat) : ℤ) * 2 ^ exponent :=
        mul_lt_mul_of_pos_right (described.floor.2.trans_le whole) (twoPow_pos _)
    _ = 2 ^ (((mantissa.log2 + 1 : Nat) : ℤ) + exponent) := (twoPow_add _ _).symm
    _ ≤ 2 ^ (53 + target mantissa exponent) := twoPow_le (by rw [target_eq]; omega)

/-- Above the least exponent the exact magnitude has all of fifty-three digits before the point. -/
theorem Describes.target_le {mantissa : Nat} {accuracy : Accuracy} {exact : ℚ} {exponent : ℤ}
    (described : Describes (.ofMantissaAndAccuracy mantissa accuracy) exact)
    (above : -1074 < target mantissa exponent)
    (ready : 2 ^ 52 ≤ mantissa ∨ exponent ≤ -1074) :
    2 ^ (52 + target mantissa exponent) ≤ exact * 2 ^ exponent := by
  rw [target_eq] at above ⊢
  have nonzero : mantissa ≠ 0 := by
    rintro rfl
    rw [Nat.log2_zero] at above
    omega
  have whole : (2 : ℚ) ^ (mantissa.log2 : ℤ) ≤ mantissa := by
    rw [twoPow_natCast]
    exact_mod_cast Nat.log2_self_le nonzero
  calc (2 : ℚ) ^ (52 + max (mantissa.log2 + exponent - 52) (-1074))
      = 2 ^ ((mantissa.log2 : ℤ) + exponent) := congrArg _ (by omega)
    _ = 2 ^ (mantissa.log2 : ℤ) * 2 ^ exponent := twoPow_add _ _
    _ ≤ exact * 2 ^ exponent :=
        mul_le_mul_of_nonneg_right (whole.trans described.floor.1) (twoPow_pos _).le

/-- A whole number that a magnitude was rounded to, at the exponent that it was rounded at. -/
structure RoundedAt (exact : ℚ) (unit : ℤ) (rounded : Nat) : Prop where
  /-- It is a whole number nearest to the exact magnitude. -/
  close : |(rounded : ℚ) - exact / 2 ^ unit| ≤ 1 / 2
  /-- The exponent is not below the least one. -/
  floor : -1074 ≤ unit
  /-- The exact magnitude has at most fifty-three digits before the point. -/
  below : exact < 2 ^ (53 + unit)
  /-- Above the least exponent the exact magnitude has all of fifty-three digits. -/
  above : 2 ^ (52 + unit) ≤ exact ∨ unit = -1074

/-- A magnitude that is rounded has at most fifty-three digits, or one digit more and zeros. -/
theorem RoundedAt.fits {exact : ℚ} {unit : ℤ} {rounded : Nat} (at_ : RoundedAt exact unit rounded) :
    rounded ≤ 2 ^ 53 := by
  have scale := twoPow_pos unit
  have short : exact / 2 ^ unit < 2 ^ (53 : ℤ) := by
    rw [div_lt_iff₀ scale, ← twoPow_add]
    exact at_.below
  have close := (abs_le.mp at_.close).2
  have bound : (rounded : ℚ) < ((2 ^ 53 + 1 : Nat) : ℚ) := by
    push_cast
    rw [show (53 : ℤ) = ((53 : Nat) : ℤ) from rfl, zpow_natCast] at short
    linarith
  have whole : rounded < 2 ^ 53 + 1 := by exact_mod_cast bound
  omega

/-- Above the least exponent a magnitude that is rounded has fifty-three digits. -/
theorem RoundedAt.full {exact : ℚ} {unit : ℤ} {rounded : Nat} (at_ : RoundedAt exact unit rounded) :
    2 ^ 52 ≤ rounded ∨ unit = -1074 := by
  refine at_.above.imp_left fun above => ?_
  have scale := twoPow_pos unit
  have long : (2 : ℚ) ^ (52 : ℤ) ≤ exact / 2 ^ unit := by
    rw [le_div_iff₀ scale, ← twoPow_add]
    exact above
  have close := (abs_le.mp at_.close).1
  have bound : ((2 ^ 52 : Nat) : ℚ) < (rounded + 1 : Nat) := by
    push_cast
    rw [show (52 : ℤ) = ((52 : Nat) : ℤ) from rfl, zpow_natCast] at long
    linarith
  have whole : 2 ^ 52 < rounded + 1 := by exact_mod_cast bound
  omega

/-- A whole number that a magnitude was rounded to, the even one of two that are equally near. -/
structure RoundedEven (exact : ℚ) (unit : ℤ) (rounded : Nat) : Prop
    extends RoundedAt exact unit rounded where
  /-- Halfway between two whole numbers it is the even one. -/
  even : |(rounded : ℚ) - exact / 2 ^ unit| = 1 / 2 → rounded % 2 = 0

/-- What rounding a magnitude gives, with halves going to the even neighbour. -/
theorem roundWithAccuracy_even (sign : Sign) {mantissa : Nat} {exponent : ℤ} {accuracy : Accuracy}
    {exact : ℚ} (described : Describes (.ofMantissaAndAccuracy mantissa accuracy) exact)
    (ready : 2 ^ 52 ≤ mantissa ∨ exponent ≤ -1074) :
    ∃ unit rounded, RoundedEven (exact * 2 ^ exponent) unit rounded ∧
      Magnitude sign (rounded * 2 ^ unit)
        (roundWithAccuracy Format.binary64 sign mantissa exponent accuracy) := by
  have floor := floor_le_target mantissa exponent
  have right := le_target ready
  have below := described.lt_target exponent
  have above : 2 ^ (52 + target mantissa exponent) ≤ exact * 2 ^ exponent ∨
      target mantissa exponent = -1074 := by
    rcases floor.lt_or_eq with less | same
    · exact .inl (described.target_le less ready)
    · exact .inr same.symm
  have shifted : shiftToTargetExponent Format.binary64 mantissa exponent accuracy =
      (ExtendedMantissa.ofMantissaAndAccuracy mantissa accuracy >>>
          (target mantissa exponent - exponent).toNat,
        target mantissa exponent) := by
    change (_, exponent + ((target mantissa exponent - exponent).toNat : ℤ)) = _
    rw [Int.toNat_of_nonneg (by omega), add_sub_cancel]
    rfl
  have places : exact / 2 ^ (target mantissa exponent - exponent).toNat =
      exact * 2 ^ exponent / 2 ^ target mantissa exponent := by
    rw [← zpow_natCast, Int.toNat_of_nonneg (by omega), zpow_sub₀ (by norm_num)]
    field_simp
  have describes := described.shiftRight (target mantissa exponent - exponent).toNat
  rw [places] at describes
  generalize target mantissa exponent = unit at *
  generalize ExtendedMantissa.ofMantissaAndAccuracy mantissa accuracy >>> (unit - exponent).toNat =
    extended at *
  have at_ : RoundedEven (exact * 2 ^ exponent) unit extended.roundedMantissa :=
    ⟨⟨describes.abs_rounded_sub, floor, below, above⟩, describes.even_of_half⟩
  refine ⟨unit, extended.roundedMantissa, at_, ?_⟩
  have fits := at_.fits
  have full := at_.full
  rw [roundWithAccuracy, shifted]
  dsimp only
  generalize extended.roundedMantissa = rounded at *
  rcases fits.lt_or_eq with short | carry
  · rw [shiftToTargetExponent_fits short floor]
    by_cases zero : rounded = 0
    · simp only [zero, dif_pos, Magnitude, Nat.cast_zero, zero_mul, and_self]
    · simp only [zero, dif_neg, not_false_eq_true, Magnitude, and_true, true_and]
      exact ⟨short, floor, full⟩
  · subst carry
    rw [shiftToTargetExponent_carry floor]
    change sign = sign ∧ Sits (2 ^ 52) (unit + 1) ∧ _
    refine ⟨rfl, ⟨by decide, by omega, .inl (le_refl _)⟩, ?_⟩
    rw [twoPow_add]
    push_cast
    ring

/-- What rounding a magnitude gives. -/
theorem roundWithAccuracy_spec (sign : Sign) {mantissa : Nat} {exponent : ℤ} {accuracy : Accuracy}
    {exact : ℚ} (described : Describes (.ofMantissaAndAccuracy mantissa accuracy) exact)
    (ready : 2 ^ 52 ≤ mantissa ∨ exponent ≤ -1074) :
    ∃ unit rounded, RoundedAt (exact * 2 ^ exponent) unit rounded ∧
      Magnitude sign (rounded * 2 ^ unit)
        (roundWithAccuracy Format.binary64 sign mantissa exponent accuracy) := by
  obtain ⟨unit, rounded, at_, spelled⟩ := roundWithAccuracy_even sign described ready
  exact ⟨unit, rounded, at_.toRoundedAt, spelled⟩

/-- The rationals with no more digits than a double has, however large their exponents are. -/
def OnGrid (value : ℚ) : Prop :=
  ∃ count exponent : ℤ, |count| < 2 ^ 53 ∧ -1074 ≤ exponent ∧ value = count * 2 ^ exponent

/-- The other sign of a value on the grid is on the grid. -/
theorem OnGrid.neg {value : ℚ} (onGrid : OnGrid value) : OnGrid (-value) := by
  obtain ⟨count, exponent, short, floor, rfl⟩ := onGrid
  exact ⟨-count, exponent, by rwa [abs_neg], floor, by push_cast; ring⟩

/-- A whole number of a unit that is not too small, and not too many, is on the grid. -/
theorem onGrid_nat {count : Nat} {exponent : ℤ} (short : count < 2 ^ 53)
    (floor : -1074 ≤ exponent) :
    OnGrid (count * 2 ^ exponent) :=
  ⟨count, exponent, by rw [Nat.abs_cast]; exact_mod_cast short, floor, by push_cast; rfl⟩

/-- Zero is on the grid. -/
theorem onGrid_zero : OnGrid 0 := ⟨0, 0, by decide, by decide, by simp⟩

/-- The value of an infinity is on the grid. -/
theorem onGrid_beyond : OnGrid beyond := by
  have split : beyond = ((2 ^ 52 : Nat) : ℚ) * 2 ^ (972 : ℤ) := by
    rw [← twoPow_natCast, ← twoPow_add]
    rfl
  rw [split]
  exact onGrid_nat (by decide) (by decide)

/-- A signed value on the grid is on the grid. -/
theorem OnGrid.signed {value : ℚ} (onGrid : OnGrid value) (sign : Sign) :
    OnGrid (Level.signed sign value) := by
  cases sign
  · exact onGrid.neg
  · exact onGrid

/-- The value of a level is on the grid. -/
theorem onGrid_value (level : Level) : OnGrid level.value := by
  have proper := proper_unpack level
  unfold value
  cases parts : level.toModel.unpack with
  | notANumber => exact onGrid_zero
  | zero => exact onGrid_zero
  | infinity sign => exact onGrid_beyond.signed sign
  | finite sign mantissa exponent positive =>
    rw [parts] at proper
    exact (onGrid_nat proper.1.fits proper.1.floor).signed sign

/-- The value of a level is not beyond an infinity. -/
theorem abs_value_le (level : Level) : |level.value| ≤ beyond := by
  have above := beyond_pos
  cases infinite : level.toModel.unpack.isInf with
  | false =>
    have between := exact_between (proper_unpack level) infinite
    exact abs_le.mpr ⟨between.1.le, between.2.le⟩
  | true =>
    unfold value
    cases parts : level.toModel.unpack with
    | infinity sign => cases sign <;> simp only [exact, signed, abs_neg, abs_of_pos above, le_refl]
    | _ => rw [parts] at infinite; cases infinite

/-- What is finite is a number. -/
theorem isNaN_of_isFinite {level : Level} (finite : level.isFinite) : level.isNaN = false := by
  change level.toModel.unpack.isFinite = true at finite
  change level.toModel.unpack.isNaN = false
  cases kind : level.toModel.unpack <;> rw [kind] at finite <;> first | rfl | cases finite

/-- A finite level is between the infinities. -/
theorem abs_value_lt {level : Level} (finite : level.isFinite) : |level.value| < beyond := by
  change level.toModel.unpack.isFinite = true at finite
  have ordinary : level.toModel.unpack.isInf = false := by
    cases kind : level.toModel.unpack <;> rw [kind] at finite <;> first | rfl | cases finite
  exact abs_lt.mpr (exact_between (proper_unpack level) ordinary)

/-- A level that is no infinity is finite. -/
theorem isFinite_of_value {level : Level} (number : level.isNaN = false)
    (small : |level.value| < beyond) : level.isFinite := by
  change level.toModel.unpack.isNaN = false at number
  change |exact level.toModel.unpack| < beyond at small
  change level.toModel.unpack.isFinite = true
  cases parts : level.toModel.unpack with
  | notANumber => rw [parts] at number; cases number
  | infinity sign =>
    rw [parts] at small
    cases sign <;> simp only [exact, signed, abs_neg, abs_of_pos beyond_pos, lt_irrefl] at small
  | zero => rfl
  | finite => rfl

/-- A number that is not finite is an infinity. -/
theorem infinity_of_notFinite {level : Level} (number : level.isNaN = false)
    (infinite : level.isFinite = false) : ∃ sign, level.toModel.unpack = .infinity sign := by
  change level.toModel.unpack.isNaN = false at number
  change level.toModel.unpack.isFinite = false at infinite
  cases kind : level.toModel.unpack with
  | infinity sign => exact ⟨sign, rfl⟩
  | notANumber => rw [kind] at number; cases number
  | zero | finite => rw [kind] at infinite; cases infinite

/-- The value of an infinity has the magnitude that no finite level has. -/
theorem abs_value_infinity {level : Level} (number : level.isNaN = false)
    (infinite : level.isFinite = false) : |level.value| = beyond := by
  obtain ⟨sign, parts⟩ := infinity_of_notFinite number infinite
  unfold value
  rw [parts]
  cases sign <;> simp only [exact, signed, abs_neg, abs_of_pos beyond_pos]

/-- A level that is nearest to a number: it is a number itself, and no double is closer. -/
structure Nearest (level : Level) (number : ℚ) : Prop where
  /-- The level is a number. -/
  isNumber : level.isNaN = false
  /-- No value of a double is closer. -/
  closest : ∀ other, OnGrid other → |other| ≤ beyond → |level.value - number| ≤ |other - number|

namespace Nearest

variable {level fellow : Level} {number : ℚ}

/-- A level below a number is not above the level nearest to the number. -/
theorem le_of_le (nearest : Nearest level number) (other : Level) (le : other.value ≤ number) :
    other.value ≤ level.value := by
  have close := nearest.closest other.value (onGrid_value other) (abs_value_le other)
  rw [abs_sub_comm other.value, abs_of_nonneg (sub_nonneg.mpr le)] at close
  have := (abs_le.mp close).1
  linarith

/-- A level above a number is not below the level nearest to the number. -/
theorem ge_of_ge (nearest : Nearest level number) (other : Level) (le : number ≤ other.value) :
    level.value ≤ other.value := by
  have close := nearest.closest other.value (onGrid_value other) (abs_value_le other)
  rw [abs_of_nonneg (sub_nonneg.mpr le)] at close
  have := (abs_le.mp close).2
  linarith

/-- A number that a double can hold is held exactly. -/
theorem eq_of_onGrid (nearest : Nearest level number) (onGrid : OnGrid number)
    (small : |number| ≤ beyond) : level.value = number := by
  have close := nearest.closest number onGrid small
  rw [sub_self, abs_zero] at close
  exact sub_eq_zero.mp (abs_nonpos_iff.mp close)

/-- The levels nearest to two numbers are in the order of the numbers. -/
theorem mono {greater : ℚ} (nearest : Nearest level number) (other : Nearest fellow greater)
    (less : number < greater) : level.value ≤ fellow.value := by
  by_contra! above
  have close := nearest.closest fellow.value (onGrid_value fellow) (abs_value_le fellow)
  have otherClose := other.closest level.value (onGrid_value level) (abs_value_le level)
  have apart : 0 < level.value - fellow.value := sub_pos.mpr above
  -- Each of the two numbers is on its own side of the halfway point between the two levels.
  have upper : (level.value - fellow.value) * (level.value + fellow.value) ≤
      (level.value - fellow.value) * (2 * number) := by
    linarith [sq_le_sq.mpr close]
  have lower : (level.value - fellow.value) * (2 * greater) ≤
      (level.value - fellow.value) * (level.value + fellow.value) := by
    linarith [sq_le_sq.mpr otherClose]
  have ordered := (le_of_mul_le_mul_left lower apart).trans (le_of_mul_le_mul_left upper apart)
  linarith

end Nearest

/-- No whole number of units is closer to the exact magnitude. -/
theorem RoundedAt.closest_whole {exact : ℚ} {unit : ℤ} {rounded : Nat}
    (roundedAt : RoundedAt exact unit rounded) (count : ℤ) :
    |rounded * 2 ^ unit - exact| ≤ |count * 2 ^ unit - exact| := by
  have scale := twoPow_pos unit
  have apart (whole : ℚ) : |whole * 2 ^ unit - exact| = |whole - exact / 2 ^ unit| * 2 ^ unit := by
    rw [← abs_of_pos scale, ← abs_mul, abs_of_pos scale, sub_mul, div_mul_cancel₀ _ scale.ne']
  rw [apart, apart]
  refine mul_le_mul_of_nonneg_right ?_ scale.le
  rcases eq_or_ne count rounded with rfl | other
  · rfl
  · have gap : (1 : ℚ) ≤ |(count : ℚ) - rounded| := by
      have whole : (1 : ℤ) ≤ |count - rounded| := Int.one_le_abs (sub_ne_zero.mpr other)
      exact_mod_cast whole
    have triangle := abs_sub_le (count : ℚ) (exact / 2 ^ unit) rounded
    rw [abs_sub_comm (exact / 2 ^ unit)] at triangle
    linarith [roundedAt.close]

/-- No value on the grid is closer to the exact magnitude. -/
theorem RoundedAt.closest {exact : ℚ} {unit : ℤ} {rounded : Nat}
    (roundedAt : RoundedAt exact unit rounded) {other : ℚ} (onGrid : OnGrid other) :
    |rounded * 2 ^ unit - exact| ≤ |other - exact| := by
  obtain ⟨count, exponent, short, floor, rfl⟩ := onGrid
  rcases le_or_gt unit exponent with coarse | fine
  · have whole : (count : ℚ) * 2 ^ exponent =
        ((count * 2 ^ (exponent - unit).toNat : ℤ) : ℚ) * 2 ^ unit := by
      push_cast
      rw [← zpow_natCast, Int.toNat_of_nonneg (by omega), mul_assoc, ← twoPow_add, sub_add_cancel]
    rw [whole]
    exact roundedAt.closest_whole _
  · -- A finer value is below the least magnitude of fifty-three digits, a whole number of units.
    have above := roundedAt.above.resolve_right (by omega)
    have shortValue : (count : ℚ) ≤ 2 ^ (53 : ℤ) := by
      rw [show (53 : ℤ) = ((53 : Nat) : ℤ) from rfl, zpow_natCast]
      exact_mod_cast (le_abs_self count).trans short.le
    have below : (count : ℚ) * 2 ^ exponent ≤ 2 ^ (52 + unit) :=
      calc (count : ℚ) * 2 ^ exponent
          ≤ 2 ^ (53 : ℤ) * 2 ^ exponent := mul_le_mul_of_nonneg_right shortValue (twoPow_pos _).le
        _ = 2 ^ (53 + exponent) := (twoPow_add _ _).symm
        _ ≤ 2 ^ (52 + unit) := twoPow_le (by omega)
    have least : (2 : ℚ) ^ (52 + unit) = ((2 ^ 52 : ℤ) : ℚ) * 2 ^ unit := by
      rw [twoPow_add, show (52 : ℤ) = ((52 : Nat) : ℤ) from rfl, zpow_natCast]
      push_cast
      rfl
    have close := roundedAt.closest_whole (2 ^ 52)
    rw [← least, abs_of_nonpos (sub_nonpos.mpr above)] at close
    rw [abs_of_nonpos (sub_nonpos.mpr (below.trans above))]
    linarith

/-- A packed magnitude has its value, or is the infinity of its sign. -/
theorem Magnitude.value_pack {sign : Sign} {magnitude : ℚ} {parts : UnpackedFloat}
    (spelled : Magnitude sign magnitude parts) :
    Float.isNaN (.ofModel (.pack parts)) = false ∧
      Level.value (.ofModel (.pack parts)) = signed sign (min magnitude beyond) := by
  cases parts with
  | zero other =>
    obtain ⟨rfl, rfl⟩ := spelled
    rw [min_eq_left beyond_pos.le]
    cases other
    · exact ⟨rfl, neg_zero.symm⟩
    · exact ⟨rfl, rfl⟩
  | finite other mantissa exponent positive =>
    obtain ⟨rfl, sits, rfl⟩ := spelled
    rcases le_or_gt exponent 971 with ceiling | high
    · have packed := unpack_pack_finite other positive sits ceiling
      constructor
      · exact congrArg UnpackedFloat.isNaN packed
      · rw [min_eq_left (sits.lt_beyond ceiling).le]
        exact congrArg exact packed
    · have packed := unpack_pack_overflow other positive high
      have full : (2 : ℚ) ^ (52 : ℤ) ≤ mantissa := by
        rw [show (52 : ℤ) = ((52 : Nat) : ℤ) from rfl, twoPow_natCast]
        exact_mod_cast sits.full.resolve_right (by omega)
      have outside : beyond ≤ mantissa * 2 ^ exponent :=
        calc beyond ≤ 2 ^ (52 + exponent) := twoPow_le (by omega)
          _ = 2 ^ (52 : ℤ) * 2 ^ exponent := twoPow_add _ _
          _ ≤ mantissa * 2 ^ exponent := mul_le_mul_of_nonneg_right full (twoPow_pos _).le
      constructor
      · exact congrArg UnpackedFloat.isNaN packed
      · rw [min_eq_right outside]
        exact congrArg exact packed
  | _ => exact spelled.elim

/-- A sign given twice is the positive one. -/
theorem signed_signed (sign : Sign) (magnitude : ℚ) :
    signed sign (signed sign magnitude) = magnitude := by
  cases sign
  · exact neg_neg magnitude
  · rfl

/-- What is rounded and packed is a level nearest to the exact number. -/
theorem RoundedAt.nearest {exact : ℚ} {unit : ℤ} {rounded : Nat}
    (roundedAt : RoundedAt exact unit rounded) {sign : Sign} {parts : UnpackedFloat}
    (spelled : Magnitude sign (rounded * 2 ^ unit) parts) :
    Nearest (.ofModel (.pack parts)) (signed sign exact) where
  isNumber := spelled.value_pack.1
  closest other onGrid small := by
    have turned : |other - signed sign exact| = |signed sign other - exact| := by
      rw [← abs_signed_sub sign, signed_signed]
    have turnedGrid := onGrid.signed sign
    have turnedSmall : signed sign other ≤ beyond := by
      cases sign
      · exact (neg_le_abs other).trans small
      · exact (le_abs_self other).trans small
    rw [spelled.value_pack.2, abs_signed_sub, turned]
    rcases le_or_gt ((rounded : ℚ) * 2 ^ unit) beyond with within | outside
    · rw [min_eq_left within]
      exact roundedAt.closest turnedGrid
    · rw [min_eq_right outside.le]
      have close := roundedAt.closest onGrid_beyond
      have exceeds : beyond ≤ exact := by
        by_contra! under
        rw [abs_of_pos (by linarith), abs_of_pos (by linarith)] at close
        linarith
      rw [abs_of_nonpos (by linarith), abs_of_nonpos (by linarith)]
      linarith

end Level

end Attenuation
