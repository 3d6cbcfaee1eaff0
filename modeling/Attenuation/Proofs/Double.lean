import Attenuation.Level
import Mathlib

/-!
# The values of doubles

A double taken apart is a sign, a mantissa and an exponent, and its value is a rational number. An
infinity counts as the first power of two that no finite double reaches. `Sits` says which mantissas
and exponents a double is taken apart into; since there is one such pair for every magnitude,
doubles compare as their values do.
-/

namespace Attenuation

namespace Level

open Float.Model (UnpackedFloat Format)
open Float.Model.UnpackedFloat (Sign packComponents unpackExponent unpackMantissa unpackSign)

/-- A magnitude with a sign. -/
def signed : Sign → ℚ → ℚ
  | .negative, magnitude => -magnitude
  | .positive, magnitude => magnitude

/-- The first power of two that no finite double reaches. -/
def beyond : ℚ := 2 ^ (1024 : ℤ)

/-- The value of a double that is taken apart. What is no number counts as zero. -/
def exact : UnpackedFloat → ℚ
  | .notANumber => 0
  | .zero _ => 0
  | .infinity sign => signed sign beyond
  | .finite sign mantissa exponent _ => signed sign (mantissa * (2 : ℚ) ^ exponent)

/-- The value of a level. -/
def value (level : Level) : ℚ := exact level.toModel.unpack

/-- A power of two is positive. -/
theorem twoPow_pos (exponent : ℤ) : (0 : ℚ) < 2 ^ exponent := zpow_pos (by norm_num) exponent

/-- An infinity counts as a positive number. -/
theorem beyond_pos : 0 < beyond := twoPow_pos 1024

/-- Powers of two grow with their exponents. -/
theorem twoPow_le {small large : ℤ} (le : small ≤ large) : (2 : ℚ) ^ small ≤ 2 ^ large :=
  zpow_le_zpow_right₀ (by norm_num) le

/-- Powers of two multiply by adding their exponents. -/
theorem twoPow_add (first second : ℤ) : (2 : ℚ) ^ (first + second) = 2 ^ first * 2 ^ second :=
  zpow_add₀ (by norm_num) first second

/-- A natural power of two is the power of two of that exponent. -/
theorem twoPow_natCast (exponent : Nat) :
    (2 : ℚ) ^ (exponent : ℤ) = ((2 ^ exponent : Nat) : ℚ) := by
  rw [zpow_natCast, Nat.cast_pow, Nat.cast_ofNat]

/-- The other sign turns a magnitude around. -/
theorem signed_neg (sign : Sign) (magnitude : ℚ) :
    signed (-sign) magnitude = -signed sign magnitude := by
  cases sign
  · exact (neg_neg magnitude).symm
  · rfl

/-- A sign does not change how far two magnitudes are from each other. -/
theorem abs_signed_sub (sign : Sign) (first second : ℚ) :
    |signed sign first - signed sign second| = |first - second| := by
  cases sign
  · rw [signed, signed, neg_sub_neg, abs_sub_comm]
  · rfl

/-- A mantissa and an exponent that a double has: the mantissa has fifty-three bits, or fewer of
them at the least exponent. -/
structure Sits (mantissa : Nat) (exponent : ℤ) : Prop where
  /-- The mantissa has no more than fifty-three bits. -/
  fits : mantissa < 2 ^ 53
  /-- The exponent is not below the least one. -/
  floor : -1074 ≤ exponent
  /-- Above the least exponent the mantissa has fifty-three bits. -/
  full : 2 ^ 52 ≤ mantissa ∨ exponent = -1074

/-- A mantissa with its leading bit. -/
theorem leading_append (mantissa : BitVec 52) :
    (1#1 ++ mantissa).toNat = 2 ^ 52 + mantissa.toNat := by
  rw [BitVec.toNat_append, ← Nat.shiftLeft_add_eq_or_of_lt mantissa.isLt]
  rfl

/-- A level has a mantissa and an exponent of a double, and its exponent is not too large. -/
theorem sits_of_unpack {level : Level} {sign : Sign} {mantissa : Nat} {exponent : ℤ}
    {positive : 0 < mantissa}
    (parts : level.toModel.unpack = .finite sign mantissa exponent positive) :
    Sits mantissa exponent ∧ exponent ≤ 971 := by
  unfold Float.Model.unpack UnpackedFloat.unpack at parts
  dsimp only at parts
  have fractionBits : (@unpackMantissa Format.binary64 level.toModel.toBits.toBitVec).toNat <
    2 ^ 52 := BitVec.isLt _
  have biasedBits : (@unpackExponent Format.binary64 level.toModel.toBits.toBitVec).toNat <
    2 ^ 11 := BitVec.isLt _
  split at parts
  · split at parts <;> cases parts
  · rename_i ordinary
    have below : (@unpackExponent Format.binary64 level.toModel.toBits.toBitVec).toNat ≠
      2047 := fun same => ordinary (BitVec.eq_of_toNat_eq same)
    split at parts
    · rename_i least
      have zero : (@unpackExponent Format.binary64 level.toModel.toBits.toBitVec).toNat =
        0 := congrArg BitVec.toNat least
      split at parts
      · cases parts
      · cases parts
        rw [zero]
        change Sits _ (-1074) ∧ (-1074 : ℤ) ≤ 971
        exact ⟨⟨by omega, le_refl _, .inr rfl⟩, by omega⟩
    · rename_i nonzero
      have above : (@unpackExponent Format.binary64 level.toModel.toBits.toBitVec).toNat ≠
        0 := fun same => nonzero (BitVec.eq_of_toNat_eq same)
      cases parts
      rw [leading_append]
      change Sits _ (_ - 1075) ∧ (_ : ℤ) - 1075 ≤ 971
      exact ⟨⟨by omega, by omega, .inl (by omega)⟩, by omega⟩

/-- A magnitude of a double is below the first power of two beyond the doubles. -/
theorem Sits.lt_beyond {mantissa : Nat} {exponent : ℤ} (sits : Sits mantissa exponent)
    (ceiling : exponent ≤ 971) : (mantissa : ℚ) * 2 ^ exponent < beyond := by
  have fits : (mantissa : ℚ) < 2 ^ (53 : ℤ) := by
    rw [show (53 : ℤ) = ((53 : Nat) : ℤ) from rfl, twoPow_natCast]
    exact_mod_cast sits.fits
  calc (mantissa : ℚ) * 2 ^ exponent
      < 2 ^ (53 : ℤ) * 2 ^ exponent := mul_lt_mul_of_pos_right fits (twoPow_pos _)
    _ = 2 ^ (53 + exponent) := (twoPow_add _ _).symm
    _ ≤ beyond := twoPow_le (by omega)

/-- A number taken apart as a double is. -/
def Proper : UnpackedFloat → Prop
  | .finite _ mantissa exponent _ => Sits mantissa exponent ∧ exponent ≤ 971
  | _ => True

/-- A level is taken apart as a double is. -/
theorem proper_unpack (level : Level) : Proper level.toModel.unpack := by
  cases parts : level.toModel.unpack with
  | finite => exact sits_of_unpack parts
  | _ => trivial

/-- A magnitude of a nonzero double is positive. -/
theorem magnitude_pos {mantissa : Nat} (positive : 0 < mantissa) (exponent : ℤ) :
    (0 : ℚ) < mantissa * 2 ^ exponent :=
  mul_pos (by exact_mod_cast positive) (twoPow_pos exponent)

/-- What is not infinite is between the infinities. -/
theorem exact_between {number : UnpackedFloat} (proper : Proper number)
    (ordinary : number.isInf = false) : -beyond < exact number ∧ exact number < beyond := by
  have above := beyond_pos
  cases number with
  | infinity => cases ordinary
  | notANumber => exact ⟨neg_lt_zero.mpr above, above⟩
  | zero => exact ⟨neg_lt_zero.mpr above, above⟩
  | finite sign mantissa exponent positive =>
    have below := proper.1.lt_beyond proper.2
    have magnitude := magnitude_pos positive exponent
    cases sign <;> constructor <;> simp only [exact, signed] <;> linarith

/-- Of two magnitudes the one with the larger exponent is the larger one. -/
theorem Sits.lt_of_exponent_lt {mantissa other : Nat} {exponent power : ℤ}
    (sits : Sits mantissa exponent) (above : Sits other power) (less : exponent < power) :
    (mantissa : ℚ) * 2 ^ exponent < other * 2 ^ power := by
  have full : 2 ^ 52 ≤ other := above.full.resolve_right (by have := sits.floor; omega)
  have fits : (mantissa : ℚ) < 2 ^ (53 : ℤ) := by
    rw [show (53 : ℤ) = ((53 : Nat) : ℤ) from rfl, twoPow_natCast]
    exact_mod_cast sits.fits
  have leads : (2 : ℚ) ^ (52 : ℤ) ≤ other := by
    rw [show (52 : ℤ) = ((52 : Nat) : ℤ) from rfl, twoPow_natCast]
    exact_mod_cast full
  calc (mantissa : ℚ) * 2 ^ exponent
      < 2 ^ (53 : ℤ) * 2 ^ exponent := mul_lt_mul_of_pos_right fits (twoPow_pos _)
    _ = 2 ^ (53 + exponent) := (twoPow_add _ _).symm
    _ ≤ 2 ^ (52 + power) := twoPow_le (by omega)
    _ = 2 ^ (52 : ℤ) * 2 ^ power := twoPow_add _ _
    _ ≤ other * 2 ^ power := mul_le_mul_of_nonneg_right leads (twoPow_pos _).le

/-- Magnitudes compare by their exponents first and by their mantissas then. -/
theorem Sits.compare_eq {mantissa other : Nat} {exponent power : ℤ} (sits : Sits mantissa exponent)
    (fellow : Sits other power) : (compare exponent power).then (compare mantissa other) =
      compare ((mantissa : ℚ) * 2 ^ exponent) (other * 2 ^ power) := by
  rcases lt_trichotomy exponent power with less | same | more
  · rw [compare_lt_iff_lt.mpr less, compare_lt_iff_lt.mpr (sits.lt_of_exponent_lt fellow less)]
    rfl
  · subst same
    rw [compare_eq_iff_eq.mpr (rfl : exponent = exponent)]
    have scale := twoPow_pos exponent
    rcases lt_trichotomy mantissa other with less | same | more
    · have valueLess : (mantissa : ℚ) * 2 ^ exponent < other * 2 ^ exponent :=
        mul_lt_mul_of_pos_right (by exact_mod_cast less) scale
      rw [compare_lt_iff_lt.mpr less, compare_lt_iff_lt.mpr valueLess]
      rfl
    · rw [same, compare_eq_iff_eq.mpr rfl, compare_eq_iff_eq.mpr rfl]
      rfl
    · have valueMore : (other : ℚ) * 2 ^ exponent < mantissa * 2 ^ exponent :=
        mul_lt_mul_of_pos_right (by exact_mod_cast more) scale
      rw [compare_gt_iff_gt.mpr more, compare_gt_iff_gt.mpr valueMore]
      rfl
  · rw [compare_gt_iff_gt.mpr more, compare_gt_iff_gt.mpr (fellow.lt_of_exponent_lt sits more)]
    rfl

/-- Negation turns an order around. -/
theorem compare_neg_neg (first second : ℚ) :
    compare (-first) (-second) = (compare first second).swap := by
  rcases lt_trichotomy first second with less | same | more
  · rw [compare_lt_iff_lt.mpr less, compare_gt_iff_gt.mpr (neg_lt_neg less)]
    rfl
  · rw [same, compare_eq_iff_eq.mpr rfl, compare_eq_iff_eq.mpr rfl]
    rfl
  · rw [compare_gt_iff_gt.mpr more, compare_lt_iff_lt.mpr (neg_lt_neg more)]
    rfl

/-- Numbers taken apart compare as their values do. -/
theorem compare_exact {first second : UnpackedFloat} (firstProper : Proper first)
    (secondProper : Proper second) (firstNumber : first.isNaN = false)
    (secondNumber : second.isNaN = false) :
    first.compare second = some (compare (exact first) (exact second)) := by
  have less {x y : ℚ} (lt : x < y) : some Ordering.lt = some (compare x y) :=
    congrArg some (compare_lt_iff_lt.mpr lt).symm
  have more {x y : ℚ} (gt : y < x) : some Ordering.gt = some (compare x y) :=
    congrArg some (compare_gt_iff_gt.mpr gt).symm
  have same (x : ℚ) : some Ordering.eq = some (compare x x) :=
    congrArg some (compare_eq_iff_eq.mpr rfl).symm
  have above := beyond_pos
  cases first with
  | notANumber => cases firstNumber
  | infinity sign =>
    cases second with
    | notANumber => cases secondNumber
    | infinity other =>
      cases sign <;> cases other
      · exact same _
      · exact less (by simp only [exact, signed]; linarith)
      · exact more (by simp only [exact, signed]; linarith)
      · exact same _
    | zero | finite =>
      have between := exact_between secondProper rfl
      cases sign
      · exact less between.1
      · exact more between.2
  | zero =>
    cases second with
    | notANumber => cases secondNumber
    | infinity other =>
      cases other
      · exact more (neg_lt_zero.mpr above)
      · exact less above
    | zero => exact same 0
    | finite other mantissa exponent positive =>
      have magnitude := magnitude_pos positive exponent
      cases other
      · exact more (neg_lt_zero.mpr magnitude)
      · exact less magnitude
  | finite sign mantissa exponent positive =>
    have magnitude := magnitude_pos positive exponent
    cases second with
    | notANumber => cases secondNumber
    | infinity other =>
      have between := exact_between firstProper rfl
      cases other <;> cases sign
      · exact more between.1
      · exact more between.1
      · exact less between.2
      · exact less between.2
    | zero =>
      cases sign
      · exact less (neg_lt_zero.mpr magnitude)
      · exact more magnitude
    | finite other fraction power fractionPositive =>
      have otherMagnitude := magnitude_pos fractionPositive power
      have order := firstProper.1.compare_eq secondProper.1
      cases sign <;> cases other
      · exact congrArg some ((congrArg Ordering.swap order).trans (compare_neg_neg _ _).symm)
      · exact less (by simp only [exact, signed]; linarith)
      · exact more (by simp only [exact, signed]; linarith)
      · exact congrArg some order

/-- Levels that are numbers compare as their values do. -/
theorem compare_value {level other : Level} (number : level.isNaN = false)
    (otherNumber : other.isNaN = false) :
    level.toModel.unpack.compare other.toModel.unpack = some (compare level.value other.value) :=
  compare_exact (proper_unpack level) (proper_unpack other) number otherNumber

/-- A level is below another one if its value is. -/
theorem lt_iff {level other : Level} (number : level.isNaN = false)
    (otherNumber : other.isNaN = false) : level < other ↔ level.value < other.value := by
  change (decide ((level.toModel.unpack.compare other.toModel.unpack == some .lt) = true)) =
    true ↔ _
  rw [compare_value number otherNumber, decide_eq_true_iff, beq_iff_eq, Option.some_inj,
    compare_lt_iff_lt]

/-- A level is at most another one if its value is. -/
theorem le_iff {level other : Level} (number : level.isNaN = false)
    (otherNumber : other.isNaN = false) : level ≤ other ↔ level.value ≤ other.value := by
  change (decide ((level.toModel.unpack.compare other.toModel.unpack).any (·.isLE) = true)) =
    true ↔ _
  rw [compare_value number otherNumber, decide_eq_true_iff, Option.any_some,
    Ordering.isLE_iff_ne_gt]
  exact compare_le_iff_le

/-- What is at most another level is a number. -/
theorem isNaN_of_le {level other : Level} (le : level ≤ other) : level.isNaN = false := by
  change (decide ((level.toModel.unpack.compare other.toModel.unpack).any (·.isLE) = true)) = true
    at le
  change level.toModel.unpack.isNaN = false
  cases parts : level.toModel.unpack with
  | notANumber => rw [parts] at le; cases le
  | _ => rfl

/-- Doubles that compare equal are the same or two zeros. -/
theorem eq_of_beq {first second : UnpackedFloat} (equal : first.beq second) :
    first = second ∨ ∃ sign other, first = .zero sign ∧ second = .zero other := by
  obtain ⟨-, -, same | zeros⟩ :=
    (Float.Model.UnpackedFloat.beq_iff_ne_notANumber_and_eq first second).mp equal
  · exact .inl same
  · obtain ⟨rfl, rfl⟩ | ⟨rfl, rfl⟩ := zeros <;> exact .inr ⟨_, _, rfl, rfl⟩

/-- Levels compare equal if their values are. -/
theorem beq_iff {level other : Level} (number : level.isNaN = false)
    (otherNumber : other.isNaN = false) : level == other ↔ level.value = other.value := by
  change (level.toModel.unpack.compare other.toModel.unpack == some .eq) = true ↔ _
  rw [compare_value number otherNumber, beq_iff_eq, Option.some_inj, compare_eq_iff_eq]

/-- What is not a number equals no level. -/
theorem beq_of_isNaN {level : Level} (nan : level.isNaN) (other : Level) :
    (level == other) = false := by
  change level.toModel.unpack.isNaN = true at nan
  change level.toModel.unpack.beq other.toModel.unpack = false
  cases parts : level.toModel.unpack with
  | notANumber => rfl
  | _ => rw [parts] at nan; cases nan

/-- Levels of one value are taken apart into the same parts, or are two zeros. -/
theorem unpack_eq_of_value {level other : Level} (number : level.isNaN = false)
    (otherNumber : other.isNaN = false) (same : level.value = other.value) :
    level.toModel.unpack = other.toModel.unpack ∨
      ∃ sign otherSign, level.toModel.unpack = .zero sign ∧
        other.toModel.unpack = .zero otherSign :=
  eq_of_beq ((beq_iff number otherNumber).mpr same)

/-- What packed components are taken apart into. -/
theorem unpack_packComponents (sign : Sign) (biased : BitVec 11) (fraction : BitVec 52) :
    UnpackedFloat.unpack Format.binary64 (packComponents Format.binary64 sign biased fraction) =
      if biased = -1#11 then
        if fraction = 0#52 then .infinity sign else .notANumber
      else if biased = 0#11 then
        if least : fraction = 0#52 then .zero sign
        else .finite sign fraction.toNat ((biased.toNat : ℤ) - 1075 + 1)
          (by simpa [BitVec.toNat_pos, BitVec.pos_iff_ne_zero] using least)
      else .finite sign (1#1 ++ fraction).toNat ((biased.toNat : ℤ) - 1075)
        (by rw [leading_append]; omega) := by
  unfold UnpackedFloat.unpack
  simp only [Float.Model.UnpackedFloat.unpackExponent_packComponents,
    Float.Model.UnpackedFloat.unpackMantissa_packComponents,
    Float.Model.UnpackedFloat.unpackSign_packComponents,
    Float.Model.UnpackedFloat.Sign.ofBitVec_toBitVec]
  rfl

/-- A zero is packed as that zero. -/
theorem unpack_pack_zero (sign : Sign) : (Float.Model.pack (.zero sign)).unpack = .zero sign := by
  cases sign <;> rfl

/-- An infinity is packed as that infinity. -/
theorem unpack_pack_infinity (sign : Sign) :
    (Float.Model.pack (.infinity sign)).unpack = .infinity sign := by
  cases sign <;> rfl

/-- What a double has no exponent for is packed as an infinity. -/
theorem unpack_pack_overflow (sign : Sign) {mantissa : Nat} {exponent : ℤ} (positive : 0 < mantissa)
    (high : 971 < exponent) :
    (Float.Model.pack (.finite sign mantissa exponent positive)).unpack = .infinity sign := by
  have tooLarge : 2 ^ Format.binary64.exponentBits ≤ (exponent + Format.binary64.exponentBias +
      Format.binary64.mantissaBitsWithoutImplicit).toNat + 1 := by
    change 2048 ≤ (exponent + 1023 + 52).toNat + 1
    omega
  change UnpackedFloat.unpack Format.binary64 (UnpackedFloat.pack Format.binary64 _) = _
  simp only [UnpackedFloat.pack, if_pos tooLarge]
  exact unpack_pack_infinity sign

/-- A mantissa and an exponent of a double are packed as such. -/
theorem unpack_pack_finite (sign : Sign) {mantissa : Nat} {exponent : ℤ} (positive : 0 < mantissa)
    (sits : Sits mantissa exponent) (ceiling : exponent ≤ 971) :
    (Float.Model.pack (.finite sign mantissa exponent positive)).unpack =
      .finite sign mantissa exponent positive := by
  have floor := sits.floor
  have fits := sits.fits
  have under : ¬ 2 ^ Format.binary64.exponentBits ≤ (exponent + Format.binary64.exponentBias +
      Format.binary64.mantissaBitsWithoutImplicit).toNat + 1 := by
    change ¬ 2048 ≤ (exponent + 1023 + 52).toNat + 1
    omega
  change UnpackedFloat.unpack Format.binary64 (UnpackedFloat.pack Format.binary64 _) = _
  simp only [UnpackedFloat.pack, if_neg under]
  by_cases full : 2 ^ 52 ≤ mantissa
  · have bits : mantissa.log2 + 1 = Format.binary64.mantissaBits := by
      rw [(Nat.log2_eq_iff positive.ne').mpr ⟨full, fits⟩]
      rfl
    rw [if_pos bits, unpack_packComponents]
    have biased : (BitVec.ofNat 11 (exponent + Format.binary64.exponentBias +
        Format.binary64.mantissaBitsWithoutImplicit).toNat).toNat = (exponent + 1075).toNat := by
      change (exponent + 1023 + 52).toNat % 2048 = _
      omega
    have notTop : BitVec.ofNat 11 (exponent + Format.binary64.exponentBias +
        Format.binary64.mantissaBitsWithoutImplicit).toNat ≠ -1#11 := fun same => by
      have top := biased.symm.trans (congrArg BitVec.toNat same)
      change (exponent + 1075).toNat = 2047 at top
      omega
    have notBottom : BitVec.ofNat 11 (exponent + Format.binary64.exponentBias +
        Format.binary64.mantissaBitsWithoutImplicit).toNat ≠ 0#11 := fun same => by
      have bottom := biased.symm.trans (congrArg BitVec.toNat same)
      change (exponent + 1075).toNat = 0 at bottom
      omega
    rw [if_neg notTop, if_neg notBottom]
    have whole : (1#1 ++ BitVec.ofNat 52 mantissa).toNat = mantissa := by
      rw [leading_append, BitVec.toNat_ofNat]
      omega
    have shifted : (((exponent + 1075).toNat : Nat) : ℤ) - 1075 = exponent := by omega
    simp only [whole, biased, shifted]
  · have small : mantissa < 2 ^ 52 := by omega
    have least : exponent = -1074 := sits.full.resolve_left full
    have bits : mantissa.log2 + 1 ≠ Format.binary64.mantissaBits := by
      have short : mantissa.log2 < 52 := (Nat.log2_lt positive.ne').mpr small
      change _ ≠ 53
      omega
    have whole : (BitVec.ofNat 52 mantissa).toNat = mantissa := by
      rw [BitVec.toNat_ofNat, Nat.mod_eq_of_lt small]
    have nonzero : BitVec.ofNat 52 mantissa ≠ 0#52 := fun same => by
      have zero := whole.symm.trans (congrArg BitVec.toNat same)
      change mantissa = 0 at zero
      omega
    rw [if_neg bits, unpack_packComponents, if_neg (by decide), if_pos rfl, dif_neg nonzero]
    subst least
    simp only [whole]
    rfl

end Level

end Attenuation
