import Attenuation.Proofs.RoundingError
import Attenuation.Proofs.ShortestDecimal

/-!
# How a significand is scaled

The reader rounds the significand to a double and multiplies it by a rounded power of ten, or
divides it by one, or by two of them where the power is too small for one. Each of these steps
rounds, so the result can be a few units in the last place away from the double whose text is read.
With at most fifty-three bits and twenty-two places the significand and the power of ten are exact,
and the one rounding that is left finds the double again.
-/

namespace Attenuation

namespace Level

open Decimal (Binary Parts)
open Float.Model (UnpackedFloat Format)
open Json (powerOfTen scaleSignificand?)

/-- A significand and a power of ten that are not in the table are rounded to a nearest double. -/
theorem nearest_ofScientific {significand exponent : Nat} (positive : 0 < significand)
    (slow : ¬ (significand < 2 ^ 53 ∧ exponent ≤ 22)) (small : exponent ≤ 2048) :
    Nearest (Float.ofScientific significand false exponent) (significand * 10 ^ exponent) := by
  have power : 0 < 10 ^ exponent := Nat.pow_pos (by decide)
  have shifted : 0 < significand <<< 53 := by
    rw [Nat.shiftLeft_eq]
    exact Nat.mul_pos positive (by decide)
  have long : 2 ^ 52 ≤ significand <<< 53 * 10 ^ exponent := by
    rw [Nat.shiftLeft_eq]
    calc 2 ^ 52 ≤ 1 * 2 ^ 53 * 1 := by decide
      _ ≤ significand * 2 ^ 53 * 10 ^ exponent :=
        Nat.mul_le_mul (Nat.mul_le_mul_right _ positive) power
  obtain ⟨unit, rounded, even, spelled⟩ :=
    @mul_ready .positive .positive _ _ (-53) 0 shifted power (.inl long)
  have number : ((significand <<< 53 : Nat) : ℚ) * 2 ^ (-53 : ℤ) *
      (((10 ^ exponent : Nat) : ℚ) * 2 ^ (0 : ℤ)) = significand * 10 ^ exponent := by
    rw [Nat.shiftLeft_eq]
    push_cast
    rw [mul_assoc (significand : ℚ)]
    norm_num
  rw [number] at even
  have same : Float.ofScientific significand false exponent =
      .ofModel (.pack (UnpackedFloat.mul Format.binary64
        (.finite .positive (significand <<< 53) (-53) shifted)
        (.finite .positive (10 ^ exponent) 0 power))) := by
    have ordinary : ¬ (exponent : ℤ) > 2 ^ 11 := by norm_num; omega
    have notTiny : ¬ (exponent : ℤ) < -(2 ^ 11 + (significand.log2 : ℤ)) := by norm_num; omega
    unfold Float.ofScientific
    rw [dif_neg slow]
    change Float.ofModel (.pack (UnpackedFloat.ofScientific Format.binary64 significand
      (exponent : ℤ))) = _
    unfold UnpackedFloat.ofScientific
    rw [dif_neg positive.ne']
    change Float.ofModel (.pack (if (exponent : ℤ) > 2 ^ 11 then _ else
      if (exponent : ℤ) < -(2 ^ 11 + (significand.log2 : ℤ)) then _ else
      if 0 ≤ (exponent : ℤ) then _ else _)) = _
    rw [if_neg ordinary, if_neg notTiny, if_pos (Int.natCast_nonneg _)]
    rfl
  rw [same]
  exact even.toRoundedAt.nearest spelled

/-- A double is taken apart into a sign and a magnitude of its value. -/
theorem value_of_parts {level : Level} {negative : Bool} {x : Binary}
    (parts : Parts.ofFloat level = .finite negative x) :
    level.isFinite ∧ level.value = signed (signOf negative) x.value := by
  have finite : level.isFinite := by
    rw [← Parts.isFinite_ofFloat, parts]
    rfl
  obtain ⟨magnitude, same, -, value⟩ := value_eq_parts finite
  cases parts.symm.trans same
  exact ⟨finite, value⟩

/-- A significand is rounded to a finite double that approximates it. -/
theorem ofNat_within {significand : Nat} (positive : 0 < significand)
    (short : significand ≤ 10 ^ 17) : (Float.ofNat significand).isFinite ∧
      Within (2 ^ (-53 : ℤ)) significand (Level.value (Float.ofNat significand)) := by
  have nearest : Nearest (Float.ofNat significand) significand := by
    by_cases fits : significand < 2 ^ 53
    · exact nearest_value (value_ofNat fits).2 (value_ofNat fits).1
    · have nearest := @nearest_ofScientific significand 0 positive (by omega) (by decide)
      rwa [pow_zero, mul_one] at nearest
  have least : (1 : ℚ) ≤ significand := by exact_mod_cast positive
  have greatest : (significand : ℚ) ≤ 10 ^ 17 := by exact_mod_cast short
  have finite := nearest.isFinite_of_small (by
    rw [Nat.abs_cast]
    exact greatest.trans (by norm_num))
  exact ⟨finite, nearest.within finite (normal_of_one_le least)⟩

/-- The powers of ten in the table by their mantissas and exponents. -/
theorem parts_powerOfTen : ∀ exponent < 23, Parts.ofFloat (powerOfTen exponent) =
    .finite false ⟨5 ^ exponent * 2 ^ (52 - (5 ^ exponent).log2),
      (exponent : ℤ) + (5 ^ exponent).log2 - 52, exponent = 0⟩ := by
  decide +kernel

/-- A power of ten in the table is exact. -/
theorem value_powerOfTen {exponent : Nat} (few : exponent ≤ 22) :
    (powerOfTen exponent).isFinite ∧ Level.value (powerOfTen exponent) = 10 ^ exponent := by
  obtain ⟨finite, value⟩ := value_of_parts (parts_powerOfTen exponent (by omega))
  refine ⟨finite, value.trans ?_⟩
  have bits : (5 ^ exponent).log2 ≤ 52 := by
    have short : 5 ^ exponent ≤ 5 ^ 22 := Nat.pow_le_pow_right (by decide) few
    exact Nat.lt_succ_iff.mp ((Nat.log2_lt (Nat.pow_pos (by decide)).ne').mpr
      (short.trans_lt (by decide)))
  change ((5 ^ exponent * 2 ^ (52 - (5 ^ exponent).log2) : Nat) : ℚ) *
    2 ^ ((exponent : ℤ) + (5 ^ exponent).log2 - 52) = 10 ^ exponent
  generalize (5 ^ exponent).log2 = binary at *
  push_cast
  rw [← zpow_natCast (2 : ℚ) (52 - binary), mul_assoc, ← twoPow_add,
    show ((52 - binary : Nat) : ℤ) + ((exponent : ℤ) + binary - 52) = exponent by omega,
    zpow_natCast, ← mul_pow]
  norm_num

/-- A power of ten is rounded to a finite double that approximates it. -/
theorem powerOfTen_within {exponent : Nat} (bound : exponent ≤ 308) :
    (powerOfTen exponent).isFinite ∧
      Within (2 ^ (-53 : ℤ)) (10 ^ exponent) (Level.value (powerOfTen exponent)) := by
  have least : (1 : ℚ) ≤ 10 ^ exponent := one_le_pow₀ (by norm_num)
  by_cases few : exponent ≤ 22
  · obtain ⟨finite, value⟩ := value_powerOfTen few
    rw [value]
    exact ⟨finite, (Within.refl _).mono (by linarith) (twoPow_pos _).le⟩
  · have nearest := @nearest_ofScientific 1 exponent (by decide) (by omega) (by omega)
    rw [Nat.cast_one, one_mul] at nearest
    have greatest : (10 : ℚ) ^ exponent ≤ 10 * 2 ^ (1020 : ℤ) :=
      calc (10 : ℚ) ^ exponent ≤ 10 ^ 308 := pow_le_pow_right₀ (by norm_num) bound
        _ = 10 * 10 ^ (307 : ℤ) := by
            rw [pow_succ', show (307 : ℤ) = ((307 : Nat) : ℤ) from rfl, zpow_natCast]
        _ ≤ 10 * 2 ^ (1020 : ℤ) :=
            mul_le_mul_of_nonneg_left (Decimal.tenPow_le_twoPow (by decide)) (by norm_num)
    have finite : (powerOfTen exponent).isFinite := nearest.isFinite (by
      have unit := twoPow_pos 1020
      have less : (2 : ℚ) ^ (970 : ℤ) ≤ 2 ^ (1020 : ℤ) := twoPow_le (by decide)
      have top : beyond = 16 * 2 ^ (1020 : ℤ) := by
        unfold beyond
        rw [show (1024 : ℤ) = 4 + 1020 from rfl, twoPow_add]
        norm_num
      rw [abs_of_pos (by linarith), top]
      generalize (2 : ℚ) ^ (1020 : ℤ) = unit at *
      generalize (2 : ℚ) ^ (970 : ℤ) = half at *
      linarith)
    exact ⟨finite, nearest.within finite (normal_of_one_le least)⟩

/-- A natural number approximates a smaller one by a power of two that it can be told apart by. -/
theorem within_natCast {number rough bits : Nat} (above : number ≤ rough)
    (close : (rough - number) * 2 ^ bits ≤ number) :
    Within (1 / 2 ^ bits) (number : ℚ) (rough : ℚ) := by
  unfold Within
  rw [← Nat.cast_sub above, Nat.abs_cast, one_div_mul_eq_div, le_div_iff₀ (by positivity)]
  exact_mod_cast close

/-- The greatest power of ten that is used approximates better than the others have to. -/
theorem powerOfTen_within_greatest :
    Within (1 / 2 ^ 56) (10 ^ 308) (Level.value (powerOfTen 308)) := by
  have parts : Parts.ofFloat (powerOfTen 308) = .finite false ⟨5010420900022432, 971, false⟩ := by
    decide +kernel
  have value : Level.value (powerOfTen 308) = ((5010420900022432 * 2 ^ 971 : Nat) : ℚ) := by
    refine (value_of_parts parts).2.trans ?_
    change ((5010420900022432 : Nat) : ℚ) * 2 ^ (971 : ℤ) = _
    rw [Nat.cast_mul, ← twoPow_natCast]
    rfl
  have within := @within_natCast (10 ^ 308) (5010420900022432 * 2 ^ 971) 56 (by decide +kernel)
    (by decide +kernel)
  rw [← value, Nat.cast_pow] at within
  exact within

/-- A power of ten that is not negative multiplies, and is refused where the product is not
finite. -/
theorem scaleSignificand_mul (digits : Nat) {places : Nat} (few : places ≤ 308) :
    scaleSignificand? digits places =
      if (Float.ofNat digits * powerOfTen places).isFinite
      then some (Float.ofNat digits * powerOfTen places) else none := by
  unfold scaleSignificand?
  dsimp only
  rw [if_neg (by omega), if_pos (by omega), Int.toNat_natCast]

/-- A power of ten below one divides. -/
theorem scaleSignificand_div (digits : Nat) {places : Nat} (below : 0 < places)
    (few : places ≤ 308) :
    scaleSignificand? digits (-places) = some (Float.ofNat digits / powerOfTen places) := by
  have steps : (places - 1) / 308 = 0 := Nat.div_eq_of_lt (by omega)
  unfold scaleSignificand?
  dsimp only
  rw [if_pos (by omega), Int.natAbs_neg, Int.natAbs_natCast, steps]
  rfl

/-- A power of ten that is too small for a double divides in two steps. -/
theorem scaleSignificand_div_twice {digits places : Nat}
    (nonzero : (Float.ofNat digits == 0.0) = false) (below : 0 < places) (few : places ≤ 308) :
    scaleSignificand? digits (-((308 + places : Nat) : ℤ)) =
      some (Float.ofNat digits / powerOfTen 308 / powerOfTen places) := by
  have steps : (308 + places - 1) / 308 = 1 := by omega
  have left : 308 + places - 308 * 1 = places := by omega
  unfold scaleSignificand?
  dsimp only
  rw [if_pos (by omega), Int.natAbs_neg, Int.natAbs_natCast, steps, left, Json.divideByPowers,
    nonzero]
  rfl

section Exact

variable {x : Binary} {level other : Level}

/-- What rounds to a magnitude of a double is rounded and packed as a double of its value. -/
theorem value_of_rounded (double : x.OfDouble) {number : ℚ} {unit : ℤ} {rounded : Nat}
    {parts : UnpackedFloat} (near : x.Near number) (even : RoundedEven number unit rounded)
    (spelled : Magnitude .positive (rounded * 2 ^ unit) parts) :
    Float.isNaN (.ofModel (.pack parts)) = false ∧
      Level.value (.ofModel (.pack parts)) = x.value := by
  obtain ⟨number, value⟩ := spelled.value_pack
  rw [double.eq_of_rounded near even] at value
  exact ⟨number, value.trans (min_eq_left (double.toSits.lt_beyond double.ceiling).le)⟩

/-- A product that rounds to a magnitude of a double is rounded to it. -/
theorem mul_of_near (double : x.OfDouble) (finite : level.isFinite) (otherFinite : other.isFinite)
    (positive : 0 < level.value) (otherPositive : 0 < other.value)
    (near : x.Near (level.value * other.value)) :
    (level * other).isNaN = false ∧ (level * other).value = x.value := by
  obtain ⟨mantissa, exponent, some, parts⟩ := unpack_of_pos finite positive
  obtain ⟨fraction, power, more, otherParts⟩ := unpack_of_pos otherFinite otherPositive
  obtain ⟨unit, rounded, even, spelled⟩ := mul_even .positive .positive some more
    (sits_of_unpack parts).1 (sits_of_unpack otherParts).1
  have value : level.value = mantissa * 2 ^ exponent := congrArg exact parts
  have otherValue : other.value = fraction * 2 ^ power := congrArg exact otherParts
  rw [value, otherValue] at near
  change Float.isNaN (.ofModel (.pack (UnpackedFloat.mul Format.binary64 level.toModel.unpack
    other.toModel.unpack))) = false ∧ Level.value (.ofModel (.pack (UnpackedFloat.mul
      Format.binary64 level.toModel.unpack other.toModel.unpack))) = x.value
  rw [parts, otherParts]
  exact value_of_rounded double near even spelled

/-- A quotient that rounds to a magnitude of a double is rounded to it. -/
theorem div_of_near (double : x.OfDouble) (finite : level.isFinite) (otherFinite : other.isFinite)
    (positive : 0 < level.value) (otherPositive : 0 < other.value)
    (near : x.Near (level.value / other.value)) :
    (level / other).isNaN = false ∧ (level / other).value = x.value := by
  obtain ⟨mantissa, exponent, some, parts⟩ := unpack_of_pos finite positive
  obtain ⟨fraction, power, more, otherParts⟩ := unpack_of_pos otherFinite otherPositive
  obtain ⟨unit, rounded, even, spelled⟩ := div_even .positive .positive some more
  have value : level.value = mantissa * 2 ^ exponent := congrArg exact parts
  have otherValue : other.value = fraction * 2 ^ power := congrArg exact otherParts
  rw [value, otherValue] at near
  change Float.isNaN (.ofModel (.pack (UnpackedFloat.div Format.binary64 level.toModel.unpack
    other.toModel.unpack))) = false ∧ Level.value (.ofModel (.pack (UnpackedFloat.div
      Format.binary64 level.toModel.unpack other.toModel.unpack))) = x.value
  rw [parts, otherParts]
  exact value_of_rounded double near even spelled

/-- **A significand of at most fifty-three bits is scaled exactly by up to twenty-two places.** The
significand and the power of ten are doubles themselves, so the only rounding is that of the
result. -/
theorem scaleSignificand_exact (double : x.OfDouble) {digits : Nat} {exponent : ℤ}
    (near : x.Near (digits * 10 ^ exponent)) (positive : 0 < digits) (few : digits < 2 ^ 53)
    (placed : exponent.natAbs ≤ 22) :
    ∃ read : Level, scaleSignificand? digits exponent = some read ∧ read.isNaN = false ∧
      read.value = x.value := by
  obtain ⟨significand, significandNumber⟩ := value_ofNat few
  have someDigits : (0 : ℚ) < digits := by exact_mod_cast positive
  have significandFinite := isFinite_of_value significandNumber (by
    rw [significand, Nat.abs_cast]
    exact natCast_lt_beyond few)
  rcases lt_or_ge exponent 0 with fraction | whole
  · obtain ⟨places, rfl⟩ : ∃ places : Nat, exponent = -places := ⟨exponent.natAbs, by omega⟩
    obtain ⟨powerFinite, power⟩ := @value_powerOfTen places (by omega)
    have quotient :
        x.Near (Level.value (Float.ofNat digits) / Level.value (powerOfTen places)) := by
      rw [significand, power, div_eq_mul_inv, ← zpow_natCast, ← zpow_neg]
      exact near
    obtain ⟨number, value⟩ := div_of_near double significandFinite powerFinite
      (by rwa [significand]) (by rw [power]; positivity) quotient
    exact ⟨_, scaleSignificand_div digits (by omega) (by omega), number, value⟩
  · obtain ⟨places, rfl⟩ := Int.eq_ofNat_of_zero_le whole
    obtain ⟨powerFinite, power⟩ := @value_powerOfTen places (by omega)
    have product : x.Near (Level.value (Float.ofNat digits) * Level.value (powerOfTen places)) := by
      rw [significand, power, ← zpow_natCast]
      exact near
    obtain ⟨number, value⟩ := mul_of_near double significandFinite powerFinite
      (by rwa [significand]) (by rw [power]; positivity) product
    have finite : (Float.ofNat digits * powerOfTen places).isFinite := isFinite_of_value number (by
      rw [value]
      exact abs_lt.mpr ⟨(neg_lt_zero.mpr beyond_pos).trans (magnitude_pos double.positive _),
        double.toSits.lt_beyond double.ceiling⟩)
    refine ⟨_, ?_, number, value⟩
    rw [scaleSignificand_mul digits (by omega), if_pos finite]

end Exact

/-! ## How far a scaled significand can be

Rounding the significand, the power of ten and the result costs one part in 2⁵³ each, which is at
most a unit of the magnitude. The bounds leave room for the products of these errors: what is
rounded last is less than three and a half units away from the number of the text, its rounding adds
one unit, and the number itself is up to half a unit away from the magnitude.
-/

/-- A significand and a power of ten are read as a finite level less than five units in the last
place away from a magnitude. -/
def ReadsClose (x : Binary) (digits : Nat) (exponent : ℤ) : Prop :=
  ∃ read : Level, scaleSignificand? digits exponent = some read ∧ read.isFinite ∧
    |read.value - x.value| < 5 * 2 ^ x.exponent

section Close

variable {x : Binary} {number rough : ℚ} {read : Level}

/-- What rounds to a magnitude of a double is positive, and at least half a unit. -/
theorem half_le_of_near (double : x.OfDouble) (near : x.Near number) :
    2 ^ x.exponent / 2 ≤ number := by
  have scale := twoPow_pos x.exponent
  have some : (1 : ℚ) ≤ x.mantissa := by exact_mod_cast double.positive
  have least : 1 * 2 ^ x.exponent ≤ x.value := mul_le_mul_of_nonneg_right some scale.le
  linarith [near.above, x.value_sub_le_lowest]

/-- One part in 2⁵³ of what rounds to a magnitude of a double is at most one unit. -/
theorem roundoff_le (double : x.OfDouble) (near : x.Near number) :
    2 ^ (-53 : ℤ) * number ≤ 2 ^ x.exponent :=
  calc 2 ^ (-53 : ℤ) * number ≤ 2 ^ (-53 : ℤ) * 2 ^ (53 + x.exponent) :=
        mul_le_mul_of_nonneg_left (double.lt_of_near near).le (twoPow_pos _).le
    _ = 2 ^ x.exponent := by rw [← twoPow_add]; congr 1; omega

/-- What approximates a number that rounds to a magnitude within three and a quarter parts in 2⁵³
is less than three and a half units away. -/
theorem off_of_within (double : x.OfDouble) (near : x.Near number)
    (within : Within (13 / 4 * 2 ^ (-53 : ℤ)) number rough) :
    |rough - number| < 7 / 2 * 2 ^ x.exponent := by
  have scale := twoPow_pos x.exponent
  have part := roundoff_le double near
  have close : |rough - number| ≤ 13 / 4 * 2 ^ (-53 : ℤ) * number := within
  rw [mul_assoc] at close
  generalize (2 : ℚ) ^ (-53 : ℤ) * number = roundoff at *
  linarith

/-- A finite level nearest to what is less than three and a half units away from a number that
rounds to a magnitude is less than five units away from the magnitude. -/
theorem close_of_nearest (double : x.OfDouble) (near : x.Near number)
    (off : |rough - number| < 7 / 2 * 2 ^ x.exponent) (nearest : read.Nearest rough)
    (finite : read.isFinite) : |read.value - x.value| < 5 * 2 ^ x.exponent := by
  have scale := twoPow_pos x.exponent
  have doubled : (2 : ℚ) ^ (x.exponent + 1) = 2 * 2 ^ x.exponent := by
    rw [twoPow_add, zpow_one, mul_comm]
  have inside : |rough| ≤ 2 ^ (53 + (x.exponent + 1)) := by
    have least := half_le_of_near double near
    have most := double.lt_of_near near
    have reach := abs_sub_abs_le_abs_sub rough number
    rw [abs_of_pos (show 0 < number by linarith)] at reach
    rw [twoPow_add] at most
    rw [twoPow_add, doubled]
    norm_num at most ⊢
    linarith
  have last := nearest.abs_sub_le_half_of_finite finite (x.exponent + 1)
    (by have := double.floor; omega) inside
  rw [doubled] at last
  have first := abs_sub_le read.value rough x.value
  have second := abs_sub_le rough number x.value
  linarith [near.abs_sub_le]

/-- A level nearest to what is less than three and a half units away from a number that is not large
is finite. -/
theorem isFinite_of_off (double : x.OfDouble) (near : x.Near number)
    (off : |rough - number| < 7 / 2 * 2 ^ x.exponent) (moderate : number ≤ 10 ^ 17)
    (nearest : read.Nearest rough) : read.isFinite := by
  have least := half_le_of_near double near
  have scale := twoPow_pos x.exponent
  have reach := abs_sub_abs_le_abs_sub rough number
  rw [abs_of_pos (show 0 < number by linarith)] at reach
  have small : |rough| ≤ 8 * 10 ^ 17 := by linarith
  exact nearest.isFinite_of_small (small.trans (by norm_num))

/-- A significand that is divided by one power of ten is less than five units away. -/
theorem scaleSignificand_close_div (double : x.OfDouble) {digits places : Nat}
    (positive : 0 < digits) (short : digits ≤ 10 ^ 17) (below : 0 < places) (few : places ≤ 308)
    (near : x.Near (digits * 10 ^ (-places : ℤ))) : ReadsClose x digits (-places) := by
  have someDigits : (0 : ℚ) < digits := by exact_mod_cast positive
  have power : (0 : ℚ) < 10 ^ places := by positivity
  obtain ⟨significandFinite, significand⟩ := ofNat_within positive short
  obtain ⟨powerFinite, powerWithin⟩ := powerOfTen_within few
  have powerPositive := powerWithin.pos power (by norm_num)
  have number : (digits : ℚ) * 10 ^ (-places : ℤ) = digits * (10 ^ places)⁻¹ := by
    rw [zpow_neg, zpow_natCast]
  rw [number] at near
  have nearest := div_nearest significandFinite powerFinite powerPositive.ne'
  rw [div_eq_mul_inv] at nearest
  have within := (significand.mul_inv powerWithin someDigits power (twoPow_pos _).le
    le_rfl).mono (by positivity) (show _ ≤ 13 / 4 * 2 ^ (-53 : ℤ) by norm_num)
  have off := off_of_within double near within
  have moderate : (digits : ℚ) * (10 ^ places)⁻¹ ≤ 10 ^ 17 := by
    rw [← div_eq_mul_inv]
    exact (div_le_self someDigits.le (one_le_pow₀ (by norm_num))).trans (by exact_mod_cast short)
  have finite := isFinite_of_off double near off moderate nearest
  exact ⟨_, scaleSignificand_div digits below few, finite,
    close_of_nearest double near off nearest finite⟩

/-- A rounded step from what approximates a number that is not large stays near the number. -/
theorem Nearest.middle (nearest : read.Nearest rough)
    (within : Within (5 / 4 * 2 ^ (-53 : ℤ)) number rough) (positive : 0 < number)
    (moderate : number ≤ 10 ^ 17) : read.isFinite ∧
      |read.value - number| ≤ 73 / 32 * (2 ^ (-53 : ℤ) * number) + 2 ^ (-1075 : ℤ) := by
  have part : (2 : ℚ) ^ (-53 : ℤ) ≤ 1 / 256 := by norm_num
  have above := within.pos positive (by linarith)
  have small : |rough| ≤ 2 * 10 ^ 17 := by
    rw [abs_of_pos above]
    calc rough ≤ (1 + 5 / 4 * 2 ^ (-53 : ℤ)) * number := within.le
      _ ≤ 2 * 10 ^ 17 := mul_le_mul (by linarith) moderate positive.le (by norm_num)
  have finite := nearest.isFinite_of_small (small.trans (by norm_num))
  have rounded := nearest.abs_sub_le_mixed finite above
  have some := twoPow_pos (-53)
  generalize (2 : ℚ) ^ (-1075 : ℤ) = unit at *
  generalize (2 : ℚ) ^ (-53 : ℤ) = roundoff at *
  refine ⟨finite, ?_⟩
  calc |read.value - number| ≤ |read.value - rough| + |rough - number| := abs_sub_le _ _ _
    _ ≤ (roundoff * ((1 + 5 / 4 * roundoff) * number) + unit) + 5 / 4 * roundoff * number :=
        add_le_add (rounded.trans (add_le_add_left
          (mul_le_mul_of_nonneg_left within.le some.le) _)) within
    _ = (9 / 4 + 5 / 4 * roundoff) * (roundoff * number) + unit := by ring
    _ ≤ 73 / 32 * (roundoff * number) + unit :=
        add_le_add_left (mul_le_mul_of_nonneg_right (by linarith) (by positivity)) _

/-- Two rounded steps with a small second factor stay within three and a half units. -/
theorem off_of_steps {factor roughFactor middle : ℚ} (double : x.OfDouble)
    (near : x.Near (number * factor)) (positive : 0 < number) (factorPositive : 0 < factor)
    (tenth : factor ≤ 1 / 10)
    (first : |middle - number| ≤ 73 / 32 * (2 ^ (-53 : ℤ) * number) + 2 ^ (-1075 : ℤ))
    (last : Within (17 / 16 * 2 ^ (-53 : ℤ)) factor roughFactor) :
    |middle * roughFactor - number * factor| < 7 / 2 * 2 ^ x.exponent := by
  have part : (2 : ℚ) ^ (-53 : ℤ) ≤ 1 / 256 := by norm_num
  have some := twoPow_pos (-53)
  have whole := roundoff_le double near
  have half : (2 : ℚ) ^ (-1075 : ℤ) ≤ 2 ^ x.exponent / 2 := by
    rw [show (-1075 : ℤ) = -1 + -1074 from rfl, twoPow_add, zpow_neg_one, inv_mul_eq_div]
    exact div_le_div_of_nonneg_right (twoPow_le double.floor) (by norm_num)
  have least := twoPow_pos (-1075)
  generalize (2 : ℚ) ^ (-1075 : ℤ) = unit at *
  generalize (2 : ℚ) ^ (-53 : ℤ) = roundoff at *
  generalize (2 : ℚ) ^ x.exponent = scale at *
  have above : 0 ≤ roughFactor := (mul_nonneg (by linarith) factorPositive.le).trans last.ge
  have below : roughFactor ≤ 129 / 128 * factor :=
    last.le.trans (mul_le_mul_of_nonneg_right (by linarith) factorPositive.le)
  have tiny : unit * factor ≤ scale / 2 * (1 / 10) :=
    mul_le_mul half tenth factorPositive.le (by linarith)
  calc |middle * roughFactor - number * factor|
      ≤ |middle - number| * roughFactor + number * |roughFactor - factor| :=
        abs_mul_sub_mul_le positive.le above
    _ ≤ (73 / 32 * (roundoff * number) + unit) * (129 / 128 * factor) +
          number * (17 / 16 * roundoff * factor) :=
        add_le_add (mul_le_mul first below above (by positivity))
          (mul_le_mul_of_nonneg_left last positive.le)
    _ = (73 / 32 * (129 / 128) + 17 / 16) * (roundoff * (number * factor)) +
          129 / 128 * (unit * factor) := by ring
    _ < 7 / 2 * scale := by linarith

/-- A significand that is divided by two powers of ten is less than five units away. -/
theorem scaleSignificand_close_div_twice (double : x.OfDouble) {digits places : Nat}
    (positive : 0 < digits) (short : digits ≤ 10 ^ 17) (below : 0 < places) (few : places ≤ 308)
    (near : x.Near (digits * 10 ^ (-((308 + places : Nat) : ℤ)))) :
    ReadsClose x digits (-((308 + places : Nat) : ℤ)) := by
  have someDigits : (0 : ℚ) < digits := by exact_mod_cast positive
  have power : (0 : ℚ) < 10 ^ places := by positivity
  obtain ⟨significandFinite, significand⟩ := ofNat_within positive short
  obtain ⟨greatestFinite, -⟩ := @powerOfTen_within 308 le_rfl
  obtain ⟨powerFinite, powerWithin⟩ := powerOfTen_within few
  have greatestPositive := powerOfTen_within_greatest.pos (by positivity) (by norm_num)
  have powerPositive := powerWithin.pos power (by norm_num)
  have number : (digits : ℚ) * 10 ^ (-((308 + places : Nat) : ℤ)) =
      digits * (10 ^ 308)⁻¹ * (10 ^ places)⁻¹ := by
    rw [zpow_neg, zpow_natCast, pow_add, mul_inv, mul_assoc]
  rw [number] at near
  have first := (significand.mul_inv powerOfTen_within_greatest someDigits (by positivity)
    (by norm_num) (by norm_num)).mono (by positivity)
      (show _ ≤ 5 / 4 * 2 ^ (-53 : ℤ) by norm_num)
  have moderate : (digits : ℚ) * (10 ^ 308)⁻¹ ≤ 10 ^ 17 := by
    rw [← div_eq_mul_inv]
    exact (div_le_self someDigits.le (one_le_pow₀ (by norm_num))).trans (by exact_mod_cast short)
  have quotient := div_nearest significandFinite greatestFinite greatestPositive.ne'
  rw [div_eq_mul_inv] at quotient
  obtain ⟨middleFinite, middle⟩ := quotient.middle first (by positivity) moderate
  have inverse : Within (17 / 16 * 2 ^ (-53 : ℤ)) (10 ^ places)⁻¹ _ :=
    (powerWithin.inv power (by norm_num)).mono (by positivity) (by norm_num)
  have off := off_of_steps double near (by positivity) (by positivity) (by
    rw [inv_le_comm₀ power (by norm_num)]
    calc ((1 : ℚ) / 10)⁻¹ = 10 ^ 1 := by norm_num
      _ ≤ 10 ^ places := pow_le_pow_right₀ (by norm_num) below) middle inverse
  have nearest := div_nearest middleFinite powerFinite powerPositive.ne'
  rw [div_eq_mul_inv] at nearest
  have finite := isFinite_of_off double near off (by
    rw [← div_eq_mul_inv]
    exact (div_le_self (by positivity) (one_le_pow₀ (by norm_num))).trans moderate) nearest
  have nonzero : (Float.ofNat digits == 0.0) = false := by
    refine Bool.eq_false_iff.mpr fun equal => ?_
    have zero := (beq_iff (isNaN_of_isFinite significandFinite) rfl).mp equal
    exact (significand.pos someDigits (by norm_num)).ne' zero
  exact ⟨_, scaleSignificand_div_twice nonzero below few, finite,
    close_of_nearest double near off nearest finite⟩

/-- A level nearest to what is less than three and a half units away from a number that rounds to a
magnitude is finite, unless the magnitude is one of the greatest four. -/
theorem isFinite_of_room (double : x.OfDouble) (near : x.Near number)
    (off : |rough - number| < 7 / 2 * 2 ^ x.exponent) (nearest : read.Nearest rough)
    (room : x.exponent < 971 ∨ x.mantissa + 4 < 2 ^ 53) : read.isFinite := by
  have first := abs_sub_abs_le_abs_sub rough number
  have second := abs_sub_abs_le_abs_sub number x.value
  have value : x.value = x.mantissa * 2 ^ x.exponent := rfl
  have valuePositive : 0 < x.value := magnitude_pos double.positive _
  rw [abs_of_pos valuePositive] at second
  have reach : |rough| < (x.mantissa + 4) * 2 ^ x.exponent := by
    linarith [near.abs_sub_le]
  have top : beyond = 2 ^ 54 * 2 ^ (970 : ℤ) := by
    unfold beyond
    rw [show (1024 : ℤ) = 54 + 970 from rfl, twoPow_add]
    norm_num
  have some := twoPow_pos 970
  refine nearest.isFinite ((add_lt_add_left reach _).trans_le ?_)
  rw [top]
  rcases room with lower | fewer
  · have scale : (2 : ℚ) ^ x.exponent ≤ 2 ^ (970 : ℤ) := twoPow_le (by omega)
    have fits : (x.mantissa : ℚ) + 4 ≤ 2 ^ 54 - 1 := by
      have := double.fits
      rw [le_sub_iff_add_le]
      exact_mod_cast (by omega : x.mantissa + 4 + 1 ≤ 2 ^ 54)
    generalize (2 : ℚ) ^ (970 : ℤ) = unit at *
    have := mul_le_mul fits scale (twoPow_pos _).le (by norm_num)
    linarith
  · have scale : (2 : ℚ) ^ x.exponent ≤ 2 * 2 ^ (970 : ℤ) := by
      calc (2 : ℚ) ^ x.exponent ≤ 2 ^ (1 + 970 : ℤ) := twoPow_le double.ceiling
        _ = 2 * 2 ^ (970 : ℤ) := by rw [twoPow_add, zpow_one]
    have fits : (x.mantissa : ℚ) + 4 ≤ 2 ^ 53 - 1 := by
      rw [le_sub_iff_add_le]
      exact_mod_cast (by omega : x.mantissa + 4 + 1 ≤ 2 ^ 53)
    generalize (2 : ℚ) ^ (970 : ℤ) = unit at *
    have := mul_le_mul fits scale (twoPow_pos _).le (by norm_num)
    linarith

/-- A significand that is multiplied by a power of ten is less than five units away, where the
product is finite. -/
theorem scaleSignificand_close_mul (double : x.OfDouble) {digits places : Nat}
    (positive : 0 < digits) (short : digits ≤ 10 ^ 17) (few : places ≤ 308)
    (near : x.Near (digits * 10 ^ (places : ℤ)))
    (room : (x.exponent < 971 ∨ x.mantissa + 4 < 2 ^ 53) ∨
      (scaleSignificand? digits places).isSome) : ReadsClose x digits places := by
  have someDigits : (0 : ℚ) < digits := by exact_mod_cast positive
  have power : (0 : ℚ) < 10 ^ places := by positivity
  obtain ⟨significandFinite, significand⟩ := ofNat_within positive short
  obtain ⟨powerFinite, powerWithin⟩ := powerOfTen_within few
  rw [zpow_natCast] at near
  have nearest := mul_nearest significandFinite powerFinite
  have within := (significand.mul powerWithin someDigits power (twoPow_pos _).le
    (by norm_num)).mono (by positivity) (show _ ≤ 13 / 4 * 2 ^ (-53 : ℤ) by norm_num)
  have off := off_of_within double near within
  have finite : (Float.ofNat digits * powerOfTen places).isFinite := by
    rcases room with room | read
    · exact isFinite_of_room double near off nearest room
    · rw [scaleSignificand_mul digits few] at read
      by_contra infinite
      rw [if_neg infinite] at read
      cases read
  refine ⟨_, ?_, finite, close_of_nearest double near off nearest finite⟩
  rw [scaleSignificand_mul digits few, if_pos finite]

/-- The texts of the greatest four magnitudes are read. -/
theorem scaleSignificand_greatest : ∀ less < 4,
    (scaleSignificand? (Binary.written ⟨2 ^ 53 - 1 - less, 971, false⟩).digits
      (Binary.written ⟨2 ^ 53 - 1 - less, 971, false⟩).exponent).isSome := by
  decide +kernel

/-- **What is read from the text of a double is less than five units in the last place away.** No
text of a double is refused. -/
theorem scaleSignificand_close (double : x.OfDouble) :
    ReadsClose x x.written.digits x.written.exponent := by
  obtain ⟨near, positive, short, least, greatest⟩ := double.written_spec
  have room : (x.exponent < 971 ∨ x.mantissa + 4 < 2 ^ 53) ∨
      (scaleSignificand? x.written.digits x.written.exponent).isSome := by
    by_cases top : x.exponent < 971 ∨ x.mantissa + 4 < 2 ^ 53
    · exact .inl top
    · right
      have fits := double.fits
      have ceiling := double.ceiling
      have wide : x.narrowBelow = false := Bool.eq_false_iff.mpr fun narrow => by
        have := (double.narrow.mp narrow).1
        omega
      have same : x = ⟨2 ^ 53 - 1 - (2 ^ 53 - 1 - x.mantissa), 971, false⟩ := by
        rw [← wide, Nat.sub_sub_self (by omega)]
        have : x.exponent = 971 := by omega
        rw [← this]
      rw [same]
      exact scaleSignificand_greatest _ (by omega)
  change x.Near (x.written.digits * 10 ^ x.written.exponent) at near
  generalize x.written.digits = digits at *
  generalize x.written.exponent = exponent at *
  rcases lt_or_ge exponent 0 with fraction | whole
  · rcases le_or_gt (-308) exponent with once | twice
    · obtain ⟨places, rfl⟩ : ∃ places : Nat, exponent = -places := ⟨exponent.natAbs, by omega⟩
      exact scaleSignificand_close_div double positive short (by omega) (by omega) near
    · obtain ⟨places, rfl⟩ : ∃ places : Nat, exponent = -((308 + places : Nat) : ℤ) :=
        ⟨exponent.natAbs - 308, by omega⟩
      exact scaleSignificand_close_div_twice double positive short (by omega) (by omega) near
  · obtain ⟨places, rfl⟩ := Int.eq_ofNat_of_zero_le whole
    exact scaleSignificand_close_mul double positive short (by omega) near room

end Close

end Level

end Attenuation
