import Attenuation.Proofs.Quantize

/-!
# Rounding errors

How far a nearest double can be from the number that is rounded: half a unit of the scale of the
number, which is one part in 2⁵³ of a number that is not tiny. `Level.Within` is a relative error,
which products and quotients of approximations carry along.
-/

namespace Attenuation

namespace Level

/-- Up to 2⁵³ units of one size are on the grid. -/
theorem onGrid_of_abs_le {count unit : ℤ} (short : |count| ≤ 2 ^ 53) (floor : -1074 ≤ unit) :
    OnGrid (count * 2 ^ unit) := by
  rcases short.lt_or_eq with less | full
  · exact ⟨count, unit, less, floor, rfl⟩
  · have halved : ((2 ^ 52 : ℤ) : ℚ) * 2 ^ (unit + 1) = ((2 ^ 53 : ℤ) : ℚ) * 2 ^ unit := by
      rw [twoPow_add]
      push_cast
      ring
    have onGrid : OnGrid (((2 ^ 53 : ℤ) : ℚ) * 2 ^ unit) :=
      ⟨2 ^ 52, unit + 1, by decide, by omega, halved.symm⟩
    rcases eq_or_eq_neg_of_abs_eq full with rfl | rfl
    · exact onGrid
    · rw [Int.cast_neg, neg_mul]
      exact onGrid.neg

/-- A level that is a number is nearest to its value. -/
theorem nearest_value {level : Level} {number : ℚ} (isNumber : level.isNaN = false)
    (same : level.value = number) : level.Nearest number where
  isNumber := isNumber
  closest other _ _ := by
    rw [same, sub_self, abs_zero]
    exact abs_nonneg _

namespace Nearest

variable {level : Level} {number : ℚ}

/-- A level nearest to a number of up to 2⁵³ units is within half a unit of it. -/
theorem abs_sub_le_half (nearest : level.Nearest number) (unit : ℤ) (floor : -1074 ≤ unit)
    (ceiling : unit ≤ 971) (within : |number| ≤ 2 ^ (53 + unit)) :
    |level.value - number| ≤ 2 ^ unit / 2 := by
  have scale := twoPow_pos unit
  have large : (2 : ℚ) ^ (53 : ℤ) = ((2 ^ 53 : ℤ) : ℚ) := by norm_num
  have ratio : |number / 2 ^ unit| ≤ ((2 ^ 53 : ℤ) : ℚ) := by
    rw [abs_div, abs_of_pos scale, div_le_iff₀ scale, ← large, ← twoPow_add]
    exact within
  obtain ⟨low, high⟩ := abs_le.mp ratio
  have short : |round (number / 2 ^ unit)| ≤ 2 ^ 53 := by
    have least := round_le low
    have greatest := round_le high
    rw [← Int.cast_neg, round_intCast] at least
    rw [round_intCast] at greatest
    exact abs_le.mpr ⟨least, greatest⟩
  have small : |(round (number / 2 ^ unit) : ℚ) * 2 ^ unit| ≤ beyond := by
    have count : |(round (number / 2 ^ unit) : ℚ)| ≤ 2 ^ (53 : ℤ) := by
      rw [large]
      exact_mod_cast short
    calc |(round (number / 2 ^ unit) : ℚ) * 2 ^ unit|
        = |(round (number / 2 ^ unit) : ℚ)| * 2 ^ unit := by rw [abs_mul, abs_of_pos scale]
      _ ≤ 2 ^ (53 : ℤ) * 2 ^ unit := mul_le_mul_of_nonneg_right count scale.le
      _ = 2 ^ (53 + unit) := (twoPow_add _ _).symm
      _ ≤ beyond := twoPow_le (by omega)
  calc |level.value - number|
      ≤ |(round (number / 2 ^ unit) : ℚ) * 2 ^ unit - number| :=
        nearest.closest _ (onGrid_of_abs_le short floor) small
    _ = |number / 2 ^ unit - round (number / 2 ^ unit)| * 2 ^ unit := by
        rw [abs_sub_comm, ← abs_of_pos scale, ← abs_mul, abs_of_pos scale, sub_mul,
          div_mul_cancel₀ _ scale.ne']
    _ ≤ 1 / 2 * 2 ^ unit := mul_le_mul_of_nonneg_right (abs_sub_round _) scale.le
    _ = 2 ^ unit / 2 := by ring

/-- What a finite level is nearest to is between the infinities. -/
theorem abs_lt_beyond (nearest : level.Nearest number) (finite : level.isFinite) :
    |number| < beyond := by
  have inside := abs_lt.mp (abs_value_lt finite)
  have above := beyond_pos
  by_contra! outside
  rcases abs_cases number with ⟨same, _⟩ | ⟨same, _⟩ <;> rw [same] at outside
  · have close := nearest.closest beyond onGrid_beyond (abs_of_pos above).le
    rw [abs_of_nonpos (by linarith), abs_of_nonpos (by linarith)] at close
    linarith
  · have close := nearest.closest (-beyond) onGrid_beyond.neg (by rw [abs_neg, abs_of_pos above])
    rw [abs_of_nonneg (by linarith), abs_of_nonneg (by linarith)] at close
    linarith

/-- A finite level nearest to a number of up to 2⁵³ units is within half a unit of it, however large
the unit is. -/
theorem abs_sub_le_half_of_finite (nearest : level.Nearest number) (finite : level.isFinite)
    (unit : ℤ) (floor : -1074 ≤ unit) (within : |number| ≤ 2 ^ (53 + unit)) :
    |level.value - number| ≤ 2 ^ unit / 2 := by
  rcases le_or_gt unit 971 with ceiling | high
  · exact nearest.abs_sub_le_half unit floor ceiling within
  · have close := nearest.abs_sub_le_half 971 (by decide) le_rfl
      (nearest.abs_lt_beyond finite).le
    have smaller : (2 : ℚ) ^ (971 : ℤ) ≤ 2 ^ unit := twoPow_le high.le
    linarith

/-- A finite level nearest to a number that is not tiny is close to it in relation to the number. -/
theorem abs_sub_le_relative (nearest : level.Nearest number) (finite : level.isFinite)
    (normal : 2 ^ (-1022 : ℤ) ≤ |number|) : |level.value - number| ≤ 2 ^ (-53 : ℤ) * |number| := by
  obtain ⟨leading, low, high⟩ :=
    exists_mem_Ico_zpow ((twoPow_pos _).trans_le normal) (one_lt_two (α := ℚ))
  have above : -1022 < leading + 1 :=
    (zpow_lt_zpow_iff_right₀ (one_lt_two (α := ℚ))).mp (normal.trans_lt high)
  have close := nearest.abs_sub_le_half_of_finite finite (leading - 52) (by omega) (by
    rw [show 53 + (leading - 52) = leading + 1 by omega]
    exact high.le)
  calc |level.value - number| ≤ 2 ^ (leading - 52) / 2 := close
    _ = 2 ^ (-53 : ℤ) * 2 ^ leading := by
        rw [← twoPow_add, show -53 + leading = leading - 52 + -1 by omega,
          twoPow_add (leading - 52)]
        norm_num
        ring
    _ ≤ 2 ^ (-53 : ℤ) * |number| := mul_le_mul_of_nonneg_left low (twoPow_pos _).le

/-- A level nearest to a number that is clearly below the infinities is finite. -/
theorem isFinite (nearest : level.Nearest number) (below : |number| + 2 ^ (970 : ℤ) < beyond) :
    level.isFinite := by
  have half : (2 : ℚ) ^ (971 : ℤ) / 2 = 2 ^ (970 : ℤ) := by
    rw [show (971 : ℤ) = 970 + 1 from rfl, twoPow_add, zpow_one]
    ring
  have inside : |number| ≤ beyond := (le_add_of_nonneg_right (twoPow_pos 970).le).trans below.le
  have close := nearest.abs_sub_le_half 971 (by decide) le_rfl inside
  have reach := abs_sub_abs_le_abs_sub level.value number
  rw [half] at close
  generalize (2 : ℚ) ^ (970 : ℤ) = room at *
  exact isFinite_of_value nearest.isNumber (by linarith)

/-- A level nearest to a number that is not large is finite. -/
theorem isFinite_of_small (nearest : level.Nearest number) (small : |number| ≤ 2 ^ (64 : ℤ)) :
    level.isFinite := by
  refine nearest.isFinite ?_
  calc |number| + 2 ^ (970 : ℤ) ≤ 2 ^ (970 : ℤ) + 2 ^ (970 : ℤ) :=
        add_le_add_left (small.trans (twoPow_le (by decide))) _
    _ = 2 ^ (1 + 970 : ℤ) := by rw [twoPow_add, zpow_one, two_mul]
    _ < beyond := zpow_lt_zpow_right₀ (by norm_num) (by decide)

end Nearest

/-- The errors of two factors add up to that of the product. -/
theorem abs_mul_sub_mul_le {number factor rough roughFactor : ℚ} (nonneg : 0 ≤ number)
    (above : 0 ≤ roughFactor) : |rough * roughFactor - number * factor| ≤
      |rough - number| * roughFactor + number * |roughFactor - factor| :=
  calc |rough * roughFactor - number * factor|
      = |(rough - number) * roughFactor + number * (roughFactor - factor)| := by ring_nf
    _ ≤ |(rough - number) * roughFactor| + |number * (roughFactor - factor)| := abs_add_le _ _
    _ = |rough - number| * roughFactor + number * |roughFactor - factor| := by
        rw [abs_mul, abs_mul, abs_of_nonneg above, abs_of_nonneg nonneg]

/-- A number that approximates another one within a relative error. -/
def Within (error number rough : ℚ) : Prop := |rough - number| ≤ error * number

namespace Within

variable {error other number factor rough roughFactor : ℚ}

/-- A number approximates itself. -/
theorem refl (number : ℚ) : Within 0 number number := by
  unfold Within
  rw [sub_self, abs_zero, zero_mul]

/-- An approximation within an error is one within a greater error. -/
theorem mono (within : Within error number rough) (nonneg : 0 ≤ number) (le : error ≤ other) :
    Within other number rough :=
  le_trans within (mul_le_mul_of_nonneg_right le nonneg)

/-- An approximation is not much greater than the number. -/
theorem le (within : Within error number rough) : rough ≤ (1 + error) * number := by
  have := (abs_le.mp within).2
  linarith

/-- An approximation is not much smaller than the number. -/
theorem ge (within : Within error number rough) : (1 - error) * number ≤ rough := by
  have := (abs_le.mp within).1
  linarith

/-- What approximates a positive number is positive. -/
theorem pos (within : Within error number rough) (positive : 0 < number) (less : error < 1) :
    0 < rough :=
  (mul_pos (sub_pos.mpr less) positive).trans_le within.ge

/-- A product of approximations approximates the product. -/
theorem mul (within : Within error number rough) (factorWithin : Within other factor roughFactor)
    (positive : 0 < number) (factorPositive : 0 < factor) (nonneg : 0 ≤ error)
    (less : other ≤ 1) :
    Within (error + other + error * other) (number * factor) (rough * roughFactor) := by
  have above : 0 ≤ roughFactor :=
    (mul_nonneg (by linarith) factorPositive.le).trans factorWithin.ge
  calc |rough * roughFactor - number * factor|
      ≤ |rough - number| * roughFactor + number * |roughFactor - factor| :=
        abs_mul_sub_mul_le positive.le above
    _ ≤ error * number * ((1 + other) * factor) + number * (other * factor) :=
        add_le_add (mul_le_mul within factorWithin.le above (mul_nonneg nonneg positive.le))
          (mul_le_mul_of_nonneg_left factorWithin positive.le)
    _ = (error + other + error * other) * (number * factor) := by ring

/-- The inverse of an approximation approximates the inverse. -/
theorem inv (within : Within error number rough) (positive : 0 < number) (less : error < 1) :
    Within (error / (1 - error)) number⁻¹ rough⁻¹ := by
  have room : 0 < 1 - error := sub_pos.mpr less
  have above := within.pos positive less
  calc |rough⁻¹ - number⁻¹| = |rough - number| / (rough * number) := by
        rw [inv_sub_inv above.ne' positive.ne', abs_div, abs_of_pos (mul_pos above positive),
          abs_sub_comm]
    _ ≤ error * number / ((1 - error) * number * number) :=
        div_le_div₀ (le_trans (abs_nonneg _) within) within
          (mul_pos (mul_pos room positive) positive)
          (mul_le_mul_of_nonneg_right within.ge positive.le)
    _ = error / (1 - error) * number⁻¹ := by
        field_simp

/-- The quotient of two approximations within one part in 2⁵³ approximates the quotient. -/
theorem mul_inv (within : Within (2 ^ (-53 : ℤ)) number rough)
    (factorWithin : Within error factor roughFactor) (positive : 0 < number)
    (factorPositive : 0 < factor) (nonneg : 0 ≤ error) (small : error ≤ 2 ^ (-53 : ℤ)) :
    Within (2 ^ (-53 : ℤ) + 17 / 16 * error) (number * factor⁻¹) (rough * roughFactor⁻¹) := by
  have part : (2 : ℚ) ^ (-53 : ℤ) ≤ 1 / 128 := by norm_num
  have some := twoPow_pos (-53)
  generalize (2 : ℚ) ^ (-53 : ℤ) = roundoff at *
  have room : 0 < 1 - error := by linarith
  have ratio : error / (1 - error) ≤ 65 / 64 * error := by
    rw [div_le_iff₀ room]
    nlinarith
  have inversePositive := inv_pos.mpr factorPositive
  have inverse := (factorWithin.inv factorPositive (by linarith)).mono inversePositive.le ratio
  have product := within.mul inverse positive inversePositive some.le (by linarith)
  refine product.mono (mul_pos positive inversePositive).le ?_
  nlinarith

end Within

/-- What is at least one is not tiny. -/
theorem normal_of_one_le {number : ℚ} (least : 1 ≤ number) : 2 ^ (-1022 : ℤ) ≤ number :=
  calc (2 : ℚ) ^ (-1022 : ℤ) ≤ 2 ^ (0 : ℤ) := twoPow_le (by decide)
    _ = 1 := zpow_zero 2
    _ ≤ number := least

namespace Nearest

variable {level : Level} {number : ℚ}

/-- A level nearest to a positive number that is not tiny approximates it. -/
theorem within (nearest : level.Nearest number) (finite : level.isFinite)
    (normal : 2 ^ (-1022 : ℤ) ≤ number) :
    Within (2 ^ (-53 : ℤ)) number level.value := by
  have positive : 0 < number := (twoPow_pos _).trans_le normal
  have close := nearest.abs_sub_le_relative finite (by rwa [abs_of_pos positive])
  rwa [abs_of_pos positive] at close

/-- A nearest finite level approximates a positive number, or is off by half of the least unit. -/
theorem abs_sub_le_mixed (nearest : level.Nearest number) (finite : level.isFinite)
    (positive : 0 < number) :
    |level.value - number| ≤ 2 ^ (-53 : ℤ) * number + 2 ^ (-1075 : ℤ) := by
  have part : 0 < 2 ^ (-53 : ℤ) * number := mul_pos (twoPow_pos _) positive
  have unit := twoPow_pos (-1075)
  rcases le_or_gt (2 ^ (-1022 : ℤ)) number with normal | tiny
  · have within : |level.value - number| ≤ 2 ^ (-53 : ℤ) * number := nearest.within finite normal
    exact within.trans (le_add_of_nonneg_right unit.le)
  · have half : (2 : ℚ) ^ (-1074 : ℤ) / 2 = 2 ^ (-1075 : ℤ) := by
      rw [show (-1074 : ℤ) = -1075 + 1 from rfl, twoPow_add, zpow_one]
      ring
    have close := nearest.abs_sub_le_half (-1074) le_rfl (by decide) (by
      rw [abs_of_pos positive]
      exact tiny.le.trans (twoPow_le (by decide)))
    rw [half] at close
    exact close.trans (le_add_of_nonneg_left part.le)

end Nearest

/-- The unit in the last place of a finite level; that of zero is the least one. -/
def ulp (level : Level) : ℚ :=
  match level.toModel.unpack with
  | .finite _ _ exponent _ => 2 ^ exponent
  | _ => 2 ^ (-1074 : ℤ)

/-- A finite level has less than 2⁵³ units in the last place. -/
theorem ulp_spec {level : Level} (finite : level.isFinite) :
    ∃ unit : ℤ, level.ulp = 2 ^ unit ∧ -1074 ≤ unit ∧ |level.value| < 2 ^ (53 + unit) := by
  change level.toModel.unpack.isFinite = true at finite
  have proper := proper_unpack level
  unfold ulp value
  cases parts : level.toModel.unpack with
  | notANumber | infinity => rw [parts] at finite; cases finite
  | zero sign =>
    refine ⟨-1074, rfl, le_refl _, ?_⟩
    rw [exact, abs_zero]
    exact twoPow_pos _
  | finite sign mantissa exponent positive =>
    rw [parts] at proper
    refine ⟨exponent, rfl, proper.1.floor, ?_⟩
    have fits : (mantissa : ℚ) < 2 ^ (53 : ℤ) := by
      rw [show (53 : ℤ) = ((53 : Nat) : ℤ) from rfl, twoPow_natCast]
      exact_mod_cast proper.1.fits
    have magnitude :
        |exact (.finite sign mantissa exponent positive)| = mantissa * 2 ^ exponent := by
      cases sign <;> simp [exact, signed, abs_of_pos (magnitude_pos positive exponent)]
    rw [magnitude, twoPow_add]
    exact mul_lt_mul_of_pos_right fits (twoPow_pos _)

end Level

end Attenuation
