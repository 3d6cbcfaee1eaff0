import Attenuation.Proofs.Quantize
import Attenuation.Proofs.Rating
import Attenuation.Proofs.RoundingError

/-!
# How far a stored level is from the commanded one

An instrument with a step divides the commanded level by the step, rounds the quotient to a whole
number and multiplies it by the step again, each in doubles. The quotient and the product are
rounded, and the quotient or the product may be beyond the finite doubles. The whole multiple of the
step that is chosen is within half a step and one unit in the last place of the commanded level; the
product adds at most one more unit, because the multiple can lie one power of two above the level.
-/

namespace Attenuation

namespace Level

open Float.Model (UnpackedFloat Format)
open Float.Model.UnpackedFloat (Sign)

/-- A number is within one half of the whole number that it is rounded to. -/
theorem abs_halfAway_sub_le (number : ℚ) : |(halfAway number : ℚ) - number| ≤ 1 / 2 := by
  unfold halfAway
  split
  · have close := abs_sub_round (-number)
    rw [show -number - (round (-number) : ℚ) = ((-round (-number) : ℤ) : ℚ) - number by
      push_cast
      ring] at close
    exact close
  · rw [abs_sub_comm]
    exact abs_sub_round number

/-- A number below one half is rounded to zero. -/
theorem halfAway_eq_zero {number : ℚ} (small : |number| < 1 / 2) : halfAway number = 0 := by
  have close := abs_halfAway_sub_le number
  have below : |(halfAway number : ℚ)| < 1 :=
    calc |(halfAway number : ℚ)| = |((halfAway number : ℚ) - number) + number| := by
          rw [sub_add_cancel]
      _ ≤ |(halfAway number : ℚ) - number| + |number| := abs_add_le _ _
      _ < 1 := by linarith
  exact Int.abs_lt_one_iff.mp (by exact_mod_cast below)

/-- A finite level is rounded to a finite one. -/
theorem isFinite_roundHalfAway {level : Level} (finite : level.isFinite) :
    (Decimal.roundHalfAway level).isFinite := by
  obtain ⟨rounded, number⟩ := value_roundHalfAway finite
  refine isFinite_of_value number ?_
  rw [rounded]
  obtain ⟨count, exponent, short, -, held⟩ := onGrid_value level
  rcases le_or_gt 0 exponent with whole | fraction
  · have same : level.value = ((count * 2 ^ exponent.toNat : ℤ) : ℚ) := by
      rw [held]
      push_cast
      rw [← zpow_natCast, Int.toNat_of_nonneg whole]
    rw [same, halfAway_intCast, ← same]
    exact abs_value_lt finite
  · have shortValue : |(count : ℚ)| < 2 ^ 53 := by exact_mod_cast short
    have small : |level.value| ≤ 2 ^ 53 := by
      rw [held, abs_mul, abs_of_pos (twoPow_pos exponent)]
      have unit : (2 : ℚ) ^ exponent ≤ 1 := by
        rw [← zpow_zero (2 : ℚ)]
        exact twoPow_le fraction.le
      calc |(count : ℚ)| * 2 ^ exponent ≤ |(count : ℚ)| * 1 :=
            mul_le_mul_of_nonneg_left unit (abs_nonneg _)
        _ ≤ 2 ^ 53 := by linarith
    have close := abs_halfAway_sub_le level.value
    calc |(halfAway level.value : ℚ)| = |((halfAway level.value : ℚ) - level.value) + level.value| := by
          rw [sub_add_cancel]
      _ ≤ |(halfAway level.value : ℚ) - level.value| + |level.value| := abs_add_le _ _
      _ < 2 ^ (54 : ℤ) := by norm_num; linarith
      _ ≤ beyond := twoPow_le (by decide)

/-- The number of steps that a level is rounded to. -/
def steps (step level : Level) : ℤ := halfAway (level / step).value

section Steps

variable {step level : Level}

/-- What is stored is nearest to a whole multiple of the step. -/
theorem quantize_nearest (stepFinite : step.isFinite) (quotient : (level / step).isFinite) :
    (Simulator.quantize (some step) level).Nearest (steps step level * step.value) := by
  have product := mul_nearest (isFinite_roundHalfAway quotient) stepFinite
  rw [(value_roundHalfAway quotient).1] at product
  exact product

/-- The exact quotient is close to the rounded one in relation to itself, or rounds to no step. -/
theorem quotient_close (stepFinite : step.isFinite) (positive : 0 < step.value)
    (finite : level.isFinite) (quotient : (level / step).isFinite) :
    |(level / step).value - level.value / step.value| ≤
        2 ^ (-53 : ℤ) * |level.value / step.value| ∨
      |level.value / step.value| < 1 / 4 ∧ steps step level = 0 := by
  have nearest := div_nearest finite stepFinite positive.ne'
  rcases le_or_gt (1 / 4) |level.value / step.value| with normal | tiny
  · refine .inl (nearest.abs_sub_le_relative quotient (le_trans ?_ normal))
    rw [show (1 / 4 : ℚ) = 2 ^ (-2 : ℤ) by norm_num]
    exact twoPow_le (by decide)
  · refine .inr ⟨tiny, halfAway_eq_zero ?_⟩
    have close := nearest.abs_sub_le_half (-55) (by decide) (by decide) (by
      norm_num
      linarith)
    have reach := abs_sub_abs_le_abs_sub (level / step).value (level.value / step.value)
    norm_num at close
    linarith

/-- The chosen multiple is within half a step and a unit in the last place of the level. -/
theorem multiple_close (stepFinite : step.isFinite) (positive : 0 < step.value)
    (finite : level.isFinite) (quotient : (level / step).isFinite) :
    |steps step level * step.value - level.value| < step.value / 2 + level.ulp := by
  obtain ⟨unit, ulp, -, within⟩ := ulp_spec finite
  rw [ulp]
  have scale := twoPow_pos unit
  have exactly : level.value / step.value * step.value = level.value :=
    div_mul_cancel₀ _ positive.ne'
  have magnitude : |level.value / step.value| * step.value = |level.value| := by
    rw [← abs_of_pos positive, ← abs_mul, abs_of_pos positive, exactly]
  rcases quotient_close stepFinite positive finite quotient with close | ⟨tiny, none⟩
  · have rounded : |(steps step level : ℚ) - (level / step).value| ≤ 1 / 2 := abs_halfAway_sub_le _
    have far := abs_sub_le (steps step level : ℚ) (level / step).value (level.value / step.value)
    have lost : 2 ^ (-53 : ℤ) * |level.value| < 2 ^ unit :=
      calc 2 ^ (-53 : ℤ) * |level.value| < 2 ^ (-53 : ℤ) * 2 ^ (53 + unit) :=
            mul_lt_mul_of_pos_left within (twoPow_pos _)
        _ = 2 ^ unit := by rw [← twoPow_add]; congr 1; omega
    calc |steps step level * step.value - level.value|
        = |(steps step level : ℚ) - level.value / step.value| * step.value := by
          rw [← abs_of_pos positive, ← abs_mul, abs_of_pos positive, sub_mul, exactly]
      _ ≤ (1 / 2 + 2 ^ (-53 : ℤ) * |level.value / step.value|) * step.value :=
          mul_le_mul_of_nonneg_right (by linarith) positive.le
      _ = step.value / 2 + 2 ^ (-53 : ℤ) * |level.value| := by rw [← magnitude]; ring
      _ < step.value / 2 + 2 ^ unit := add_lt_add_of_le_of_lt le_rfl lost
  · rw [none, Int.cast_zero, zero_mul, zero_sub, abs_neg, ← magnitude]
    have short := mul_lt_mul_of_pos_right tiny positive
    linarith

/-- The chosen multiple is one that doubles hold, at most the step, or is not much greater than the
level. -/
theorem multiple_small (stepFinite : step.isFinite) (positive : 0 < step.value)
    (finite : level.isFinite) (quotient : (level / step).isFinite) :
    (OnGrid (steps step level * step.value) ∧ |steps step level * step.value| ≤ step.value) ∨
      |steps step level * step.value| ≤ 3 / 2 * |level.value| := by
  rcases lt_trichotomy |steps step level| 1 with less | one | more
  · rw [Int.abs_lt_one_iff.mp less, Int.cast_zero, zero_mul, abs_zero]
    exact .inl ⟨onGrid_zero, positive.le⟩
  · refine .inl ?_
    rcases eq_or_eq_neg_of_abs_eq one with up | down
    · rw [up, Int.cast_one, one_mul, abs_of_pos positive]
      exact ⟨onGrid_value step, le_rfl⟩
    · rw [down, Int.cast_neg, Int.cast_one, neg_one_mul, abs_neg, abs_of_pos positive]
      exact ⟨(onGrid_value step).neg, le_rfl⟩
  · right
    have several : (2 : ℚ) ≤ |(steps step level : ℚ)| := by exact_mod_cast more
    rcases quotient_close stepFinite positive finite quotient with close | ⟨-, none⟩
    · have rounded : |(steps step level : ℚ) - (level / step).value| ≤ 1 / 2 :=
        abs_halfAway_sub_le _
      have far := abs_sub_le (steps step level : ℚ) (level / step).value (level.value / step.value)
      have reach := abs_sub_abs_le_abs_sub (steps step level : ℚ) (level.value / step.value)
      have lost : (2 : ℚ) ^ (-53 : ℤ) * |level.value / step.value| ≤
          1 / 8 * |level.value / step.value| :=
        mul_le_mul_of_nonneg_right (by norm_num) (abs_nonneg _)
      have count : |(steps step level : ℚ)| ≤ 3 / 2 * |level.value / step.value| := by linarith
      calc |steps step level * step.value|
          = |(steps step level : ℚ)| * step.value := by rw [abs_mul, abs_of_pos positive]
        _ ≤ 3 / 2 * |level.value / step.value| * step.value :=
            mul_le_mul_of_nonneg_right count positive.le
        _ = 3 / 2 * |level.value| := by
            rw [abs_div, abs_of_pos positive]
            field_simp
    · rw [none, Int.cast_zero, abs_zero] at several
      linarith

/-- What is stored of a level that is not huge is finite. -/
theorem isFinite_quantize (stepFinite : step.isFinite) (positive : 0 < step.value)
    (finite : level.isFinite) (quotient : (level / step).isFinite)
    (moderate : |level.value| ≤ 2 ^ (1023 : ℤ)) :
    (Simulator.quantize (some step) level).isFinite := by
  have nearest := quantize_nearest stepFinite quotient
  rcases multiple_small stepFinite positive finite quotient with ⟨onGrid, short⟩ | small
  · have below := short.trans_lt ((le_abs_self _).trans_lt (abs_value_lt stepFinite))
    refine isFinite_of_value nearest.isNumber ?_
    rw [nearest.eq_of_onGrid onGrid below.le]
    exact below
  · refine nearest.isFinite ?_
    have doubled : beyond = 2 * 2 ^ (1023 : ℤ) := by
      unfold beyond
      rw [show (1024 : ℤ) = 1 + 1023 by decide, twoPow_add, zpow_one]
    have finer : (2 : ℚ) ^ (970 : ℤ) ≤ 2 ^ (-2 : ℤ) * 2 ^ (1023 : ℤ) := by
      rw [← twoPow_add]
      exact twoPow_le (by decide)
    have scale := twoPow_pos 1023
    rw [doubled]
    generalize (2 : ℚ) ^ (1023 : ℤ) = half at *
    generalize (2 : ℚ) ^ (970 : ℤ) = unit at *
    norm_num at finer
    linarith

/-- What is stored is within a unit in the last place of the chosen multiple, unless it is an
infinity. -/
theorem product_close (stepFinite : step.isFinite) (positive : 0 < step.value)
    (finite : level.isFinite) (quotient : (level / step).isFinite)
    (stored : (Simulator.quantize (some step) level).isFinite) :
    |(Simulator.quantize (some step) level).value - steps step level * step.value| ≤
      level.ulp := by
  obtain ⟨unit, ulp, floor, within⟩ := ulp_spec finite
  rw [ulp]
  have nearest := quantize_nearest stepFinite quotient
  rcases multiple_small stepFinite positive finite quotient with ⟨onGrid, short⟩ | small
  · have below := short.trans_lt ((le_abs_self _).trans_lt (abs_value_lt stepFinite))
    rw [nearest.eq_of_onGrid onGrid below.le, sub_self, abs_zero]
    exact (twoPow_pos unit).le
  · -- The multiple may be in the binade above that of the level.
    have doubled : (2 : ℚ) ^ (53 + (unit + 1)) = 2 * 2 ^ (53 + unit) := by
      rw [show 53 + (unit + 1) = 1 + (53 + unit) by omega, twoPow_add, zpow_one]
    have close := nearest.abs_sub_le_half_of_finite stored (unit + 1) (by omega) (by
      rw [doubled]
      linarith [abs_nonneg level.value])
    rw [twoPow_add, zpow_one, mul_div_cancel_right₀ _ two_ne_zero] at close
    exact close

/-- A step that takes effect is a number above zero. -/
theorem number_of_positive (positive : 0.0 < step) : step.isNaN = false ∧ 0 < step.value := by
  have number : step.isNaN = false := by
    change (decide (((0.0 : Level).toModel.unpack.compare step.toModel.unpack ==
      some Ordering.lt) = true)) = true at positive
    change step.toModel.unpack.isNaN = false
    cases parts : step.toModel.unpack with
    | notANumber => rw [parts] at positive; cases positive
    | _ => rfl
  exact ⟨number, (lt_iff rfl number).mp positive⟩

/-- A number whose value is zero is a zero. -/
theorem unpack_of_value_zero (number : level.isNaN = false) (zero : level.value = 0) :
    ∃ sign, level.toModel.unpack = .zero sign := by
  have same : level.value = Level.value 0.0 := zero
  rcases unpack_eq_of_value number rfl same with same | ⟨sign, -, parts, -⟩
  · exact ⟨.positive, same⟩
  · exact ⟨sign, parts⟩

/-- With an infinite step nothing is stored that is a number. -/
theorem isNaN_quantize_infinity (number : step.isNaN = false) (infinite : step.isFinite = false)
    (finite : level.isFinite) : (Simulator.quantize (some step) level).isNaN := by
  obtain ⟨sign, parts⟩ := infinity_of_notFinite number infinite
  change level.toModel.unpack.isFinite = true at finite
  have quotient : ∃ zero, (level / step).toModel.unpack = .zero zero := by
    change ∃ zero, (Float.Model.pack (UnpackedFloat.div Format.binary64 level.toModel.unpack
      step.toModel.unpack)).unpack = .zero zero
    rw [parts]
    cases kind : level.toModel.unpack with
    | notANumber | infinity => rw [kind] at finite; cases finite
    | zero | finite => exact ⟨_, unpack_pack_zero _⟩
  obtain ⟨zero, none⟩ := quotient
  have quotientFinite : (level / step).isFinite := congrArg UnpackedFloat.isFinite none
  have quotientValue : (level / step).value = 0 := congrArg exact none
  obtain ⟨rounded, roundedNumber⟩ := value_roundHalfAway quotientFinite
  rw [quotientValue, show (0 : ℚ) = ((0 : ℤ) : ℚ) from rfl, halfAway_intCast] at rounded
  obtain ⟨other, still⟩ := unpack_of_value_zero roundedNumber rounded
  change (Float.Model.pack (UnpackedFloat.mul Format.binary64
    (Decimal.roundHalfAway (level / step)).toModel.unpack step.toModel.unpack)).unpack.isNaN = true
  rw [still, parts]
  cases other <;> cases sign <;> rfl

/-- A quotient beyond the finite doubles is stored as an infinity. -/
theorem quantize_overflow (stepFinite : step.isFinite) (positive : 0 < step.value)
    (finite : level.isFinite) (overflow : (level / step).isFinite = false) :
    (Simulator.quantize (some step) level).isNaN = false ∧
      (Simulator.quantize (some step) level).isFinite = false := by
  obtain ⟨sign, parts⟩ := infinity_of_notFinite
    (isNaN_div stepFinite positive (isNaN_of_isFinite finite)) overflow
  have stored : (Simulator.quantize (some step) level).toModel.unpack = .infinity sign := by
    change (Decimal.roundHalfAway (level / step) * step).toModel.unpack = _
    rw [roundHalfAway_notFinite overflow]
    exact infinity_mul stepFinite positive parts
  exact ⟨congrArg UnpackedFloat.isNaN stored, congrArg UnpackedFloat.isFinite stored⟩

end Steps

end Level

namespace Simulator

/-- **A stored level is within half a step and two units in the last place of the commanded one,
where doubles can hold it.** Take an instrument whose step is one that it accepted, and a finite
level that it is commanded to. It stores the double nearest to a whole multiple of the step that is
within half a step and one unit in the last place of the level; this double is finite, unless the
level is above 2¹⁰²³ dB. But a quotient of level and step beyond the doubles is stored as an infinity,
and with an infinite step what is stored is not a number. -/
theorem stored_close {simulator : Simulator} {given : Option Level}
    (takes : simulator.step = effectiveStep given) {index : Nat} {value : Level}
    (finite : value.isFinite) (accepted : (simulator.set index value).answer = .ok ()) :
    ∃ stored, (simulator.set index value).simulator.values[index]? = some stored ∧
      (simulator.step = none → stored = value) ∧
      ∀ step, simulator.step = some step →
        (stored.isFinite → |stored.value - value.value| < step.value / 2 + 2 * value.ulp) ∧
        (step.isFinite → (value / step).isFinite →
          (∃ count : ℤ, stored.Nearest (count * step.value) ∧
            |count * step.value - value.value| < step.value / 2 + value.ulp) ∧
          (|value.value| ≤ 2 ^ (1023 : ℤ) → stored.isFinite)) ∧
        (step.isFinite → (value / step).isFinite = false →
          stored.isNaN = false ∧ stored.isFinite = false) ∧
        (step.isFinite = false → stored.isNaN) := by
  refine ⟨quantize simulator.step value, ?_, fun without => by rw [without]; rfl,
    fun step effective => ?_⟩
  · rw [set_values_of_ok _ _ _ accepted, List.getElem?_set_self (set_ok _ _ _ accepted).2]
  obtain ⟨number, positive⟩ := Level.number_of_positive (stepPositive_of_effective takes _ effective)
  rw [effective]
  have overflow (stepFinite : step.isFinite) :=
    Level.quantize_overflow stepFinite positive finite
  have infinite (stepInfinite : step.isFinite = false) :=
    Level.isNaN_quantize_infinity number stepInfinite finite
  refine ⟨fun stored => ?_, fun stepFinite quotient => ⟨⟨_,
    Level.quantize_nearest stepFinite quotient,
    Level.multiple_close stepFinite positive finite quotient⟩,
    Level.isFinite_quantize stepFinite positive finite quotient⟩, overflow,
    infinite⟩
  cases stepFinite : step.isFinite with
  | false => cases (Level.isNaN_of_isFinite stored).symm.trans (infinite stepFinite)
  | true =>
    cases quotient : (value / step).isFinite with
    | false => cases stored.symm.trans (overflow stepFinite quotient).2
    | true =>
      have product := Level.product_close stepFinite positive finite quotient stored
      have multiple := Level.multiple_close stepFinite positive finite quotient
      have far := abs_sub_le (quantize (some step) value).value
        (Level.steps step value * step.value) value.value
      linarith

/-- An instrument of one channel with a step. -/
def steppedBy (step : Level) : Simulator :=
  ofConfig ⟨"SIM-1", 1, some 60.0, some step⟩

/-- With a positive step the instrument stores what the step makes of a level. -/
theorem steppedBy_stores {step : Level} (positive : 0.0 < step) (value : Level) :
    ((steppedBy step).set 0 value).answer = .ok () ∧
      ((steppedBy step).set 0 value).simulator.values[0]? = some (quantize (some step) value) := by
  have effective : (steppedBy step).step = some step := by
    simp [steppedBy, ofConfig, effectiveStep, Option.filter, positive]
  have accepted : ((steppedBy step).set 0 value).answer = .ok () := rfl
  refine ⟨accepted, ?_⟩
  rw [set_values_of_ok _ _ _ accepted, effective]
  rfl

/-- The least positive double. -/
def leastStep : Level := Float.ofBits 1

/-- The least step makes an infinity of 20 dB, an infinite one something that is not a number, and a
common step goes further away than half a step and one unit in the last place. -/
theorem stored_astray :
    (0.0 < leastStep ∧ ((steppedBy leastStep).set 0 20.0).answer = .ok () ∧
      ∃ stored, ((steppedBy leastStep).set 0 20.0).simulator.values[0]? = some stored ∧
        stored.isFinite = false) ∧
    ((0.0 : Level) < 1.0 / 0.0 ∧ ((steppedBy (1.0 / 0.0)).set 0 20.0).answer = .ok () ∧
      ∃ stored, ((steppedBy (1.0 / 0.0)).set 0 20.0).simulator.values[0]? = some stored ∧
        stored.isNaN) ∧
    ((0.0 : Level) < 0.81 ∧ ((steppedBy 0.81).set 0 15.795).answer = .ok () ∧
      ∃ stored, ((steppedBy 0.81).set 0 15.795).simulator.values[0]? = some stored ∧
        Level.value 0.81 / 2 + Level.ulp 15.795 < |stored.value - Level.value 15.795|) := by
  have least : 0.0 < leastStep := by decide
  have infinite : (0.0 : Level) < 1.0 / 0.0 := by decide
  have common : (0.0 : Level) < 0.81 := by decide
  have overflow : (quantize (some leastStep) 20.0).isFinite = false := by decide +kernel
  have undefined : (quantize (some (1.0 / 0.0)) 20.0).isNaN := by decide +kernel
  obtain ⟨accepted, held⟩ := steppedBy_stores least 20.0
  obtain ⟨acceptedToo, heldToo⟩ := steppedBy_stores infinite 20.0
  obtain ⟨acceptedAlso, heldAlso⟩ := steppedBy_stores common 15.795
  refine ⟨⟨least, accepted, _, held, overflow⟩, ⟨infinite, acceptedToo, _, heldToo, undefined⟩,
    common, acceptedAlso, _, heldAlso, ?_⟩
  have step : Level.value 0.81 = 7295831396340204 * 2 ^ (-53 : ℤ) := by
    change ((7295831396340204 : Nat) : ℚ) * 2 ^ (-53 : ℤ) = _
    norm_num
  have commanded : Level.value 15.795 = 8891794514289623 * 2 ^ (-49 : ℤ) := by
    change ((8891794514289623 : Nat) : ℚ) * 2 ^ (-49 : ℤ) = _
    norm_num
  have stored : (quantize (some 0.81) 15.795).value = 4559894622712628 * 2 ^ (-48 : ℤ) := by
    change ((4559894622712628 : Nat) : ℚ) * 2 ^ (-48 : ℤ) = _
    norm_num
  have ulp : Level.ulp 15.795 = 2 ^ (-49 : ℤ) := rfl
  rw [step, commanded, stored, ulp]
  norm_num

/-- A step of half a decibel takes 15.795 dB to 16 dB. -/
theorem stored_close_halfDecibel :
    ∃ stored, ((steppedBy 0.5).set 0 15.795).simulator.values[0]? = some stored ∧
      stored.isFinite ∧ |stored.value - Level.value 15.795| < 1 / 4 + 2 ^ (-48 : ℤ) := by
  have takes : (steppedBy 0.5).step = effectiveStep (some 0.5) := rfl
  have commanded : Float.isFinite 15.795 := rfl
  have accepted : ((steppedBy 0.5).set 0 15.795).answer = .ok () := rfl
  obtain ⟨stored, held, -, close⟩ := stored_close takes commanded accepted
  obtain ⟨near, finite, -⟩ := close 0.5 (by rfl)
  have half : Level.value 0.5 = 1 / 2 := by
    change ((2 ^ 52 : Nat) : ℚ) * 2 ^ (-53 : ℤ) = _
    norm_num
  have ulp : Level.ulp 15.795 = 2 ^ (-49 : ℤ) := rfl
  have moderate : |Level.value 15.795| ≤ 2 ^ (1023 : ℤ) := by
    obtain ⟨unit, own, -, within⟩ := Level.ulp_spec commanded
    rw [ulp, zpow_right_inj₀ (by norm_num) (by norm_num)] at own
    rw [← own] at within
    exact within.le.trans (Level.twoPow_le (by decide))
  have storedFinite := (finite rfl rfl).2 moderate
  refine ⟨stored, held, storedFinite, ?_⟩
  have bound := near storedFinite
  rw [half, ulp] at bound
  norm_num at bound ⊢
  linarith

end Simulator

end Attenuation
