import Attenuation.Proofs.Nearest

/-!
# Arithmetic on doubles

Each operation on two finite doubles gives a double nearest to the exact result. The operations
differ in how they bring their operands to one mantissa and one exponent; what happens then is one
rounding.
-/

namespace Attenuation

namespace Level

open Float.Model (UnpackedFloat Format totalExponent)
open Float.Model.UnpackedFloat (Sign Accuracy ExtendedMantissa accuracyOfFraction decreaseExponent
  divCore roundWithAccuracy)

/-- A mantissa whose exponent is decreased has the same magnitude. -/
theorem decreaseExponent_magnitude (mantissa : Nat) {exponent lower : ℤ}
    (below : lower ≤ exponent) :
    ((decreaseExponent mantissa exponent lower).1 : ℚ) * 2 ^ lower = mantissa * 2 ^ exponent := by
  change ((mantissa <<< (exponent - lower).toNat : Nat) : ℚ) * 2 ^ lower = _
  rw [Nat.shiftLeft_eq, Nat.cast_mul, ← twoPow_natCast, Int.toNat_of_nonneg (by omega), mul_assoc,
    ← twoPow_add, sub_add_cancel]

/-- A zero is nearest to zero. -/
theorem nearest_zero (sign : Sign) : Nearest (.ofModel (.pack (.zero sign))) 0 where
  isNumber := congrArg UnpackedFloat.isNaN (unpack_pack_zero sign)
  closest other _ _ := by
    have zero : Level.value (.ofModel (.pack (.zero sign))) = 0 :=
      congrArg exact (unpack_pack_zero sign)
    rw [zero, sub_zero, abs_zero]
    exact abs_nonneg _

/-- A positive mantissa with an exponent is rounded to a nearest double. -/
theorem nearest_round (sign : Sign) {mantissa : Nat} (positive : 0 < mantissa) (exponent : ℤ) :
    Nearest (.ofModel (.pack (UnpackedFloat.round Format.binary64 sign mantissa exponent)))
      (signed sign (mantissa * 2 ^ exponent)) := by
  -- The exponent is decreased to the one that is rounded at, unless it is there already.
  have sameMagnitude (shift : Nat) : ((mantissa <<< shift : Nat) : ℚ) * 2 ^ (exponent - shift) =
      mantissa * 2 ^ exponent := by
    have := decreaseExponent_magnitude mantissa (show exponent - shift ≤ exponent by omega)
    simpa [decreaseExponent] using this
  have ready : 2 ^ 52 ≤ mantissa <<< (exponent - target mantissa exponent).toNat ∨
      exponent - (exponent - target mantissa exponent).toNat ≤ -1074 := by
    rw [target_eq, Nat.shiftLeft_eq]
    rcases le_or_gt ((mantissa.log2 : ℤ) + exponent - 52) (-1074) with least | above
    · right
      omega
    · left
      have bits : 52 ≤ mantissa.log2 +
          (exponent - max (mantissa.log2 + exponent - 52) (-1074)).toNat := by omega
      calc 2 ^ 52 ≤ 2 ^ (mantissa.log2 + _) := Nat.pow_le_pow_right (by decide) bits
        _ = 2 ^ mantissa.log2 * 2 ^ _ := Nat.pow_add _ _ _
        _ ≤ mantissa * 2 ^ _ := Nat.mul_le_mul_right _ (Nat.log2_self_le positive.ne')
  obtain ⟨unit, rounded, roundedAt, spelled⟩ :=
    roundWithAccuracy_spec sign (describes_exact _) ready
  rw [sameMagnitude] at roundedAt
  exact roundedAt.nearest spelled

/-- An integer with an exponent is rounded to a nearest double. -/
theorem nearest_normalize (count exponent : ℤ) (zeroSign : Sign) :
    Nearest (.ofModel (.pack (UnpackedFloat.normalize Format.binary64 count exponent zeroSign)))
      (count * 2 ^ exponent) := by
  unfold UnpackedFloat.normalize
  rcases lt_trichotomy count 0 with negative | rfl | positive
  · rw [compare_lt_iff_lt.mpr negative]
    have nearest := nearest_round .negative (show 0 < (-count).toNat by omega) exponent
    have magnitude : (((-count).toNat : Nat) : ℚ) = -(count : ℚ) := by
      exact_mod_cast (show (((-count).toNat : Nat) : ℤ) = -count by omega)
    rw [magnitude] at nearest
    simpa only [signed, neg_mul, neg_neg] using nearest
  · rw [compare_eq_iff_eq.mpr rfl, Int.cast_zero, zero_mul]
    exact nearest_zero zeroSign
  · rw [compare_gt_iff_gt.mpr positive]
    have nearest := nearest_round .positive (show 0 < count.toNat by omega) exponent
    have magnitude : ((count.toNat : Nat) : ℚ) = count := by
      exact_mod_cast (show ((count.toNat : Nat) : ℤ) = count by omega)
    rw [magnitude] at nearest
    exact nearest

/-- What a double is taken apart into is packed as that double. -/
theorem unpack_pack {parts : UnpackedFloat} (proper : Proper parts) :
    (Float.Model.pack parts).unpack = parts := by
  cases parts with
  | notANumber => rfl
  | infinity sign => exact unpack_pack_infinity sign
  | zero sign => exact unpack_pack_zero sign
  | finite sign mantissa exponent positive =>
    exact unpack_pack_finite sign positive proper.1 proper.2

/-- A number taken apart as a double is nearest to its own value. -/
theorem nearest_self {parts : UnpackedFloat} (proper : Proper parts)
    (number : parts.isNaN = false) :
    Nearest (.ofModel (.pack parts)) (exact parts) where
  isNumber := (congrArg UnpackedFloat.isNaN (unpack_pack proper)).trans number
  closest other _ _ := by
    have same : Level.value (.ofModel (.pack parts)) = exact parts :=
      congrArg exact (unpack_pack proper)
    rw [same, sub_self, abs_zero]
    exact abs_nonneg _

/-- A mantissa with a sign and an exponent is a signed magnitude. -/
theorem apply_magnitude (sign : Sign) (mantissa : Nat) (scale : ℚ) :
    ((sign.apply mantissa : ℤ) : ℚ) * scale = signed sign (mantissa * scale) := by
  cases sign
  · change ((-(mantissa : ℤ) : ℤ) : ℚ) * scale = -((mantissa : ℚ) * scale)
    push_cast
    ring
  · rfl

/-- The sum of two mantissas at the smaller of their exponents is the sum of their values. -/
theorem aligned_sum (sign other : Sign) (mantissa fraction : Nat) (exponent power : ℤ) :
    ((sign.apply (decreaseExponent mantissa exponent (min exponent power)).1 +
      other.apply (decreaseExponent fraction power (min exponent power)).1 : ℤ) : ℚ) *
        2 ^ min exponent power =
      signed sign (mantissa * 2 ^ exponent) + signed other (fraction * 2 ^ power) := by
  rw [Int.cast_add, add_mul, apply_magnitude, apply_magnitude,
    decreaseExponent_magnitude mantissa (min_le_left _ _),
    decreaseExponent_magnitude fraction (min_le_right _ _)]

/-- A sum of finite doubles is nearest to the exact sum. -/
theorem add_nearest {level other : Level} (finite : level.isFinite) (otherFinite : other.isFinite) :
    Nearest (level + other) (level.value + other.value) := by
  change level.toModel.unpack.isFinite = true at finite
  change other.toModel.unpack.isFinite = true at otherFinite
  change Nearest (.ofModel (.pack (UnpackedFloat.add Format.binary64 level.toModel.unpack
    other.toModel.unpack))) (exact level.toModel.unpack + exact other.toModel.unpack)
  have proper := proper_unpack level
  have otherProper := proper_unpack other
  generalize level.toModel.unpack = first at *
  generalize other.toModel.unpack = second at *
  cases first with
  | notANumber | infinity => cases finite
  | zero sign =>
    cases second with
    | notANumber | infinity => cases otherFinite
    | zero otherSign =>
      rw [exact, exact, Rat.add_zero, UnpackedFloat.add]
      split
      · exact nearest_zero sign
      · exact nearest_zero .positive
    | finite =>
      rw [exact, zero_add]
      exact nearest_self otherProper rfl
  | finite sign mantissa exponent positive =>
    cases second with
    | notANumber | infinity => cases otherFinite
    | zero otherSign =>
      rw [exact.eq_def (.zero otherSign), Rat.add_zero]
      exact nearest_self proper rfl
    | finite otherSign fraction power fractionPositive =>
      rw [exact, exact, ← aligned_sum]
      exact nearest_normalize _ _ _

/-- A number with the other sign is taken apart as a double is, when it was before. -/
theorem proper_neg {parts : UnpackedFloat} (proper : Proper parts) : Proper parts.neg := by
  cases parts with
  | finite => exact proper
  | _ => trivial

/-- The double with the other sign is taken apart into the parts with the other sign. -/
theorem unpack_neg (level : Level) : (-level).toModel.unpack = level.toModel.unpack.neg :=
  unpack_pack (proper_neg (proper_unpack level))

/-- The sign of a double turns its value around. -/
theorem value_neg (level : Level) :
    (-level).value = -level.value ∧ (-level).isNaN = level.isNaN := by
  change exact (-level).toModel.unpack = -exact level.toModel.unpack ∧
    (-level).toModel.unpack.isNaN = level.toModel.unpack.isNaN
  rw [unpack_neg]
  cases level.toModel.unpack with
  | finite sign | infinity sign => exact ⟨signed_neg sign _, rfl⟩
  | notANumber | zero => exact ⟨neg_zero.symm, rfl⟩

/-- The sign of a double does not say whether it is finite. -/
theorem isFinite_neg (parts : UnpackedFloat) : parts.neg.isFinite = parts.isFinite := by
  cases parts <;> rfl

/-- A difference of numbers taken apart is the sum with the other sign. -/
theorem sub_eq_add (first second : UnpackedFloat) :
    first.sub Format.binary64 second = first.add Format.binary64 second.neg := by
  cases first with
  | finite sign mantissa exponent =>
    cases second with
    | finite other fraction power =>
      have turned (count aligned : Nat) : sign.apply aligned - other.apply count =
          sign.apply aligned + (-other).apply count := by
        cases other
        · exact sub_neg_eq_add _ _
        · rfl
      exact congrArg (UnpackedFloat.normalize Format.binary64 · _ _) (turned _ _)
    | _ => rfl
  | _ => cases second <;> rfl

/-- A difference of finite doubles is nearest to the exact difference. -/
theorem sub_nearest {level other : Level} (finite : level.isFinite) (otherFinite : other.isFinite) :
    Nearest (level - other) (level.value - other.value) := by
  have same : level - other = level + -other := by
    change Float.ofModel (.pack (UnpackedFloat.sub Format.binary64 level.toModel.unpack
      other.toModel.unpack)) = .ofModel (.pack (UnpackedFloat.add Format.binary64
        level.toModel.unpack (-other).toModel.unpack))
    rw [sub_eq_add, unpack_neg]
  have negatedFinite : (-other).isFinite := by
    change (-other).toModel.unpack.isFinite = true
    rw [unpack_neg, isFinite_neg]
    exact otherFinite
  rw [same, sub_eq_add_neg, ← (value_neg other).1]
  exact add_nearest finite negatedFinite

/-- The magnitudes of a product multiply, and so do their signs. -/
theorem signed_mul (sign other : Sign) (magnitude factor : ℚ) :
    signed (sign * other) (magnitude * factor) = signed sign magnitude * signed other factor := by
  cases sign <;> cases other
  · exact (neg_mul_neg magnitude factor).symm
  · exact (neg_mul magnitude factor).symm
  · exact (mul_neg magnitude factor).symm
  · rfl

/-- The magnitudes of a quotient divide, and so do their signs. -/
theorem signed_div (sign other : Sign) (magnitude divisor : ℚ) :
    signed (sign / other) (magnitude / divisor) = signed sign magnitude / signed other divisor := by
  cases sign <;> cases other
  · exact (neg_div_neg_eq magnitude divisor).symm
  · exact (neg_div divisor magnitude).symm
  · exact (div_neg magnitude).symm
  · rfl

/-- The product of two magnitudes that is long enough is rounded, with halves going to the even
neighbour. -/
theorem mul_ready (sign other : Sign) {mantissa fraction : Nat} {exponent power : ℤ}
    (positive : 0 < mantissa) (fractionPositive : 0 < fraction)
    (ready : 2 ^ 52 ≤ mantissa * fraction ∨ exponent + power ≤ -1074) :
    ∃ unit rounded, RoundedEven (mantissa * 2 ^ exponent * (fraction * 2 ^ power)) unit rounded ∧
      Magnitude (sign * other) (rounded * 2 ^ unit) (UnpackedFloat.mul Format.binary64
        (.finite sign mantissa exponent positive)
        (.finite other fraction power fractionPositive)) := by
  have product : ((mantissa * fraction : Nat) : ℚ) * 2 ^ (exponent + power) =
      mantissa * 2 ^ exponent * (fraction * 2 ^ power) := by
    rw [Nat.cast_mul, twoPow_add, mul_mul_mul_comm]
  rw [← product]
  exact roundWithAccuracy_even (sign * other) (describes_exact _) ready

/-- The product of two magnitudes of doubles is rounded, with halves going to the even neighbour. -/
theorem mul_even (sign other : Sign) {mantissa fraction : Nat} {exponent power : ℤ}
    (positive : 0 < mantissa) (fractionPositive : 0 < fraction) (sits : Sits mantissa exponent)
    (otherSits : Sits fraction power) :
    ∃ unit rounded, RoundedEven (mantissa * 2 ^ exponent * (fraction * 2 ^ power)) unit rounded ∧
      Magnitude (sign * other) (rounded * 2 ^ unit) (UnpackedFloat.mul Format.binary64
        (.finite sign mantissa exponent positive)
        (.finite other fraction power fractionPositive)) := by
  apply mul_ready sign other positive fractionPositive
  rcases sits.full with full | least
  · exact .inl (full.trans (Nat.le_mul_of_pos_right _ fractionPositive))
  · rcases otherSits.full with full | otherLeast
    · exact .inl (full.trans (Nat.le_mul_of_pos_left _ positive))
    · exact .inr (by omega)

/-- A product of finite doubles is nearest to the exact product. -/
theorem mul_nearest {level other : Level} (finite : level.isFinite) (otherFinite : other.isFinite) :
    Nearest (level * other) (level.value * other.value) := by
  change level.toModel.unpack.isFinite = true at finite
  change other.toModel.unpack.isFinite = true at otherFinite
  change Nearest (.ofModel (.pack (UnpackedFloat.mul Format.binary64 level.toModel.unpack
    other.toModel.unpack))) (exact level.toModel.unpack * exact other.toModel.unpack)
  have proper := proper_unpack level
  have otherProper := proper_unpack other
  generalize level.toModel.unpack = first at *
  generalize other.toModel.unpack = second at *
  cases first with
  | notANumber | infinity => cases finite
  | zero sign =>
    rw [exact, zero_mul]
    cases second with
    | notANumber | infinity => cases otherFinite
    | zero | finite => exact nearest_zero _
  | finite sign mantissa exponent positive =>
    cases second with
    | notANumber | infinity => cases otherFinite
    | zero otherSign =>
      rw [exact.eq_def (.zero otherSign), mul_zero]
      exact nearest_zero _
    | finite otherSign fraction power fractionPositive =>
      obtain ⟨unit, rounded, roundedAt, spelled⟩ :=
        mul_even sign otherSign positive fractionPositive proper.1 otherProper.1
      rw [exact, exact, ← signed_mul]
      exact roundedAt.nearest spelled

/-- A remainder says how a quotient is rounded. -/
theorem describes_quotient (dividend : Nat) {divisor : Nat} (positive : 0 < divisor) :
    Describes (.ofMantissaAndAccuracy (dividend / divisor)
      (accuracyOfFraction (dividend % divisor) divisor)) (dividend / divisor) := by
  have scale : (0 : ℚ) < divisor := by exact_mod_cast positive
  have small : ((dividend % divisor : Nat) : ℚ) < divisor := by
    exact_mod_cast Nat.mod_lt dividend positive
  have split : (dividend : ℚ) / divisor =
      (dividend / divisor : Nat) + ((dividend % divisor : Nat) : ℚ) / divisor := by
    have whole : ((divisor * (dividend / divisor) + dividend % divisor : Nat) : ℚ) = dividend :=
      congrArg _ (Nat.div_add_mod dividend divisor)
    rw [← whole]
    push_cast
    field_simp
  rw [split]
  generalize dividend % divisor = remainder at *
  generalize dividend / divisor = quotient at *
  unfold accuracyOfFraction
  split
  · rename_i zero
    rw [zero, Nat.cast_zero, zero_div, Rat.add_zero]
    exact describes_exact quotient
  · rename_i nonzero
    have above : (0 : ℚ) < remainder / divisor :=
      div_pos (by exact_mod_cast Nat.pos_of_ne_zero nonzero) scale
    have below : (remainder : ℚ) / divisor < 1 := (div_lt_one scale).mpr small
    rcases lt_trichotomy (2 * remainder) divisor with less | half | more
    · rw [compare_lt_iff_lt.mpr less]
      have side : (remainder : ℚ) / divisor < 1 / 2 := by
        rw [div_lt_div_iff₀ scale (by norm_num)]
        exact_mod_cast (by omega : remainder * 2 < 1 * divisor)
      change (_ : ℚ) < _ ∧ _ < _
      constructor <;> linarith
    · rw [compare_eq_iff_eq.mpr half]
      have side : (remainder : ℚ) / divisor = 1 / 2 := by
        rw [div_eq_div_iff scale.ne' (by norm_num)]
        exact_mod_cast (by omega : remainder * 2 = 1 * divisor)
      change (_ : ℚ) = _
      rw [side]
    · rw [compare_gt_iff_gt.mpr more]
      have side : 1 / 2 < (remainder : ℚ) / divisor := by
        rw [div_lt_div_iff₀ (by norm_num) scale]
        exact_mod_cast (by omega : 1 * divisor < remainder * 2)
      change (_ : ℚ) < _ ∧ _ < _
      constructor <;> linarith

/-- The dividend of a quotient is shifted until the quotient has all digits that it is rounded
with. -/
theorem quotient_ready {mantissa fraction shift : Nat} {exponent power lower : ℤ}
    (positive : 0 < mantissa) (fractionPositive : 0 < fraction)
    (lowest : lower = min (exponent - power) (Format.binary64.targetExponent
      (totalExponent mantissa exponent - totalExponent fraction power)))
    (shifted : (shift : ℤ) = exponent - power - lower) :
    2 ^ 52 ≤ (mantissa <<< shift) / fraction ∨ lower ≤ -1074 := by
  change lower = min (exponent - power) (max ((mantissa.log2 : ℤ) + 1 + exponent -
    (fraction.log2 + 1 + power) - ((1 + 52 : Nat) : ℤ))
      (3 - 2 ^ 10 - ((1 + 52 : Nat) : ℤ))) at lowest
  rcases le_or_gt lower (-1074) with least | above
  · exact .inr least
  · left
    have bits : 53 + fraction.log2 ≤ mantissa.log2 + shift := by omega
    rw [Nat.shiftLeft_eq, Nat.le_div_iff_mul_le fractionPositive]
    calc 2 ^ 52 * fraction ≤ 2 ^ 52 * 2 ^ (fraction.log2 + 1) :=
          Nat.mul_le_mul_left _ Nat.lt_log2_self.le
      _ = 2 ^ (53 + fraction.log2) := by rw [← Nat.pow_add]; congr 1; omega
      _ ≤ 2 ^ (mantissa.log2 + shift) := Nat.pow_le_pow_right (by decide) bits
      _ = 2 ^ mantissa.log2 * 2 ^ shift := Nat.pow_add _ _ _
      _ ≤ mantissa * 2 ^ shift := Nat.mul_le_mul_right _ (Nat.log2_self_le positive.ne')

/-- The quotient of two magnitudes is rounded, with halves going to the even neighbour. -/
theorem div_even (sign other : Sign) {mantissa fraction : Nat} {exponent power : ℤ}
    (positive : 0 < mantissa) (fractionPositive : 0 < fraction) :
    ∃ unit rounded, RoundedEven (mantissa * 2 ^ exponent / (fraction * 2 ^ power)) unit rounded ∧
      Magnitude (sign / other) (rounded * 2 ^ unit) (UnpackedFloat.div Format.binary64
        (.finite sign mantissa exponent positive)
        (.finite other fraction power fractionPositive)) := by
  obtain ⟨lower, lowest⟩ : ∃ lower, lower = min (exponent - power)
    (Format.binary64.targetExponent
      (totalExponent mantissa exponent - totalExponent fraction power)) := ⟨_, rfl⟩
  obtain ⟨shift, shifted⟩ : ∃ shift : Nat, (shift : ℤ) = exponent - power - lower :=
    ⟨(exponent - power - lower).toNat, Int.toNat_of_nonneg (by omega)⟩
  have core : divCore Format.binary64 mantissa exponent fraction power =
      ((mantissa <<< shift) / fraction, lower,
        accuracyOfFraction ((mantissa <<< shift) % fraction) fraction) := by
    unfold divCore
    dsimp only
    rw [← lowest, ← shifted, Int.toNat_natCast]
  have quotient : ((mantissa <<< shift : Nat) : ℚ) / fraction * 2 ^ lower =
      mantissa * 2 ^ exponent / (fraction * 2 ^ power) := by
    have scale := twoPow_pos power
    rw [Nat.shiftLeft_eq, Nat.cast_mul, ← twoPow_natCast, shifted, div_mul_eq_mul_div, mul_assoc,
      ← twoPow_add, sub_add_cancel, zpow_sub₀ (by norm_num)]
    field_simp
  rw [← quotient]
  change ∃ unit rounded, _ ∧ Magnitude _ _ (roundWithAccuracy Format.binary64 (sign / other)
    (divCore Format.binary64 mantissa exponent fraction power).1
    (divCore Format.binary64 mantissa exponent fraction power).2.1
    (divCore Format.binary64 mantissa exponent fraction power).2.2)
  rw [core]
  exact roundWithAccuracy_even (sign / other) (describes_quotient (mantissa <<< shift) fractionPositive)
    (quotient_ready positive fractionPositive lowest shifted)

/-- A quotient of finite doubles is nearest to the exact quotient. -/
theorem div_nearest {level other : Level} (finite : level.isFinite) (otherFinite : other.isFinite)
    (nonzero : other.value ≠ 0) : Nearest (level / other) (level.value / other.value) := by
  change level.toModel.unpack.isFinite = true at finite
  change other.toModel.unpack.isFinite = true at otherFinite
  change exact other.toModel.unpack ≠ 0 at nonzero
  change Nearest (.ofModel (.pack (UnpackedFloat.div Format.binary64 level.toModel.unpack
    other.toModel.unpack))) (exact level.toModel.unpack / exact other.toModel.unpack)
  generalize level.toModel.unpack = first at *
  generalize other.toModel.unpack = second at *
  cases second with
  | notANumber | infinity => cases otherFinite
  | zero => exact absurd rfl nonzero
  | finite otherSign fraction power fractionPositive =>
    cases first with
    | notANumber | infinity => cases finite
    | zero sign =>
      rw [exact.eq_def (.zero sign), zero_div]
      exact nearest_zero _
    | finite sign mantissa exponent positive =>
      obtain ⟨unit, rounded, roundedAt, spelled⟩ :=
        div_even sign otherSign positive fractionPositive
      rw [exact, exact, ← signed_div]
      exact roundedAt.nearest spelled

end Level

end Attenuation
