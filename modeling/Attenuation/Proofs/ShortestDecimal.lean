import Attenuation.Proofs.Nearest
import Attenuation.Proofs.WrittenNumber

/-!
# What the shortest decimal is close to

The reals that round to the magnitude of a double are an interval around it, whose ends belong to it
when the mantissa is even. The tests of the search for the shortest decimal are exact comparisons
with the ends of that interval, so every decimal that they pass lies in it. The least power of ten
above a magnitude is found by its binary logarithm, and seventeen digits below that power the grid
is finer than the interval is wide: the search finds a decimal of at most seventeen digits.
-/

namespace Attenuation

namespace Decimal

open Level (RoundedEven Sits twoPow_add twoPow_le twoPow_natCast twoPow_pos)

/-- The value of a decimal. -/
def Numeral.value (d : Numeral) : ℚ := d.digits * 10 ^ d.exponent

/-- The value of a magnitude. -/
def Binary.value (x : Binary) : ℚ := x.mantissa * 2 ^ x.exponent

/-- A power of ten is a positive rational. -/
theorem tenPow_pos (exponent : ℤ) : (0 : ℚ) < 10 ^ exponent := zpow_pos (by norm_num) exponent

/-- Powers of ten grow with their exponents. -/
theorem tenPow_le {small large : ℤ} (le : small ≤ large) : (10 : ℚ) ^ small ≤ 10 ^ large :=
  zpow_le_zpow_right₀ (by norm_num) le

/-- Powers of ten that grow have growing exponents. -/
theorem exponent_lt_of_tenPow_lt {small large : ℤ} (less : (10 : ℚ) ^ small < 10 ^ large) :
    small < large := (zpow_lt_zpow_iff_right₀ (by norm_num)).mp less

/-- Powers of ten multiply by adding their exponents. -/
theorem tenPow_add (first second : ℤ) : (10 : ℚ) ^ (first + second) = 10 ^ first * 10 ^ second :=
  zpow_add₀ (by norm_num) first second

/-- A power whose exponent is made natural on both sides of a quotient. -/
theorem zpow_mul_toNat {base : ℚ} (nonzero : base ≠ 0) (exponent : ℤ) :
    base ^ exponent * base ^ (-exponent).toNat = base ^ exponent.toNat := by
  rw [← zpow_natCast, ← zpow_natCast, ← zpow_add₀ nonzero]
  congr 1
  omega

/-- A decimal is compared with a magnitude by their values. -/
theorem compareScaled_eq (digits : Nat) (ten : ℤ) (mantissa : Nat) (two : ℤ) :
    compareScaled digits ten mantissa two =
      compare ((digits : ℚ) * 10 ^ ten) (mantissa * 2 ^ two) := by
  have scale : (0 : ℚ) < 10 ^ (-ten).toNat * 2 ^ (-two).toNat := by positivity
  have left : ((digits * tenTo ten.toNat * twoTo (-two).toNat : Nat) : ℚ) =
      digits * 10 ^ ten * (10 ^ (-ten).toNat * 2 ^ (-two).toNat) := by
    change ((digits * 10 ^ ten.toNat * 2 ^ (-two).toNat : Nat) : ℚ) = _
    push_cast
    rw [← zpow_mul_toNat (by norm_num) ten]
    ring
  have right : ((mantissa * twoTo two.toNat * tenTo (-ten).toNat : Nat) : ℚ) =
      mantissa * 2 ^ two * (10 ^ (-ten).toNat * 2 ^ (-two).toNat) := by
    change ((mantissa * 2 ^ two.toNat * 10 ^ (-ten).toNat : Nat) : ℚ) = _
    push_cast
    rw [← zpow_mul_toNat (by norm_num) two]
    ring
  unfold compareScaled
  rcases lt_trichotomy ((digits : ℚ) * 10 ^ ten) (mantissa * 2 ^ two) with less | same | more
  · have scaled := mul_lt_mul_of_pos_right less scale
    rw [← left, ← right, Nat.cast_lt] at scaled
    rw [compare_lt_iff_lt.mpr less, compare_lt_iff_lt.mpr scaled]
  · have scaled := congrArg (· * ((10 : ℚ) ^ (-ten).toNat * 2 ^ (-two).toNat)) same
    rw [← left, ← right, Nat.cast_inj] at scaled
    rw [compare_eq_iff_eq.mpr same, compare_eq_iff_eq.mpr scaled]
  · have scaled := mul_lt_mul_of_pos_right more scale
    rw [← left, ← right, Nat.cast_lt] at scaled
    rw [compare_gt_iff_gt.mpr more, compare_gt_iff_gt.mpr scaled]

namespace Binary

variable {x : Binary} {number : ℚ}

/-- The lower end of what rounds to a magnitude. -/
def lowest (x : Binary) : ℚ :=
  (x.mantissa - if x.narrowBelow then 1 / 4 else 1 / 2) * 2 ^ x.exponent

/-- The upper end of what rounds to a magnitude. -/
def highest (x : Binary) : ℚ := (x.mantissa + 1 / 2) * 2 ^ x.exponent

/-- A number that rounds to a magnitude. -/
structure Near (x : Binary) (number : ℚ) : Prop where
  /-- It is not below the lower end. -/
  above : x.lowest ≤ number
  /-- It is not above the upper end. -/
  below : number ≤ x.highest
  /-- With an odd mantissa it is neither of the two ends. -/
  inside : x.mantissa % 2 = 1 → x.lowest < number ∧ number < x.highest

/-- What is between the two ends rounds to the magnitude. -/
theorem near_of_between (above : x.lowest < number) (below : number < x.highest) : x.Near number :=
  ⟨above.le, below.le, fun _ => ⟨above, below⟩⟩

/-- The lower end is at most half a unit below the magnitude. -/
theorem value_sub_le_lowest (x : Binary) : x.value - 2 ^ x.exponent / 2 ≤ x.lowest := by
  have scale := twoPow_pos x.exponent
  unfold value lowest
  split <;> linarith

/-- The lower end is below the magnitude. -/
theorem lowest_lt (x : Binary) : x.lowest < x.value := by
  have scale := twoPow_pos x.exponent
  unfold value lowest
  split <;> linarith

/-- The upper end is half a unit above the magnitude. -/
theorem highest_eq (x : Binary) : x.highest = x.value + 2 ^ x.exponent / 2 := by
  unfold highest value
  ring

/-- What rounds to a magnitude is within half a unit of it. -/
theorem Near.abs_sub_le (near : x.Near number) : |number - x.value| ≤ 2 ^ x.exponent / 2 := by
  have above := near.above
  have below := near.below
  rw [highest_eq] at below
  rw [abs_le]
  constructor <;> linarith [value_sub_le_lowest x]

/-- A decimal passes the test of a magnitude exactly if it rounds to it. -/
theorem readsBack_iff (positive : 0 < x.mantissa) (d : Numeral) :
    x.readsBack d ↔ x.Near d.value := by
  have quarter : (2 : ℚ) ^ (x.exponent - 2) = 2 ^ x.exponent / 4 := by
    rw [sub_eq_add_neg, twoPow_add]
    norm_num
    ring
  have low : ((if x.narrowBelow then 4 * x.mantissa - 1 else 4 * x.mantissa - 2 : Nat) : ℚ) *
      2 ^ (x.exponent - 2) = x.lowest := by
    unfold lowest
    rw [quarter]
    split
    · rw [Nat.cast_sub (by omega)]
      push_cast
      ring
    · rw [Nat.cast_sub (by omega)]
      push_cast
      ring
  have high : ((4 * x.mantissa + 2 : Nat) : ℚ) * 2 ^ (x.exponent - 2) = x.highest := by
    unfold highest
    rw [quarter]
    push_cast
    ring
  unfold readsBack
  dsimp only
  rw [compareScaled_eq, compareScaled_eq, low, high]
  change _ ↔ x.Near (d.digits * 10 ^ d.exponent)
  generalize (d.digits : ℚ) * 10 ^ d.exponent = number
  simp only [Bool.and_eq_true, Bool.or_eq_true, beq_iff_eq, compare_gt_iff_gt, compare_eq_iff_eq,
    compare_lt_iff_lt]
  rcases Nat.mod_two_eq_zero_or_one x.mantissa with even | odd
  · simp only [even, true_and]
    constructor
    · rintro ⟨above, below⟩
      exact ⟨above.elim le_of_lt ge_of_eq, below.elim le_of_lt le_of_eq,
        fun odd => absurd (even.symm.trans odd) (by decide)⟩
    · intro near
      exact ⟨near.above.lt_or_eq.imp id Eq.symm, near.below.lt_or_eq⟩
  · simp only [odd, one_ne_zero, false_and, or_false]
    constructor
    · rintro ⟨above, below⟩
      exact near_of_between above below
    · intro near
      exact near.inside odd

/-- The greatest number of units of `10 ^ grid` up to a magnitude. -/
def gridFloor (x : Binary) (grid : ℤ) : Nat := x.gridNumerator grid / x.gridDenominator grid

/-- A magnitude lies between its two neighbours on a grid. -/
theorem gridFloor_spec (x : Binary) (grid : ℤ) :
    (x.gridFloor grid : ℚ) * 10 ^ grid ≤ x.value ∧
      x.value < ((x.gridFloor grid + 1 : Nat) : ℚ) * 10 ^ grid := by
  have positive : 0 < x.gridDenominator grid := Nat.mul_pos (twoTo_pos _) (tenTo_pos _)
  have scale : (0 : ℚ) < x.gridDenominator grid := by exact_mod_cast positive
  have unit := tenPow_pos grid
  have counted : (x.gridNumerator grid : ℚ) * 10 ^ grid = x.value * x.gridDenominator grid := by
    change ((x.mantissa * 2 ^ x.exponent.toNat * 10 ^ (-grid).toNat : Nat) : ℚ) * 10 ^ grid =
      x.mantissa * 2 ^ x.exponent * ((2 ^ (-x.exponent).toNat * 10 ^ grid.toNat : Nat) : ℚ)
    push_cast
    rw [← zpow_mul_toNat (by norm_num) x.exponent, ← zpow_mul_toNat (by norm_num) grid]
    ring
  have least : x.gridFloor grid * x.gridDenominator grid ≤ x.gridNumerator grid :=
    Nat.div_mul_le_self _ _
  have greatest : x.gridNumerator grid < (x.gridFloor grid + 1) * x.gridDenominator grid :=
    (Nat.div_lt_iff_lt_mul positive).mp (Nat.lt_succ_self _)
  constructor
  · refine le_of_mul_le_mul_right ?_ scale
    rw [← counted, mul_right_comm]
    exact mul_le_mul_of_nonneg_right (by exact_mod_cast least) unit.le
  · refine lt_of_mul_lt_mul_right ?_ scale.le
    rw [← counted, mul_right_comm]
    exact mul_lt_mul_of_pos_right (by exact_mod_cast greatest) unit

/-- The nearer of two neighbours is one of them. -/
theorem nearer_mem (tie : Tie) (numerator denominator lower : Nat) :
    nearer tie numerator denominator lower = lower ∨
      nearer tie numerator denominator lower = lower + 1 := by
  unfold nearer
  repeat' split
  all_goals first | exact .inl rfl | exact .inr rfl

/-- The decimal that is found on a grid is one of the two neighbours and rounds to the magnitude. -/
theorem onGrid_spec (positive : 0 < x.mantissa) {tie : Tie} {grid : ℤ} {d : Numeral}
    (found : x.onGrid? tie grid = some d) :
    x.Near d.value ∧ d.exponent = grid ∧ d.digits ≤ x.gridFloor grid + 1 := by
  unfold onGrid? at found
  unfold gridFloor
  dsimp only at found
  cases below : x.readsBack ⟨x.gridNumerator grid / x.gridDenominator grid, grid⟩ <;>
    cases above : x.readsBack ⟨x.gridNumerator grid / x.gridDenominator grid + 1, grid⟩ <;>
    rw [below, above] at found
  · cases found
  · cases found
    exact ⟨(readsBack_iff positive _).mp above, rfl, le_rfl⟩
  · cases found
    exact ⟨(readsBack_iff positive _).mp below, rfl, Nat.le_succ _⟩
  · cases found
    dsimp only
    rcases nearer_mem tie (x.gridNumerator grid) (x.gridDenominator grid)
      (x.gridNumerator grid / x.gridDenominator grid) with same | same <;> rw [same]
    · exact ⟨(readsBack_iff positive _).mp below, rfl, Nat.le_succ _⟩
    · exact ⟨(readsBack_iff positive _).mp above, rfl, le_rfl⟩

/-- A decimal is found on a grid where one of the two neighbours rounds to the magnitude. -/
theorem onGrid_isSome (positive : 0 < x.mantissa) (tie : Tie) {grid : ℤ}
    (near : x.Near (x.gridFloor grid * 10 ^ grid) ∨
      x.Near ((x.gridFloor grid + 1 : Nat) * 10 ^ grid)) :
    (x.onGrid? tie grid).isSome := by
  have reads : x.readsBack ⟨x.gridFloor grid, grid⟩ ∨ x.readsBack ⟨x.gridFloor grid + 1, grid⟩ :=
    near.imp (readsBack_iff positive _).mpr (readsBack_iff positive _).mpr
  unfold onGrid?
  unfold gridFloor at reads
  dsimp only
  rcases reads with below | above
  · rw [below]
    cases x.readsBack ⟨_, grid⟩ <;> rfl
  · rw [above]
    cases x.readsBack ⟨_, grid⟩ <;> rfl

end Binary

/-- A power of ten is at most a power of two by the fractions that enclose the logarithm of two. -/
theorem tenPow_le_twoPow {ten two : ℤ}
    (enclosed : (0 ≤ two ∧ 196 * ten ≤ 59 * two) ∨ (two ≤ 0 ∧ 93 * ten ≤ 28 * two)) :
    (10 : ℚ) ^ ten ≤ 2 ^ two := by
  have power (base : ℚ) (exponent : ℤ) (count : Nat) :
      (base ^ exponent) ^ count = base ^ (count * exponent) := by
    rw [← zpow_natCast, ← zpow_mul, mul_comm]
  rcases enclosed with ⟨nonneg, le⟩ | ⟨nonpos, le⟩
  · have roots : ((10 : ℚ) ^ ten) ^ 196 ≤ (2 ^ two) ^ 196 :=
      calc ((10 : ℚ) ^ ten) ^ 196 = 10 ^ (196 * ten) := power 10 ten 196
        _ ≤ 10 ^ (59 * two) := tenPow_le le
        _ = ((10 : ℚ) ^ (59 : ℤ)) ^ two := zpow_mul _ _ _
        _ ≤ ((2 : ℚ) ^ (196 : ℤ)) ^ two := zpow_le_zpow_left₀ nonneg (by norm_num) (by norm_num)
        _ = (2 ^ two) ^ 196 := by rw [← zpow_mul, power]; rfl
    exact le_of_pow_le_pow_left₀ (by decide) (twoPow_pos two).le roots
  · have close : (2 : ℚ) ^ (93 : ℤ) ≤ 10 ^ (28 : ℤ) := by norm_num
    have turned := zpow_le_zpow_left₀ (show 0 ≤ -two by omega) (by norm_num) close
    have inverse : ((10 : ℚ) ^ (28 : ℤ)) ^ two ≤ ((2 : ℚ) ^ (93 : ℤ)) ^ two := by
      rw [zpow_neg, zpow_neg] at turned
      exact (inv_le_inv₀ (by positivity) (by positivity)).mp turned
    have roots : ((10 : ℚ) ^ ten) ^ 93 ≤ (2 ^ two) ^ 93 :=
      calc ((10 : ℚ) ^ ten) ^ 93 = 10 ^ (93 * ten) := power 10 ten 93
        _ ≤ 10 ^ (28 * two) := tenPow_le le
        _ = ((10 : ℚ) ^ (28 : ℤ)) ^ two := zpow_mul _ _ _
        _ ≤ ((2 : ℚ) ^ (93 : ℤ)) ^ two := inverse
        _ = (2 ^ two) ^ 93 := by rw [← zpow_mul, power]; rfl
    exact le_of_pow_le_pow_left₀ (by decide) (twoPow_pos two).le roots

/-- A power of two is at most a power of ten by the fractions that enclose the logarithm of two. -/
theorem twoPow_le_tenPow {two ten : ℤ}
    (enclosed : (0 ≤ two ∧ 28 * two ≤ 93 * ten) ∨ (two ≤ 0 ∧ 59 * two ≤ 196 * ten)) :
    (2 : ℚ) ^ two ≤ 10 ^ ten := by
  have inverse : (10 : ℚ) ^ (-ten) ≤ 2 ^ (-two) := tenPow_le_twoPow (by omega)
  rw [zpow_neg, zpow_neg] at inverse
  exact (inv_le_inv₀ (tenPow_pos ten) (twoPow_pos two)).mp inverse

/-- Two whole numbers within one half of a quotient are the same, if ties are even on one side and
away from odd numbers on the other. -/
theorem rounded_eq {rounded mantissa : Nat} {quotient : ℚ}
    (close : |(rounded : ℚ) - quotient| ≤ 1 / 2)
    (even : |(rounded : ℚ) - quotient| = 1 / 2 → rounded % 2 = 0)
    (near : |quotient - mantissa| ≤ 1 / 2)
    (inside : mantissa % 2 = 1 → |quotient - mantissa| < 1 / 2) : rounded = mantissa := by
  have apart := abs_sub_le (rounded : ℚ) quotient mantissa
  by_contra other
  have gap : (1 : ℚ) ≤ |(rounded : ℚ) - mantissa| := by
    have whole : (1 : ℤ) ≤ |(rounded : ℤ) - mantissa| :=
      Int.one_le_abs (sub_ne_zero.mpr (by exact_mod_cast other))
    exact_mod_cast whole
  have parity := even (by linarith)
  have next : |(rounded : ℤ) - mantissa| ≤ 1 := by
    have : |(rounded : ℚ) - mantissa| ≤ 1 := by linarith
    exact_mod_cast this
  have odd : mantissa % 2 = 1 := by
    have := abs_le.mp next
    omega
  linarith [inside odd]

namespace Binary

variable {x : Binary}

/-- A magnitude that a double other than zero has. -/
structure OfDouble (x : Binary) : Prop extends Sits x.mantissa x.exponent where
  /-- It is not zero. -/
  positive : 0 < x.mantissa
  /-- Its exponent is not too large. -/
  ceiling : x.exponent ≤ 971
  /-- The gap below is the narrower one at the powers of two above the least exponent. -/
  narrow : x.narrowBelow ↔ x.mantissa = 2 ^ 52 ∧ -1074 < x.exponent

/-- A double other than zero is taken apart into a magnitude of a double. -/
theorem ofDouble_of_parts {level : Level} {negative : Bool}
    (parts : Parts.ofFloat level = .finite negative x) (nonzero : x.mantissa ≠ 0) :
    x.OfDouble := by
  unfold Parts.ofFloat at parts
  dsimp only at parts
  have fractionBits : level.toBits.toNat % twoTo 52 < 2 ^ 52 := Nat.mod_lt _ (by decide)
  have biasedBits : level.toBits.toNat / twoTo 52 % twoTo 11 < 2 ^ 11 := Nat.mod_lt _ (by decide)
  generalize level.toBits.toNat % twoTo 52 = fraction at parts fractionBits
  generalize level.toBits.toNat / twoTo 52 % twoTo 11 = biased at parts biasedBits
  have whole : twoTo 52 = 2 ^ 52 := rfl
  split at parts
  · split at parts <;> cases parts
  · rename_i ordinary
    change biased ≠ 2047 at ordinary
    cases parts
    unfold ofFields at nonzero ⊢
    split
    · rename_i least
      rw [if_pos least] at nonzero
      exact ⟨⟨by dsimp only; omega, le_rfl, .inr rfl⟩, Nat.pos_of_ne_zero nonzero,
        by dsimp only; omega, by simp⟩
    · rename_i above
      rw [whole]
      refine ⟨⟨by dsimp only; omega, by dsimp only; omega, .inl (Nat.le_add_right _ _)⟩,
        by dsimp only; omega, by dsimp only; omega, ?_⟩
      simp only [Bool.and_eq_true, decide_eq_true_eq]
      omega

/-- A magnitude is below a power of ten if its value is. -/
theorem below_iff (x : Binary) (power : ℤ) : x.below power ↔ x.value < 10 ^ power := by
  unfold below
  rw [compareScaled_eq, beq_iff_eq, compare_gt_iff_gt, Nat.cast_one, one_mul]
  rfl

namespace OfDouble

/-- A magnitude lies in the binade of its binary logarithm. -/
theorem binade (double : x.OfDouble) :
    2 ^ ((x.mantissa.log2 : ℤ) + x.exponent) ≤ x.value ∧
      x.value < 2 ^ ((x.mantissa.log2 : ℤ) + x.exponent + 1) := by
  have scale := twoPow_pos x.exponent
  have least : (2 : ℚ) ^ (x.mantissa.log2 : ℤ) ≤ x.mantissa := by
    rw [twoPow_natCast]
    exact_mod_cast Nat.log2_self_le double.positive.ne'
  have greatest : (x.mantissa : ℚ) < 2 ^ ((x.mantissa.log2 + 1 : Nat) : ℤ) := by
    rw [twoPow_natCast]
    exact_mod_cast Nat.lt_log2_self
  constructor
  · rw [twoPow_add]
    exact mul_le_mul_of_nonneg_right least scale.le
  · rw [add_right_comm, twoPow_add]
    exact mul_lt_mul_of_pos_right greatest scale

/-- The binary logarithm of a magnitude is that of a double. -/
theorem log2_bounds (double : x.OfDouble) :
    -1074 ≤ (x.mantissa.log2 : ℤ) + x.exponent ∧ (x.mantissa.log2 : ℤ) + x.exponent ≤ 1023 := by
  have short : x.mantissa.log2 < 53 := (Nat.log2_lt double.positive.ne').mpr double.fits
  have floor := double.floor
  have ceiling := double.ceiling
  omega

/-- The scale of a magnitude is the least power of ten above it. -/
theorem scale_spec (double : x.OfDouble) :
    10 ^ (x.scale - 1) ≤ x.value ∧ x.value < 10 ^ x.scale := by
  obtain ⟨low, high⟩ := double.binade
  obtain ⟨floor, ceiling⟩ := double.log2_bounds
  unfold scale
  generalize (x.mantissa.log2 : ℤ) + x.exponent = binary at *
  obtain ⟨estimate, same⟩ : ∃ estimate, estimate = binary * 30103 / 100000 := ⟨_, rfl⟩
  have least : 10 ^ (estimate - 1) ≤ x.value := (tenPow_le_twoPow (by omega)).trans low
  have greatest : x.value < 10 ^ (estimate + 3) := high.trans_le (twoPow_le_tenPow (by omega))
  dsimp only
  rw [← same]
  simp only [below_iff]
  split_ifs with first second third
  · exact ⟨least, first⟩
  · exact ⟨by rw [add_sub_cancel_right]; exact not_lt.mp first, second⟩
  · exact ⟨by rw [show estimate + 2 - 1 = estimate + 1 by omega]; exact not_lt.mp second, third⟩
  · exact ⟨by rw [show estimate + 3 - 1 = estimate + 2 by omega]; exact not_lt.mp third, greatest⟩

/-- Seventeen digits below the scale a neighbour on the grid rounds to the magnitude. -/
theorem onGrid_seventeen (double : x.OfDouble) (tie : Tie) :
    (x.onGrid? tie (x.scale - 17)).isSome := by
  apply onGrid_isSome double.positive
  have scale := twoPow_pos x.exponent
  have least := double.scale_spec.1
  rw [show x.scale - 1 = 16 + (x.scale - 17) by omega, tenPow_add] at least
  obtain ⟨low, high⟩ := x.gridFloor_spec (x.scale - 17)
  push_cast at high ⊢
  generalize x.gridFloor (x.scale - 17) = count at *
  generalize (10 : ℚ) ^ (x.scale - 17) = unit at *
  have value : x.value = x.mantissa * 2 ^ x.exponent := rfl
  have below := x.highest_eq
  by_cases narrow : x.narrowBelow
  · -- The gap below is narrow, but the upper neighbour is less than half a unit away.
    have power : (x.mantissa : ℚ) = 2 ^ 52 := by exact_mod_cast (double.narrow.mp narrow).1
    rw [power] at value
    norm_num at least value
    exact .inr (near_of_between (x.lowest_lt.trans high) (by linarith))
  · have fits : (x.mantissa : ℚ) * 2 ^ x.exponent ≤ 2 ^ 53 * 2 ^ x.exponent :=
      mul_le_mul_of_nonneg_right (by exact_mod_cast double.fits.le) scale.le
    have above : x.lowest = x.value - 2 ^ x.exponent / 2 := by
      unfold lowest
      rw [if_neg narrow, value]
      ring
    norm_num at least fits
    -- The neighbours are less than one unit apart, and the nearer one is less than half of it away.
    rcases le_or_gt (x.value - count * unit) ((count + 1) * unit - x.value) with lower | upper
    · exact .inl (near_of_between (by linarith) (by linarith))
    · exact .inr (near_of_between (by linarith) (by linarith))

/-- A number that rounds to a magnitude is below the power of two above its binade. -/
theorem lt_of_near (double : x.OfDouble) {number : ℚ} (near : x.Near number) :
    number < 2 ^ (53 + x.exponent) := by
  have fits : (x.mantissa : ℚ) + 1 ≤ 2 ^ (53 : ℤ) := by
    rw [show (53 : ℤ) = ((53 : Nat) : ℤ) from rfl, twoPow_natCast]
    exact_mod_cast double.fits
  calc number ≤ (x.mantissa + 1 / 2) * 2 ^ x.exponent := near.below
    _ < 2 ^ (53 : ℤ) * 2 ^ x.exponent :=
        mul_lt_mul_of_pos_right (by linarith) (twoPow_pos _)
    _ = 2 ^ (53 + x.exponent) := (twoPow_add _ _).symm

/-- A number in the narrow gap below a power of two is rounded to that power of two. -/
theorem eq_of_rounded_finer (double : x.OfDouble) {number : ℚ} {unit : ℤ} {rounded : Nat}
    (near : x.Near number) (even : RoundedEven number unit rounded) (finer : unit < x.exponent) :
    (rounded : ℚ) * 2 ^ unit = x.value := by
  have scale := twoPow_pos x.exponent
  have part := twoPow_pos unit
  have above : -1074 < x.exponent := even.floor.trans_lt finer
  have least : 2 ^ 52 ≤ x.mantissa := double.full.resolve_right above.ne'
  have low := near.above
  have below : number < 2 ^ (52 : ℤ) * 2 ^ x.exponent := by
    rw [← twoPow_add]
    exact even.below.trans_le (twoPow_le (by omega))
  have power : x.mantissa = 2 ^ 52 := by
    by_contra other
    have more : ((2 ^ 52 + 1 : Nat) : ℚ) ≤ x.mantissa := by
      exact_mod_cast (show 2 ^ 52 + 1 ≤ x.mantissa by omega)
    have bound : _ ≤ x.value := mul_le_mul_of_nonneg_right more scale.le
    push_cast at bound
    norm_num at bound below
    linarith [x.value_sub_le_lowest]
  unfold lowest at low
  rw [if_pos (double.narrow.mpr ⟨power, above⟩), power] at low
  norm_num at low below
  have next : unit = x.exponent - 1 := by
    by_contra other
    have short := even.below.trans_le (twoPow_le (show 53 + unit ≤ 51 + x.exponent by omega))
    rw [twoPow_add 51] at short
    norm_num at short
    linarith
  have halved : (2 : ℚ) ^ x.exponent = 2 * 2 ^ unit := by
    rw [next, show x.exponent = 1 + (x.exponent - 1) by omega, twoPow_add 1, zpow_one]
    norm_num
  rw [halved] at low below
  have ratio : |number / 2 ^ unit - ((2 ^ 53 : Nat) : ℚ)| ≤ 1 / 2 := by
    have lower : 18014398509481983 / 2 ≤ number / 2 ^ unit := by
      rw [le_div_iff₀ part]
      linarith
    have upper : number / 2 ^ unit ≤ 9007199254740992 := by
      rw [div_le_iff₀ part]
      linarith
    norm_num
    rw [abs_le]
    constructor <;> linarith
  rw [rounded_eq even.close even.even ratio nofun]
  unfold value
  rw [power, halved]
  push_cast
  ring

/-- **What rounds to a magnitude is rounded to it.** The exponent that a number is rounded at is
that of the magnitude, or the one below it where the number is in the narrow gap below a power of
two. -/
theorem eq_of_rounded (double : x.OfDouble) {number : ℚ} {unit : ℤ} {rounded : Nat}
    (near : x.Near number) (even : RoundedEven number unit rounded) :
    (rounded : ℚ) * 2 ^ unit = x.value := by
  rcases lt_trichotomy unit x.exponent with finer | rfl | coarser
  · exact double.eq_of_rounded_finer near even finer
  · have scale := twoPow_pos x.exponent
    have apart : |number / 2 ^ x.exponent - x.mantissa| =
        |number - x.value| / 2 ^ x.exponent := by
      unfold value
      rw [← abs_of_pos scale, ← abs_div, abs_of_pos scale, sub_div,
        mul_div_cancel_right₀ _ scale.ne']
    have close : |number / 2 ^ x.exponent - x.mantissa| ≤ 1 / 2 := by
      rw [apart, div_le_iff₀ scale]
      linarith [near.abs_sub_le]
    have inside (odd : x.mantissa % 2 = 1) : |number / 2 ^ x.exponent - x.mantissa| < 1 / 2 := by
      obtain ⟨above, below⟩ := near.inside odd
      rw [highest_eq] at below
      rw [apart, div_lt_iff₀ scale, abs_lt]
      constructor <;> linarith [x.value_sub_le_lowest]
    rw [rounded_eq even.close even.even close inside]
    rfl
  · have above := even.above.resolve_right (by have := double.floor; omega)
    have order : (2 : ℚ) ^ (53 + x.exponent) ≤ 2 ^ (52 + unit) := twoPow_le (by omega)
    exact absurd (double.lt_of_near near) (order.trans above).not_gt

end OfDouble

end Binary

namespace Numeral

/-- Moving zeros into the exponent keeps the value, and makes no digits and no smaller exponent. -/
theorem trim_spec (fuel : Nat) (d : Numeral) :
    (d.trim fuel).value = d.value ∧ (d.trim fuel).digits ≤ d.digits ∧
      d.exponent ≤ (d.trim fuel).exponent := by
  induction fuel generalizing d with
  | zero => exact ⟨rfl, le_rfl, le_rfl⟩
  | succ fuel hypothesis =>
    rw [trim]
    by_cases ends : d.digits % 10 = 0 && d.digits != 0
    · rw [if_pos ends]
      obtain ⟨value, digits, exponent⟩ := hypothesis ⟨d.digits / 10, d.exponent + 1⟩
      simp only [Bool.and_eq_true, decide_eq_true_eq] at ends
      refine ⟨value.trans ?_, digits.trans (Nat.div_le_self _ _), by dsimp only at exponent; omega⟩
      have split : (d.digits : ℚ) = (d.digits / 10 : Nat) * 10 := by
        exact_mod_cast (Nat.div_mul_cancel (Nat.dvd_of_mod_eq_zero ends.1)).symm
      unfold Numeral.value
      dsimp only
      rw [split, tenPow_add, zpow_one]
      ring
    · rw [if_neg ends]
      exact ⟨rfl, le_rfl, le_rfl⟩

/-- A decimal is at least the power of ten of its leading digit, and below the next one. -/
theorem leading_spec {d : Numeral} (positive : 0 < d.digits) :
    10 ^ d.leading ≤ d.value ∧ d.value < 10 ^ (d.leading + 1) := by
  have unit := tenPow_pos d.exponent
  obtain ⟨count, length⟩ : ∃ count, (Nat.toDigits 10 d.digits).length = count + 1 :=
    Nat.exists_eq_add_one.mpr Nat.length_toDigits_pos
  have short : d.digits < 10 ^ (count + 1) :=
    (Nat.length_toDigits_le_iff (by decide) (Nat.succ_pos _)).mp length.le
  have long : 10 ^ count ≤ d.digits := by
    rcases Nat.eq_zero_or_pos count with rfl | more
    · exact positive
    · by_contra! fewer
      have := (Nat.length_toDigits_le_iff (by decide) more).mpr fewer
      omega
  have leading : d.leading = (count : ℤ) + d.exponent := by
    unfold Numeral.leading
    omega
  unfold Numeral.value
  constructor
  · rw [leading, tenPow_add, zpow_natCast]
    exact mul_le_mul_of_nonneg_right (by exact_mod_cast long) unit.le
  · rw [leading, add_right_comm, tenPow_add, ← Nat.cast_succ, zpow_natCast]
    exact mul_lt_mul_of_pos_right (by exact_mod_cast short) unit

/-- What is collected from the text of a decimal has its value. -/
theorem value_collected (d : Numeral) : d.collected.value = d.value := by
  unfold collected
  split
  · rename_i whole
    simp only [Bool.and_eq_true, decide_eq_true_eq] at whole
    change ((10 * (d.digits * 10 ^ d.exponent.toNat) : Nat) : ℚ) * 10 ^ (-1 : ℤ) =
      d.digits * 10 ^ d.exponent
    push_cast
    rw [← zpow_natCast, Int.toNat_of_nonneg whole.2]
    norm_num
    ring
  · rfl

end Numeral

namespace Binary.OfDouble

variable {x : Binary}

/-- The shortest decimal rounds to the magnitude, has at most seventeen digits, and ends at most
seventeen places below the scale. -/
theorem shortest_spec (double : x.OfDouble) (tie : Tie) :
    x.Near (x.shortest tie).value ∧ (x.shortest tie).digits ≤ 10 ^ 17 ∧
      x.scale - 17 ≤ (x.shortest tie).exponent := by
  unfold shortest
  dsimp only
  cases search : (List.range 17).findSome? fun (length : Nat) =>
      x.onGrid? tie (x.scale - (length + 1 : Nat)) with
  | none =>
    have nowhere := List.findSome?_eq_none_iff.mp search 16 (by decide)
    rw [show x.scale - (16 + 1 : Nat) = x.scale - 17 by omega] at nowhere
    have found := double.onGrid_seventeen tie
    rw [nowhere] at found
    cases found
  | some d =>
    obtain ⟨length, listed, found⟩ := List.exists_of_findSome?_eq_some search
    have longest : length < 17 := List.mem_range.mp listed
    obtain ⟨near, grid, digits⟩ := onGrid_spec double.positive found
    obtain ⟨value, fewer, exponent⟩ := d.trim_spec (Nat.toDigits 10 d.digits).length
    rw [Option.getD_some, value]
    refine ⟨near, ?_, by omega⟩
    have floor := (x.gridFloor_spec (x.scale - (length + 1 : Nat))).1.trans_lt double.scale_spec.2
    rw [show x.scale = (length + 1 : Nat) + (x.scale - (length + 1 : Nat)) by omega,
      tenPow_add, add_sub_cancel_left] at floor
    have below := lt_of_mul_lt_mul_right floor (tenPow_pos _).le
    rw [zpow_natCast] at below
    have count : x.gridFloor (x.scale - (length + 1 : Nat)) < 10 ^ (length + 1) := by
      exact_mod_cast below
    have power : 10 ^ (length + 1) ≤ 10 ^ 17 := Nat.pow_le_pow_right (by decide) longest
    omega

/-- What rounds to a magnitude of a double is below the least power of ten above the doubles. -/
theorem lt_tenPow_of_near (double : x.OfDouble) {number : ℚ} (near : x.Near number) :
    number < 10 ^ (309 : ℤ) :=
  calc number < 2 ^ (53 + x.exponent) := double.lt_of_near near
    _ ≤ 2 ^ (1024 : ℤ) := twoPow_le (by have := double.ceiling; omega)
    _ ≤ 10 ^ (309 : ℤ) := twoPow_le_tenPow (by decide)

/-- The scale of a magnitude of a double is not below that of the least one. -/
theorem scale_ge (double : x.OfDouble) : -323 ≤ x.scale := by
  have least : (10 : ℚ) ^ (-324 : ℤ) ≤ x.value :=
    calc (10 : ℚ) ^ (-324 : ℤ) ≤ 2 ^ (-1074 : ℤ) := tenPow_le_twoPow (by decide)
      _ ≤ 2 ^ ((x.mantissa.log2 : ℤ) + x.exponent) := twoPow_le double.log2_bounds.1
      _ ≤ x.value := double.binade.1
  have := exponent_lt_of_tenPow_lt (least.trans_lt double.scale_spec.2)
  omega

/-- The leading digit of the shortest decimal, and the last one, are where those of doubles are. -/
theorem places (double : x.OfDouble) (tie : Tie) :
    -340 ≤ (x.shortest tie).exponent ∧ (x.shortest tie).exponent ≤ (x.shortest tie).leading ∧
      (x.shortest tie).leading ≤ 308 := by
  obtain ⟨near, -, exponent⟩ := double.shortest_spec tie
  have scale := double.scale_ge
  have leading := (Numeral.leading_spec (shortest_pos double.positive.ne' tie)).1
  have top := exponent_lt_of_tenPow_lt (leading.trans_lt (double.lt_tenPow_of_near near))
  have length : 0 < (Nat.toDigits 10 (x.shortest tie).digits).length := Nat.length_toDigits_pos
  refine ⟨by omega, ?_, by omega⟩
  unfold Numeral.leading
  omega

/-- What is collected from the text of a magnitude rounds to the magnitude, has digits that fit
sixty-four bits, and a power of ten that doubles have. -/
theorem written_spec (double : x.OfDouble) :
    x.Near x.written.value ∧ 0 < x.written.digits ∧ x.written.digits ≤ 10 ^ 17 ∧
      -340 ≤ x.written.exponent ∧ x.written.exponent ≤ 308 := by
  obtain ⟨near, digits, -⟩ := double.shortest_spec .toEven
  obtain ⟨last, order, leading⟩ := double.places .toEven
  have positive := shortest_pos double.positive.ne' .toEven
  unfold written
  rw [if_neg double.positive.ne', Numeral.value_collected]
  generalize x.shortest .toEven = d at *
  refine ⟨near, ?_⟩
  unfold Numeral.collected
  split
  · rename_i positional
    simp only [Bool.and_eq_true, decide_eq_true_eq] at positional
    have power : 0 < tenTo d.exponent.toNat := tenTo_pos _
    -- A whole number that is written without a power of ten is below `10 ^ 16`.
    have small : ((d.digits * tenTo d.exponent.toNat : Nat) : ℚ) < 10 ^ (16 : ℤ) := by
      have value : ((d.digits * tenTo d.exponent.toNat : Nat) : ℚ) = d.value := by
        change ((d.digits * 10 ^ d.exponent.toNat : Nat) : ℚ) = d.digits * 10 ^ d.exponent
        push_cast
        rw [← zpow_natCast, Int.toNat_of_nonneg positional.2]
      have first : d.leading ≤ 15 := by
        have layout := positional.1
        simp only [Layout.isPositional, Json.numberLayout, Bool.and_eq_true,
          decide_eq_true_eq] at layout
        exact layout.2
      rw [value]
      exact (Numeral.leading_spec positive).2.trans_le (tenPow_le (by omega))
    have count : d.digits * tenTo d.exponent.toNat < 10 ^ 16 := by exact_mod_cast small
    have some := Nat.mul_pos positive power
    dsimp only
    omega
  · exact ⟨positive, digits, last, by omega⟩

/-- The text of a magnitude of a double can be collected. -/
theorem legible (double : x.OfDouble) : Json.Legible x where
  fits := double.written_spec.2.2.1.trans (by decide)
  moderate := by
    obtain ⟨last, order, leading⟩ := double.places .toEven
    have bound : Json.greatestExponent = 2147483647 := rfl
    omega

end Binary.OfDouble

end Decimal

end Attenuation
