import Attenuation.Proofs.Limits
import Attenuation.Proofs.Arithmetic

/-!
# Raw levels

The level that an attenuator commands is the sum of a finite level and a finite offset, and the sum
is rounded to a double. It is always a number, but it may be an infinity: below the least finite
double no limit stops it, and above the greatest one only a finite maximum does.
-/

namespace Attenuation

namespace Level

/-- The value of zero. -/
theorem value_zero : Level.value 0.0 = 0 := rfl

/-- A sum of finite levels is an infinity only if both levels are on its side of zero. -/
theorem sum_notFinite {level offset : Level} (finite : level.isFinite)
    (offsetFinite : offset.isFinite)
    (infinite : (level + offset).isFinite = false) :
    (level + offset < 0.0 ∧ level < 0.0 ∧ offset < 0.0) ∨
      ((0.0 < level + offset ∧ 0.0 < level ∧ 0.0 < offset) ∧ (level + offset).value = beyond) := by
  have nearest := add_nearest finite offsetFinite
  have magnitude := abs_value_infinity nearest.isNumber infinite
  have small := abs_lt.mp (abs_value_lt finite)
  have offsetSmall := abs_lt.mp (abs_value_lt offsetFinite)
  have zero : Float.isNaN 0.0 = false := rfl
  have number := isNaN_of_isFinite finite
  have offsetNumber := isNaN_of_isFinite offsetFinite
  have above := beyond_pos
  rw [lt_iff nearest.isNumber zero, lt_iff number zero, lt_iff offsetNumber zero,
    lt_iff zero nearest.isNumber, lt_iff zero number, lt_iff zero offsetNumber, value_zero]
  rcases abs_cases (level + offset).value with ⟨same, -⟩ | ⟨same, -⟩
  · right
    refine ⟨⟨by linarith, ?_, ?_⟩, by linarith⟩
    · by_contra! below
      linarith [nearest.ge_of_ge offset (by linarith)]
    · by_contra! below
      linarith [nearest.ge_of_ge level (by linarith)]
  · left
    refine ⟨by linarith, ?_, ?_⟩
    · by_contra! reached
      linarith [nearest.le_of_le offset (by linarith)]
    · by_contra! reached
      linarith [nearest.le_of_le level (by linarith)]

/-- A level that is not above a finite one is not the infinity above all. -/
theorem isFinite_of_not_lt {maximum level : Level} (number : level.isNaN = false)
    (within : ¬ maximum < level) (infinite : level.value = beyond) : maximum.isFinite = false := by
  by_contra finite
  rw [Bool.not_eq_false] at finite
  rw [lt_iff (isNaN_of_isFinite finite) number, infinite] at within
  exact within (abs_lt.mp (abs_value_lt finite)).2

end Level

namespace Lab

/-- **Raw levels overflow on the side of both summands.** Take any history and any operation after
it that does not command an instrument past the attenuators. Every command that an instrument
receives during the operation is the sum of a finite level, which the operation asked of an
attenuator, and the finite offset of that attenuator. The sum is a number. Where it is not finite,
the level and the offset have its sign; and where it is above zero, the maximum that the instrument
reports is not finite either. -/
theorem raw_levels (history : List Operation) (operation : Operation)
    (managed : operation.reachesAround = false) (id : SimulatorId) :
    let before := after history
    let later := before.perform operation
    ∃ kept received, kept <+: before.bench.log id ∧ later.bench.log id = kept ++ received ∧
      ∀ index raw, .set index raw ∈ received →
        ∃ attenuator value maximum, operation.Asks before.held attenuator value ∧
          value.isFinite ∧ attenuator.offset.isFinite ∧ raw = value + attenuator.offset ∧
          (later.bench.simulator id).maximum = some maximum ∧ raw.isNaN = false ∧
          (raw.isFinite = false →
            (raw < 0.0 ∧ value < 0.0 ∧ attenuator.offset < 0.0) ∨
            ((0.0 < raw ∧ 0.0 < value ∧ 0.0 < attenuator.offset) ∧ maximum.isFinite = false)) := by
  intro before later
  obtain ⟨kept, received, front, logged, admitted⟩ :=
    received_admitted history operation managed id
  refine ⟨kept, received, front, logged, fun index raw member => ?_⟩
  obtain ⟨⟨⟨attenuator, value, asked, calibrated, -, -, finite, rfl⟩, maximum, known, within⟩, -⟩ :=
    admitted index raw member
  have number := (Level.add_nearest finite calibrated.offset).isNumber
  refine ⟨attenuator, value, maximum, asked, finite, calibrated.offset, rfl, known, number,
    fun infinite => ?_⟩
  exact (Level.sum_notFinite finite calibrated.offset infinite).imp_right fun ⟨sides, top⟩ =>
    ⟨sides, Level.isFinite_of_not_lt number within top⟩

/-- The level of minus two to the power of 1023. -/
def depth : Level := Float.ofBits 0xFFE0000000000000

/-- An instrument with one channel up to 60 dB, a session to it, and an attenuator of the channel
whose offset is far below zero. -/
def farBelow : List Operation :=
  [.addSimulator ⟨"SIM-1", 1, some 60.0, none⟩, .openSession 0 Trap.none,
    .createAttenuator 0 0 depth]

/-- A level as far below zero as that offset is a command that is not finite, and the instrument
receives it. -/
theorem raw_level_notFinite :
    depth.isFinite ∧ (after farBelow).bench.log 0 = [] ∧
      ((after farBelow).perform (.setLevel (.own 0) depth)).bench.log 0 = [.set 0 (depth + depth)] ∧
      (depth + depth).isFinite = false := by
  refine ⟨?_, ?_, ?_, ?_⟩ <;> rfl

/-- The command that is not finite is below zero, and so are the level that was asked for and the
offset. -/
theorem raw_levels_farBelow :
    ∃ value offset : Level, depth + depth = value + offset ∧ value < 0.0 ∧ offset < 0.0 := by
  have sent : ((after farBelow).perform (.setLevel (.own 0) depth)).bench.log 0 =
      [.set 0 (depth + depth)] := by rfl
  have unlogged : (after farBelow).bench.log 0 = [] := by rfl
  have known : (((after farBelow).perform (.setLevel (.own 0) depth)).bench.simulator 0).maximum =
      some 60.0 := by rfl
  obtain ⟨kept, received, front, logged, sums⟩ :=
    raw_levels farBelow (.setLevel (.own 0) depth) rfl 0
  rw [unlogged, List.prefix_nil] at front
  rw [front, List.nil_append, sent] at logged
  have member : Call.set 0 (depth + depth) ∈ received := by
    rw [← logged]
    exact List.mem_singleton_self _
  obtain ⟨attenuator, value, maximum, -, -, -, sum, reported, -, sides⟩ :=
    sums 0 (depth + depth) member
  rw [known] at reported
  cases reported
  rcases sides rfl with ⟨-, below, offsetBelow⟩ | ⟨-, infinite⟩
  · exact ⟨value, attenuator.offset, sum, below, offsetBelow⟩
  · cases infinite

end Lab

end Attenuation
