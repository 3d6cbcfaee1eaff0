import Attenuation.Proofs.Arithmetic
import Attenuation.Proofs.Healthy

/-!
# The reported maximum

An attenuator reports the maximum of its instrument without its offset, which is a rounded
difference. A command compares the rounded sum of its level and the offset with the maximum. So the
report separates the levels that are accepted from the levels that are rejected up to these two
roundings. All levels below it are accepted and all levels above it add up to more than the maximum;
but a sum that is rounded down to the maximum is accepted nevertheless, and a difference that was
rounded up can be rejected itself.
-/

namespace Attenuation

namespace Level

variable {maximum offset level : Level}

/-- A level below a rounded difference adds up to less than what was subtracted from. -/
theorem add_lt_of_lt_sub (maximumFinite : maximum.isFinite) (offsetFinite : offset.isFinite)
    (below : level.value < (maximum - offset).value) :
    level.value + offset.value < maximum.value := by
  by_contra! reached
  have above := (sub_nearest maximumFinite offsetFinite).ge_of_ge level (by linarith)
  linarith

/-- A level above a rounded difference adds up to more than what was subtracted from. -/
theorem lt_add_of_sub_lt (maximumFinite : maximum.isFinite) (offsetFinite : offset.isFinite)
    (above : (maximum - offset).value < level.value) :
    maximum.value < level.value + offset.value := by
  by_contra! within
  have below := (sub_nearest maximumFinite offsetFinite).le_of_le level (by linarith)
  linarith

/-- A rounded sum is above a level exactly when the sum is above it and is not rounded to it. -/
theorem lt_add_iff (number : maximum.isNaN = false) (finite : level.isFinite)
    (offsetFinite : offset.isFinite) :
    maximum < level + offset ↔
      maximum.value < level.value + offset.value ∧ ¬ level + offset == maximum := by
  have sum := add_nearest finite offsetFinite
  rw [lt_iff number sum.isNumber, beq_iff sum.isNumber number]
  constructor
  · intro above
    refine ⟨?_, above.ne'⟩
    by_contra! within
    linarith [sum.ge_of_ge maximum within]
  · rintro ⟨above, apart⟩
    exact lt_of_le_of_ne (sum.le_of_le maximum above.le) (Ne.symm apart)

end Level

namespace Attenuator

/-- A commandable attenuator rejects exactly the finite levels that add up to more than the maximum
and are not rounded to it. -/
theorem Commandable.decided_exactly {attenuator : Attenuator} {bench : Bench}
    (commandable : attenuator.Commandable bench) {maximum value : Level}
    (known : (attenuator.simulator bench).maximum = some maximum)
    (maximumFinite : maximum.isFinite) (offsetFinite : attenuator.offset.isFinite)
    (finite : value.isFinite) :
    if value.value + attenuator.offset.value ≤ maximum.value ∨ attenuator.raw value == maximum
    then attenuator.Accepts bench value else attenuator.Rejects bench value maximum := by
  have verdict := commandable.decided known finite
  have rounded : maximum < attenuator.raw value ↔
      maximum.value < value.value + attenuator.offset.value ∧
        ¬ attenuator.raw value == maximum :=
    Level.lt_add_iff (Level.isNaN_of_isFinite maximumFinite) finite offsetFinite
  by_cases above : maximum < attenuator.raw value
  · obtain ⟨sum, apart⟩ := rounded.mp above
    rw [if_pos above] at verdict
    rw [if_neg (not_or.mpr ⟨sum.not_ge, apart⟩)]
    exact verdict
  · rw [if_neg above] at verdict
    rw [rounded, not_and_or, not_lt, not_not] at above
    rw [if_pos above]
    exact verdict

/-- **The reported maximum separates accepted from rejected levels up to rounding.** Take an
attenuator with a finite offset on which nothing is in the way of commands, whose instrument has a
finite maximum, and which reports a finite maximum. Reporting it changes nothing, and the report is
nearest to the maximum of the instrument without the offset. Every finite level below the report is
accepted. The report itself is accepted if, with the offset, it is not above the maximum or is
rounded to it, and is rejected otherwise. A finite level above the report is above the maximum with
the offset, and is rejected unless that sum is rounded to the maximum. -/
theorem reported_maximum_separates {attenuator : Attenuator} {bench after : Bench}
    (commandable : attenuator.Commandable bench) (offsetFinite : attenuator.offset.isFinite)
    {maximum reported : Level} (known : (attenuator.simulator bench).maximum = some maximum)
    (maximumFinite : maximum.isFinite)
    (told : attenuator.maximum.run bench = (.done reported, after))
    (finite : reported.isFinite) :
    after = bench ∧ reported.Nearest (maximum.value - attenuator.offset.value) ∧
    (∀ value, value.isFinite → value < reported → attenuator.Accepts bench value) ∧
    (if reported.value + attenuator.offset.value ≤ maximum.value ∨
        attenuator.raw reported == maximum then attenuator.Accepts bench reported
      else attenuator.Rejects bench reported maximum) ∧
    (∀ value, value.isFinite → reported < value →
      maximum.value < value.value + attenuator.offset.value ∧
      if attenuator.raw value == maximum then attenuator.Accepts bench value
      else attenuator.Rejects bench value maximum) := by
  have number := Level.isNaN_of_isFinite finite
  obtain ⟨rfl, rfl⟩ : reported = maximum - attenuator.offset ∧ after = bench := by
    rw [run_maximum, known, commandable.free] at told
    cases told
    exact ⟨rfl, rfl⟩
  refine ⟨rfl, Level.sub_nearest maximumFinite offsetFinite, fun value valueFinite below => ?_,
    commandable.decided_exactly known maximumFinite offsetFinite finite,
    fun value valueFinite above => ?_⟩
  · rw [Level.lt_iff (Level.isNaN_of_isFinite valueFinite) number] at below
    have within := Level.add_lt_of_lt_sub maximumFinite offsetFinite below
    simpa only [within.le, true_or, if_true] using
      commandable.decided_exactly known maximumFinite offsetFinite valueFinite
  · rw [Level.lt_iff number (Level.isNaN_of_isFinite valueFinite)] at above
    have beyond := Level.lt_add_of_sub_lt maximumFinite offsetFinite above
    refine ⟨beyond, ?_⟩
    simpa only [beyond.not_ge, false_or] using
      commandable.decided_exactly known maximumFinite offsetFinite valueFinite

/-- A bench with an instrument of one channel up to 60 dB. -/
def sixtyDecibels : Bench := (Bench.empty.connect ⟨⟨"SIM-1", 1, some 60.0, none⟩, .none, false⟩).2

/-- An attenuator of that channel. -/
def calibratedBy (offset : Level) : Attenuator := ⟨0, "SIM-1", 0, offset, none⟩

/-- Nothing is in the way of commands to that channel. -/
theorem commandable_calibratedBy (offset : Level) :
    (calibratedBy offset).Commandable sixtyDecibels where
  free := rfl
  settable := nofun
  takesSets := rfl
  responsive := List.not_mem_nil
  present := Nat.one_pos

/-- With an offset of -4.4 dB the reported maximum is itself rejected, and with one of 8.2 dB a
level above the reported maximum is accepted. -/
theorem reported_maximum_crossed :
    ((calibratedBy (-4.4)).Commandable sixtyDecibels ∧
      (calibratedBy (-4.4)).maximum.run sixtyDecibels = (.done 64.4, sixtyDecibels) ∧
      (calibratedBy (-4.4)).Rejects sixtyDecibels 64.4 60.0) ∧
    (calibratedBy 8.2).Commandable sixtyDecibels ∧
      (calibratedBy 8.2).maximum.run sixtyDecibels = (.done 51.8, sixtyDecibels) ∧
      (51.8 : Level) < 51.800000000000004 ∧
      (calibratedBy 8.2).Accepts sixtyDecibels 51.800000000000004 := by
  refine ⟨⟨commandable_calibratedBy _, ?_, ?_⟩, commandable_calibratedBy _, ?_, ?_, ?_⟩ <;> rfl

/-- With an offset of half a decibel the reported maximum is the greatest level that is accepted. -/
theorem reported_maximum_separates_halfDecibel :
    (calibratedBy 0.5).maximum.run sixtyDecibels = (.done 59.5, sixtyDecibels) ∧
      (∀ value, value.isFinite → value < 59.5 → (calibratedBy 0.5).Accepts sixtyDecibels value) ∧
      (calibratedBy 0.5).Accepts sixtyDecibels 59.5 ∧
      (calibratedBy 0.5).Rejects sixtyDecibels 59.6 60.0 := by
  have told : (calibratedBy 0.5).maximum.run sixtyDecibels = (.done 59.5, sixtyDecibels) := by rfl
  obtain ⟨-, -, below, own, above⟩ :=
    reported_maximum_separates (commandable_calibratedBy 0.5) (by rfl) (show _ = some 60.0 by rfl)
      (by rfl) told (by rfl)
  rw [if_pos (.inr (by decide))] at own
  have higher := (above 59.6 (by rfl) (by decide)).2
  rw [if_neg (by decide)] at higher
  exact ⟨told, below, own, higher⟩

end Attenuator

end Attenuation
