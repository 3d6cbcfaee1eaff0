import Attenuation.Proofs.Conduct
import Attenuation.Proofs.GroupCommand

/-!
# Members taken from an instrument

The channels that a selection takes from an instrument become members of a group together, or the
first of them that cannot be taken is reported and the group stays as it was. A range that includes
its last channel is turned into one that stops in front of the channel behind it. There is no channel
number behind the greatest one, so a range that ends there loses its last channel.
-/

namespace Attenuation

/-- The first of some channels that an instrument does not have. -/
def Simulator.missing? (simulator : Simulator) (indices : List Nat) : Option Nat :=
  indices.find? fun index => simulator.channelCount ≤ index

namespace Attenuator

/-- A channel of an instrument without an offset and without a path. -/
def ofChannel (session : SessionId) (model : String) (index : Nat) : Attenuator :=
  ⟨session, model, index, 0.0, none⟩

variable {session : SessionId} {bench : Bench} {instrument : Simulator}

/-- The attenuators of several channels are created through a free session, unless the instrument
does not have all of them; the first that it does not have is reported. -/
theorem run_mapM_create (free : (bench.session session).poisoned = false)
    (behind : bench.simulator (bench.session session).simulator = instrument)
    (indices : List Nat) :
    (indices.mapM fun index => create session index 0.0).run bench =
      (match instrument.missing? indices with
        | some index => .failed (.indexOutOfRange index instrument.channelCount)
        | none => .done (indices.map (ofChannel session instrument.model)), bench) := by
  unfold Simulator.missing?
  induction indices with
  | nil => rfl
  | cons index rest ih =>
    have created := run_create session index 0.0 bench
    rw [show Float.isFinite 0.0 = true from rfl, if_pos rfl, free, behind,
      if_neg Bool.false_ne_true] at created
    dsimp only at created
    rw [List.mapM_cons, List.find?_cons]
    by_cases missing : instrument.channelCount ≤ index
    · rw [if_pos missing] at created
      rw [Action.run_bind_failed _ created, decide_eq_true missing]
    · rw [if_neg missing] at created
      rw [Action.run_bind_done _ created, decide_eq_false missing, Action.run_bind, ih]
      cases rest.find? fun index => instrument.channelCount ≤ index <;> rfl

end Attenuator

namespace Group

variable {session : SessionId} {bench : Bench}

/-- How taking channels of an instrument ends when it has all of them: they are members behind the
ones before, in the order in which they were taken, and only that is recorded. -/
def gained (group : Group) (session : SessionId) (bench : Bench) (indices : List Nat) :
    Outcome Fault Group × Bench :=
  let model := (bench.simulator (bench.session session).simulator).model
  let taken := indices.map (Attenuator.ofChannel session model)
  (.done { group with members := group.members ++ taken },
    bench.record (taken.map group.additionEvent))

/-- The selected channels of an instrument become members, unless the instrument does not have all
of them; the first that it does not have is reported, and nothing else happens. -/
theorem run_addFrom (free : (bench.session session).poisoned = false) {instrument : Simulator}
    (behind : bench.simulator (bench.session session).simulator = instrument) (group : Group)
    (selection : Selection) :
    (group.addFrom session selection).run bench =
      match instrument.missing? selection.indices with
      | some index => (.failed (.indexOutOfRange index instrument.channelCount), bench)
      | none => group.gained session bench selection.indices := by
  have created := Attenuator.run_mapM_create free behind selection.indices
  unfold addFrom
  cases found : instrument.missing? selection.indices with
  | none =>
    rw [found] at created
    rw [Action.run_bind_done _ created, gained, behind]
    exact run_extend group _ bench
  | some index =>
    rw [found] at created
    exact Action.run_bind_failed _ created

end Group

namespace Group

variable {session : SessionId} {bench : Bench}

end Group

namespace Selection

/-- The first channel of a range that an instrument does not have. -/
theorem missing?_range' (simulator : Simulator) (first length : Nat) :
    simulator.missing? (List.range' first length) =
      if max first simulator.channelCount < first + length then
        some (max first simulator.channelCount)
      else none := by
  unfold Simulator.missing?
  split
  · rename_i within
    rw [List.find?_range'_eq_some]
    refine ⟨decide_eq_true (Nat.le_max_right _ _), by rw [List.mem_range'_1]; omega,
      fun earlier above below => ?_⟩
    simp only [Bool.not_eq_true', decide_eq_false_iff_not]
    omega
  · rename_i beyond
    rw [List.find?_range'_eq_none]
    intro index above below
    simp only [Bool.not_eq_true', decide_eq_false_iff_not]
    omega

end Selection

namespace Group

/-- **Inclusive ranges.** A range of channels that includes its last one is taken through a free
session, all numbers being machine integers. The selection has exactly the channels from the first
to the last one, but for the greatest of all channel numbers. In front of that number the group
gains the channels of the range in order, without offsets, if the instrument has the last of them,
and otherwise the first that it does not have is reported and nothing changes. A range that ends at
the greatest number is treated as if it ended in front of it. -/
theorem addFrom_inclusive {session : SessionId} {bench : Bench}
    (free : (bench.session session).poisoned = false) (group : Group) {first last : Nat}
    (ordered : first ≤ last) (machine : last ≤ Decimal.greatestIndex) :
    let channels := (bench.simulator (bench.session session).simulator).channelCount
    let ended := (group.addFrom session (.inclusive first last)).run bench
    let unfit : Outcome Fault Group × Bench :=
      (.failed (.indexOutOfRange (max first channels) channels), bench)
    (∀ index, index ∈ (Selection.inclusive first last).indices ↔
      first ≤ index ∧ index ≤ last ∧ index ≠ Decimal.greatestIndex) ∧
    (last < Decimal.greatestIndex →
      ended = if last < channels then
        group.gained session bench (List.range' first (last + 1 - first)) else unfit) ∧
    (last = Decimal.greatestIndex →
      ended = if max first channels < last then unfit else
        group.gained session bench (List.range' first (last - first))) := by
  intro channels ended unfit
  have ran : ended = _ := run_addFrom free rfl group (.inclusive first last)
  refine ⟨fun index => ?_, fun below => ?_, fun top => ?_⟩
  · rw [Selection.inclusive, Selection.mem_indices_range]
    omega
  · have stop : min (last + 1) Decimal.greatestIndex = last + 1 := by omega
    have indices : (Selection.inclusive first last).indices =
        List.range' first (last + 1 - first) := by
      rw [Selection.inclusive, stop, Selection.indices]
    rw [ran, indices, Selection.missing?_range']
    by_cases fits : last < channels
    · rw [if_pos fits, if_neg (by omega)]
    · rw [if_neg fits, if_pos (by omega)]
  · have stop : min (last + 1) Decimal.greatestIndex = last := by omega
    have indices : (Selection.inclusive first last).indices =
        List.range' first (last - first) := by
      rw [Selection.inclusive, stop, Selection.indices]
    rw [ran, indices, Selection.missing?_range']
    by_cases within : max first channels < last
    · rw [if_pos within, if_pos (by omega)]
    · rw [if_neg within, if_neg (by omega)]

/-- A bench with an instrument of four channels. -/
def fourChannels : Bench := (Bench.empty.connect ⟨.standard, .none, false⟩).2

/-- The range of only the greatest channel number has no channel, so an instrument of four channels
is not said to lack it. -/
theorem inclusive_without_greatest :
    Decimal.greatestIndex ∉
        (Selection.inclusive Decimal.greatestIndex Decimal.greatestIndex).indices ∧
      (fourChannels.simulator 0).channelCount ≤ Decimal.greatestIndex ∧
      ((empty "outer").addFrom 0
        (.inclusive Decimal.greatestIndex Decimal.greatestIndex)).run fourChannels =
          (.done (empty "outer"), fourChannels) := by
  refine ⟨by decide, by decide, ?_⟩
  rfl

/-- Of four channels the last three can be taken, and a range that goes on is reported at the fourth
number. -/
theorem addFrom_inclusive_fourChannels :
    ((empty "outer").addFrom 0 (.inclusive 1 3)).run fourChannels =
        (empty "outer").gained 0 fourChannels [1, 2, 3] ∧
      ((empty "outer").addFrom 0 (.inclusive 2 9)).run fourChannels =
        (.failed (.indexOutOfRange 4 4), fourChannels) := by
  have free : (fourChannels.session 0).poisoned = false := rfl
  obtain ⟨-, inside, -⟩ :=
    addFrom_inclusive free (empty "outer") (show 1 ≤ 3 by decide) (by decide)
  obtain ⟨-, outside, -⟩ :=
    addFrom_inclusive free (empty "outer") (show 2 ≤ 9 by decide) (by decide)
  exact ⟨inside (by decide), outside (by decide)⟩

end Group

end Attenuation
