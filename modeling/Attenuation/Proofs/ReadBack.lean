import Attenuation.Proofs.Healthy

/-!
# What a group reads after a command

A group that accepted a level has commanded its members one after another, and where members share
a channel the last of them decided what the channel holds. What a member reads afterwards is what
that member sent, as the instrument stores it, without the offset of the member that reads. So the
group is synchronized exactly when this gives the level again for every member, which offsets that
differ, a step of the instrument, and the rounding of doubles can each prevent.
-/

namespace Attenuation

namespace Attenuator

/-- An attenuator whose reads are not meddled with: its driver does not crash on the channel, and its
instrument has no refusal of reads pending. -/
structure Unhindered (attenuator : Attenuator) (bench : Bench) : Prop where
  /-- The driver does not crash when the channel is read. -/
  readable : (bench.session attenuator.session).trap.onGet ≠ some attenuator.index
  /-- The instrument refuses no read. -/
  takesGets : (attenuator.simulator bench).refusedGets = 0

/-- Reads that are not meddled with stay so as long as the attenuator is kept. -/
theorem Unhindered.keep {attenuator : Attenuator} {before after : Bench}
    (unhindered : attenuator.Unhindered before) (kept : attenuator.Kept before after) :
    attenuator.Unhindered after where
  readable := by rw [kept.session]; exact unhindered.readable
  takesGets := (kept.field Simulator.refusedGets fun _ => rfl).trans unhindered.takesGets

end Attenuator

namespace Group

variable {group commanded : Group} {value : Level} {bench after : Bench}

/-- A group command that is done commanded a finite level that every member accepted, and the level
is remembered. -/
theorem of_set_done (done : (group.set value).run bench = (.done commanded, after)) :
    group.AcceptedBefore value bench group.size ∧
      commanded = { group with lastCommanded := value } ∧
      after = (group.reached value bench group.size).record
        [.groupSet group.name group.size value] := by
  by_cases finite : value.isFinite
  case neg =>
    rw [set, if_neg finite] at done
    cases done
  obtain ⟨count, result, accepted, ends, ran⟩ := set_endsAt group bench finite
  rw [ran] at done
  cases ends with
  | last =>
    cases done
    exact ⟨accepted, rfl, rfl⟩
  | failed => cases done
  | crashed => cases done

/-- The last member of a group on the channel of an attenuator. -/
def lastOn? (group : Group) (bench : Bench) (attenuator : Attenuator) : Option Attenuator :=
  (group.members.filter fun member =>
    member.simulatorId bench = attenuator.simulatorId bench ∧
      member.index = attenuator.index).getLast?

/-- The level of a channel after every member accepted a level comes from the last member on it. -/
theorem AcceptedBefore.holds_last (accepted : group.AcceptedBefore value bench group.size)
    {member : Attenuator} (inside : member ∈ group.members) :
    ∃ last, group.lastOn? bench member = some last ∧
      (member.simulator (group.reached value bench group.size)).values[member.index]? =
        some (Simulator.quantize (member.simulator bench).step (last.raw value)) := by
  obtain ⟨last, found, -⟩ := lastAddressing_of_mem inside bench
  have stored := accepted.stored_eq (member.simulatorId bench) member.index
  unfold storedBefore at stored
  rw [found] at stored
  refine ⟨last, ?_, ?_⟩
  · unfold lastAddressing? size at found
    rwa [List.take_length] at found
  · rw [Attenuator.simulator, accepted.simulatorId_eq]
    exact stored

/-- Members that accept a level keep every attenuator. -/
theorem AcceptedBefore.kept {position : Nat} (accepted : group.AcceptedBefore value bench position)
    (other : Attenuator) : other.Kept bench (group.reached value bench position) := by
  induction position with
  | zero => exact (Attenuator.Undisturbed.refl other bench).toKept
  | succ position ih =>
    obtain ⟨member, -, answered, same⟩ := accepted.last
    have idle := (Simulator.set_ok _ _ _ answered).1
    rw [same]
    exact (ih (accepted.mono (Nat.le_succ position))).trans
      (Attenuator.kept_driven idle value other)

/-- A member that accepted a level and whose reads are not meddled with is audible afterwards. -/
theorem AcceptedBefore.audible (accepted : group.AcceptedBefore value bench group.size)
    {member : Attenuator} (inside : member ∈ group.members)
    (unhindered : member.Unhindered bench) :
    member.Audible (group.reached value bench group.size) := by
  obtain ⟨position, found⟩ := List.mem_iff_getElem?.mp inside
  have within : position < group.size := (List.getElem?_eq_some_iff.mp found).1
  obtain ⟨other, same, done⟩ := accepted position within
  obtain rfl : other = member := Option.some.inj (same.symm.trans found)
  obtain ⟨reaches, answered⟩ := (Attenuator.set_done_iff other value _).mp done
  obtain ⟨⟨-, free, -⟩, -⟩ := Attenuator.of_passed (.inr reaches)
  have present := (Simulator.set_ok _ _ _ answered).2
  have responds := Simulator.responds_of_set_ok _ _ _ answered
  -- The member is taken back from its own turn to the start and on to the end.
  have turn := accepted.mono within.le
  have unhinderedThen := unhindered.keep (turn.kept other)
  have audible : other.Audible (group.reached value bench position) :=
    ⟨free, unhinderedThen.readable, unhinderedThen.takesGets, responds, present⟩
  exact audible.keep ((turn.kept other).symm.trans (accepted.kept other))

end Group

end Attenuation
