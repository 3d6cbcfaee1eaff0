import Attenuation.Proofs.Healthy
import Attenuation.Proofs.SimulatorHistory

/-!
# Groups that share no channel

How a command to a reliable attenuator fares does not depend on any stored level, and what a group
command leaves in a channel is what the last of its commanded members deposited there, or what was
there before. Two groups that share no channel therefore do not notice each other, also where they
share instruments and even where one of them stops at a member: their commands can be exchanged.
-/

namespace Attenuation

namespace Simulator

/-- The answer to a command does not depend on the levels that are stored. -/
theorem set_answer_congr {simulator other : Simulator}
    (settings : other.settings = simulator.settings)
    (channels : other.values.length = simulator.values.length) (index : Nat) (value : Level) :
    (other.set index value).answer = (simulator.set index value).answer := by
  have refusedSets : other.refusedSets = simulator.refusedSets :=
    (congrArg Simulator.refusedSets settings :)
  have unresponsive : other.unresponsive = simulator.unresponsive :=
    (congrArg Simulator.unresponsive settings :)
  unfold set
  simp only [log, refusedSets, unresponsive, channels]
  by_cases pending : 0 < simulator.refusedSets
  · simp only [pending, ↓reduceIte]
  by_cases silent : simulator.unresponsive.contains index
  · simp only [pending, silent, ↓reduceIte]
  by_cases inside : index < simulator.values.length
  · simp only [pending, silent, inside, ↓reduceIte]
    rfl
  · simp only [pending, silent, inside, ↓reduceIte]
    rfl

end Simulator

namespace Attenuator

variable {attenuator : Attenuator} {before after : Bench}

/-- An attenuator that is kept stays with its instrument. -/
theorem Kept.simulatorId_eq (kept : attenuator.Kept before after) :
    attenuator.simulatorId after = attenuator.simulatorId before :=
  congrArg Session.simulator kept.session

/-- An attenuator that is kept is answered as before. -/
theorem Kept.answer_eq (kept : attenuator.Kept before after) (value : Level) :
    (attenuator.response value after).answer = (attenuator.response value before).answer :=
  Simulator.set_answer_congr kept.settings kept.channels attenuator.index (attenuator.raw value)

/-- A command to an attenuator that is kept passes the checks that it passed before. -/
theorem Kept.verdict_eq (kept : attenuator.Kept before after) (value : Level) :
    attenuator.verdict value after = attenuator.verdict value before := by
  have maximum := kept.field Simulator.maximum fun _ => rfl
  unfold verdict
  rw [kept.session, maximum]

/-- A command to an attenuator that is kept ends as before. -/
theorem Kept.set_outcome (kept : attenuator.Kept before after) (value : Level) :
    ((attenuator.set value).run after).1 = ((attenuator.set value).run before).1 := by
  rw [run_set, run_set, kept.verdict_eq, kept.answer_eq]
  cases attenuator.verdict value before <;> rfl

end Attenuator

namespace Group

variable {group : Group} {value : Level} {bench other : Bench}

/-- Reliable members that are kept are commanded with the outcome that they had before. -/
theorem commandFrom_outcome (group : Group) (value : Level) {members : List Attenuator}
    (reliable : ∀ member ∈ members, member.Reliable bench)
    (kept : ∀ attenuator : Attenuator, attenuator.Kept bench other) (position : Nat) :
    ((group.commandFrom value position members).run other).1 =
      ((group.commandFrom value position members).run bench).1 := by
  induction members generalizing bench other position with
  | nil => rfl
  | cons member rest ih =>
    have sure := reliable member List.mem_cons_self
    have same := (kept member).set_outcome value
    have here := (sure.set_keeps value).2
    have there := ((sure.keep (kept member)).set_keeps value).2
    unfold commandFrom
    rw [Action.run_bind, Action.run_attempt, Action.run_bind, Action.run_attempt]
    cases ended : (member.set value).run bench with
    | mk outcome after =>
      cases repeated : (member.set value).run other with
      | mk again left =>
        rw [ended, repeated] at same
        rw [ended] at here
        rw [repeated] at there
        cases same
        cases outcome with
        | crashed => rfl
        | failed source => rfl
        | done =>
          refine ih (fun later inside => ?_) (fun attenuator => ?_) (position + 1)
          · have unchanged := reliable later (List.mem_cons_of_mem _ inside)
            exact unchanged.keep (here later)
          · exact ((here attenuator).symm.trans (kept attenuator)).trans (there attenuator)

/-- A group of reliable members that are kept is commanded with the outcome that it had before. -/
theorem set_outcome (reliable : ∀ member ∈ group.members, member.Reliable bench)
    (kept : ∀ attenuator : Attenuator, attenuator.Kept bench other) (value : Level) :
    ((group.set value).run other).1 = ((group.set value).run bench).1 := by
  have same := group.commandFrom_outcome value reliable kept 0
  unfold set
  by_cases finite : value.isFinite
  · rw [if_pos finite, Action.run_bind, Action.run_bind]
    cases ended : (group.commandFrom value 0 group.members).run bench with
    | mk outcome after =>
      cases repeated : (group.commandFrom value 0 group.members).run other with
      | mk again left =>
        rw [ended, repeated] at same
        cases same
        cases outcome <;> rfl
  · rw [if_neg finite]
    rfl

/-- How many members accepted a group command, by its outcome. Nothing is known of a crash. -/
def accepted (group : Group) : Outcome GroupStop Group → Nat
  | .done _ => group.size
  | .failed stop => stop.member
  | .crashed => 0

/-- The level that the last of the first members of a group that addresses a channel deposits there,
rounded by the instrument, if one of them addresses it. -/
def deposit? (group : Group) (value : Level) (bench : Bench) (count : Nat) (id : SimulatorId)
    (index : Nat) : Option Level :=
  (group.lastAddressing? bench count id index).map fun member =>
    Simulator.quantize (bench.simulator id).step (member.raw value)

/-- A channel holds what was deposited there, or what it held. -/
theorem storedBefore_eq (group : Group) (value : Level) (bench : Bench) (count : Nat)
    (id : SimulatorId) (index : Nat) :
    group.storedBefore value bench count id index =
      (group.deposit? value bench count id index).or (bench.simulator id).values[index]? := by
  unfold storedBefore deposit?
  cases group.lastAddressing? bench count id index <;> rfl

/-- A group whose command does not crash leaves in every channel what the members that accepted
deposited there, or what the channel held. -/
theorem set_stored (survived : ((group.set value).run bench).1 ≠ .crashed) (id : SimulatorId)
    (index : Nat) :
    (((group.set value).run bench).2.simulator id).values[index]? =
      (group.deposit? value bench (group.accepted ((group.set value).run bench).1) id index).or
        (bench.simulator id).values[index]? := by
  rw [← storedBefore_eq]
  by_cases finite : value.isFinite
  case neg =>
    have ran : (group.set value).run bench =
        (.failed ⟨group.name, 0, value, Attenuator.notFinite "attenuation" value⟩, bench) := by
      rw [set, if_neg finite]
      rfl
    rw [ran]
    rfl
  obtain ⟨count, result, accepted, ends, commanded⟩ := set_endsAt group bench finite
  cases ends with
  | last =>
    rw [commanded]
    exact accepted.stored_eq id index
  | @failed _ member source found failed =>
    have unmoved := (Declined.of_not_done (by rw [failed]; rintro ⟨⟩)).values id
    have stored := accepted.stored_eq id index
    rw [← unmoved, ← reached_succ found] at stored
    rw [commanded]
    exact stored
  | crashed found crashed => exact absurd (congrArg Prod.fst commanded) survived

/-- The member that addresses a channel last is a member that addresses it. -/
theorem of_lastAddressing {member : Attenuator} {count : Nat} {id : SimulatorId} {index : Nat}
    (last : group.lastAddressing? bench count id index = some member) :
    member ∈ group.members ∧ member.simulatorId bench = id ∧ member.index = index := by
  obtain ⟨early, addressed⟩ := List.mem_filter.mp (List.mem_of_getLast? last)
  have addresses := of_decide_eq_true addressed
  exact ⟨List.mem_of_mem_take early, addresses⟩

/-- What is deposited in a channel does not depend on the levels that are stored. -/
theorem deposit_kept (kept : ∀ attenuator : Attenuator, attenuator.Kept bench other)
    (group : Group) (value : Level) (count : Nat) (id : SimulatorId) (index : Nat) :
    group.deposit? value other count id index = group.deposit? value bench count id index := by
  have addressed : group.lastAddressing? other count id index =
      group.lastAddressing? bench count id index := by
    unfold lastAddressing?
    simp only [fun member => (kept member).simulatorId_eq]
  unfold deposit?
  rw [addressed]
  cases last : group.lastAddressing? bench count id index with
  | none => rfl
  | some member =>
    obtain ⟨-, behind, -⟩ := of_lastAddressing last
    have step := (kept member).field Simulator.step fun _ => rfl
    unfold Attenuator.simulator at step
    rw [(kept member).simulatorId_eq, behind] at step
    rw [step]

/-- Two groups share no channel, though they may share instruments. -/
def SharesNoChannel (first second : Group) (bench : Bench) : Prop :=
  ∀ member ∈ first.members, ∀ other ∈ second.members,
    member.simulatorId bench = other.simulatorId bench → member.index ≠ other.index

instance (first second : Group) (bench : Bench) : Decidable (first.SharesNoChannel second bench) :=
  inferInstanceAs (Decidable (∀ _ ∈ _, _))

variable {first second : Group}

/-- Of two groups that share no channel, at most one deposits a level in it. -/
theorem deposit_apart (apart : first.SharesNoChannel second bench) (x y : Level)
    (early late : Nat) (id : SimulatorId) (index : Nat) :
    first.deposit? x bench early id index = none ∨
      second.deposit? y bench late id index = none := by
  unfold deposit?
  cases found : first.lastAddressing? bench early id index with
  | none => exact .inl rfl
  | some member =>
    cases met : second.lastAddressing? bench late id index with
    | none => exact .inr rfl
    | some other =>
      obtain ⟨inside, behind, channel⟩ := of_lastAddressing found
      obtain ⟨within, along, place⟩ := of_lastAddressing met
      have different := apart member inside other within (behind.trans along.symm)
      exact absurd (channel.trans place.symm) different

/-- **Groups that share no channel are independent.** Command two groups, each to a level of its
own, one after the other, where every member is reliable: its session can be held, its driver does
not crash, and no refusal is pending at its instrument. Channels may be silenced, levels be rounded
and maxima be unknown or exceeded, and the groups may share instruments. In either order the two
commands end alike, at the same members and with the same faults, and none crashes; the groups
remember the same levels, and in the end every channel of every instrument holds the same level. -/
theorem sets_commute (reliable : ∀ member ∈ first.members ++ second.members, member.Reliable bench)
    (apart : first.SharesNoChannel second bench) (x y : Level) :
    let one := (first.set x).run bench
    let two := (second.set y).run one.2
    let otherOne := (second.set y).run bench
    let otherTwo := (first.set x).run otherOne.2
    one.1 = otherTwo.1 ∧ two.1 = otherOne.1 ∧ one.1 ≠ .crashed ∧ two.1 ≠ .crashed ∧
      first.held one.1 = first.held otherTwo.1 ∧ second.held two.1 = second.held otherOne.1 ∧
      ∀ id, (two.2.simulator id).values = (otherTwo.2.simulator id).values := by
  intro one two otherOne otherTwo
  have reliableFirst (member : Attenuator) (inside : member ∈ first.members) :=
    reliable member (List.mem_append_left _ inside)
  have reliableSecond (member : Attenuator) (inside : member ∈ second.members) :=
    reliable member (List.mem_append_right _ inside)
  obtain ⟨survived, kept⟩ := first.set_reliable reliableFirst x
  obtain ⟨otherSurvived, otherKept⟩ := second.set_reliable reliableSecond y
  have same : otherTwo.1 = one.1 := set_outcome reliableFirst otherKept x
  have otherSame : two.1 = otherOne.1 := set_outcome reliableSecond kept y
  have lateSurvived : two.1 ≠ .crashed := by rw [otherSame]; exact otherSurvived
  have otherLateSurvived : otherTwo.1 ≠ .crashed := by rw [same]; exact survived
  refine ⟨same.symm, otherSame, survived, lateSurvived, by rw [same], by rw [otherSame],
    fun id => List.ext_getElem? fun index => ?_⟩
  -- Each order leaves the deposits of its second group over those of its first.
  have early := set_stored survived id index
  have otherEarly := set_stored otherSurvived id index
  have late := set_stored lateSurvived id index
  have otherLate := set_stored otherLateSurvived id index
  rw [otherSame, deposit_kept kept, early] at late
  rw [same, deposit_kept otherKept, otherEarly] at otherLate
  rw [late, otherLate]
  rcases deposit_apart apart x y (first.accepted one.1) (second.accepted otherOne.1) id index with
    none | none
  · rw [none, Option.none_or, Option.none_or]
  · rw [none, Option.none_or, Option.none_or]

/-- An instrument that rounds to half a decibel and whose third channel does not respond. -/
def silencedBench : Bench :=
  let stepped : SimulatorConfig := { SimulatorConfig.standard with step := some 0.5 }
  (Bench.empty.connect ⟨stepped, .none, false⟩).2.changeSimulator 0 fun simulator =>
    simulator.silence 2

/-- The first, the silent and again the first channel of the instrument. -/
def outer : Group where
  name := "outer"
  members := [⟨0, "SIM-4", 0, 0.5, none⟩, ⟨0, "SIM-4", 2, 0.0, none⟩, ⟨0, "SIM-4", 0, 0.0, none⟩]
  lastCommanded := 0.0

/-- The other two channels. -/
def inner : Group where
  name := "inner"
  members := [⟨0, "SIM-4", 1, 0.0, none⟩, ⟨0, "SIM-4", 3, 1.5, none⟩]
  lastCommanded := 0.0

/-- The outer group stops at the silent channel, in front of the inner one and behind it. -/
theorem sets_commute_silenced :
    (∀ member ∈ outer.members ++ inner.members, member.Reliable silencedBench) ∧
      outer.SharesNoChannel inner silencedBench ∧
      (∃ stop, ((outer.set 10.2).run silencedBench).1 = .failed stop ∧ stop.member = 1 ∧
        ((outer.set 10.2).run ((inner.set 30.0).run silencedBench).2).1 = .failed stop) ∧
      ((inner.set 30.0).run ((outer.set 10.2).run silencedBench).2).1 =
        ((inner.set 30.0).run silencedBench).1 := by
  have reliable (index : Nat) (offset : Level) :
      (⟨0, "SIM-4", index, offset, none⟩ : Attenuator).Reliable silencedBench :=
    ⟨rfl, nofun, rfl⟩
  have every : ∀ member ∈ outer.members ++ inner.members, member.Reliable silencedBench := by
    simp only [outer, inner, List.cons_append, List.nil_append, List.forall_mem_cons]
    exact ⟨reliable 0 _, reliable 2 _, reliable 0 _, reliable 1 _, reliable 3 _, nofun⟩
  have apart : outer.SharesNoChannel inner silencedBench := by decide +kernel
  obtain ⟨same, otherSame, -⟩ := sets_commute every apart 10.2 30.0
  have stops : (((outer.set 10.2).run silencedBench).1.fault?.map GroupStop.member) = some 1 := by
    decide +kernel
  obtain ⟨stop, found, member⟩ := Option.map_eq_some_iff.mp stops
  have failed := Outcome.eq_failed found
  exact ⟨every, apart, ⟨stop, failed, member, same.symm.trans failed⟩, otherSame⟩

end Group

end Attenuation
