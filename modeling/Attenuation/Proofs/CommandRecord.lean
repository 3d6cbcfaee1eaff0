import Attenuation.Proofs.GroupCommand
import Mathlib.Algebra.BigOperators.Group.Finset.Basic

/-!
# What a group command records

Three layers record what a group command does: the attenuators, their instruments and the group.
A member that accepts a level records that it sends the level, and its instrument that it stored
one; a member that fails records what it found out by itself, and the group where it stopped. The
record, the calls that the instruments logged and the outcome of the command tell one story.
-/

namespace Attenuation

namespace Event

/-- An event as it is recorded: with its severity. -/
def entry (event : Event) : Severity × Event := (event.severity, event)

/-- The command that an event announces: an attenuator sends a level to its instrument. -/
def announced? : Event → Option Call
  | .setting _ index _ raw => some (.set index raw)
  | _ => none

end Event

namespace Bench

/-- Between two benches exactly these entries were recorded, in order. -/
def Recorded (before after : Bench) (entries : List (Severity × Event)) : Prop :=
  ∃ events, after.events = before.events ++ events ∧ entries = events.map Event.entry

namespace Recorded

/-- Without a change of the record nothing was recorded. -/
theorem of_events_eq {before after : Bench} (same : after.events = before.events) :
    before.Recorded after [] :=
  ⟨[], by rw [same, List.append_nil], rfl⟩

/-- Recorded events are recorded. -/
theorem record (bench : Bench) (events : List Event) :
    bench.Recorded (bench.record events) (events.map Event.entry) :=
  ⟨events, rfl, rfl⟩

/-- What was recorded up to a bench and from there on was recorded in this order. -/
theorem trans {before middle after : Bench} {first second : List (Severity × Event)}
    (early : before.Recorded middle first) (late : middle.Recorded after second) :
    before.Recorded after (first ++ second) := by
  obtain ⟨events, grown, rfl⟩ := early
  obtain ⟨others, further, rfl⟩ := late
  exact ⟨events ++ others, by rw [further, grown, List.append_assoc],
    (List.map_append).symm⟩

end Recorded

end Bench

namespace Simulator

variable (simulator : Simulator) (index : Nat) (value : Level)

/-- An instrument that accepts a command records the level that it stores. -/
theorem set_events_of_ok (accepted : (simulator.set index value).answer = .ok ()) :
    (simulator.set index value).events =
      [.stored simulator.model index (quantize simulator.step value)] := by
  obtain ⟨idle, present⟩ := set_ok simulator index value accepted
  have responds := responds_of_set_ok simulator index value accepted
  unfold set
  simp [log, idle, responds, present]

/-- An instrument that refuses a command records nothing. -/
theorem set_events_of_error {fault : SessionFault}
    (refused : (simulator.set index value).answer = .error fault) :
    (simulator.set index value).events = [] := by
  unfold set at refused ⊢
  simp only [log] at refused ⊢
  by_cases pending : 0 < simulator.refusedSets
  · simp only [pending, ↓reduceIte]
  by_cases silent : simulator.unresponsive.contains index
  · simp only [pending, silent, ↓reduceIte]
  by_cases present : index < simulator.values.length
  · simp only [pending, silent, present, ↓reduceIte] at refused
    cases refused
  · simp only [pending, silent, present, ↓reduceIte, Bool.false_eq_true]

end Simulator

namespace Attenuator

variable (attenuator : Attenuator) (value : Level) (bench : Bench)

/-- What is recorded of a member that accepts a level: it sends the level, and its instrument stores
what its step makes of it. -/
def acceptance : List (Severity × Event) :=
  [(.trace, attenuator.settingEvent value),
    (.trace, .stored (attenuator.simulator bench).model attenuator.index
      (Simulator.quantize (attenuator.simulator bench).step (attenuator.raw value)))]

/-- How a member fails on a bench, with which fault and with which entries of its own. -/
inductive FailsWith : Fault → List (Severity × Event) → Prop where
  /-- The session is poisoned. -/
  | poisoned (held : (bench.session attenuator.session).poisoned = true) :
      FailsWith (.session .poisoned) []
  /-- The instrument has reported no maximum. -/
  | maximumUnknown (free : (bench.session attenuator.session).poisoned = false)
      (unknown : (attenuator.simulator bench).maximum = none) :
      FailsWith (maximumUnknown attenuator.model) []
  /-- The raw level is above the maximum. -/
  | limitExceeded {maximum : Level} (free : (bench.session attenuator.session).poisoned = false)
      (known : (attenuator.simulator bench).maximum = some maximum)
      (above : maximum < attenuator.raw value) :
      FailsWith (.limitExceeded value attenuator.offset maximum)
        [(.debug, .rejected attenuator.model attenuator.index value (attenuator.raw value) maximum)]
  /-- The instrument refuses the level that was sent. -/
  | refused {maximum : Level} {fault : SessionFault}
      (free : (bench.session attenuator.session).poisoned = false)
      (known : (attenuator.simulator bench).maximum = some maximum)
      (below : ¬ maximum < attenuator.raw value)
      (refused : (attenuator.response value bench).answer = .error fault) :
      FailsWith (.session fault) [(.trace, attenuator.settingEvent value)]

/-- The attenuator if it sends a level that its instrument refuses. -/
def refuser : List Attenuator :=
  if (attenuator.refusal? value bench).isSome then [attenuator] else []

variable {attenuator value bench}

/-- What a command to an attenuator records when it is done. -/
theorem recorded_of_done (done : ((attenuator.set value).run bench).1 = .done ()) :
    bench.Recorded ((attenuator.set value).run bench).2 (attenuator.acceptance value bench) := by
  have accepted := ((set_done_iff attenuator value bench).mp done).2
  have stored := Simulator.set_events_of_ok _ _ _ accepted
  rw [set_done_bench done]
  refine ⟨attenuator.settingEvent value :: (attenuator.response value bench).events, ?_, ?_⟩
  · simp [driven, Bench.record, Bench.putSimulator]
  · rw [response, stored]
    rfl

/-- What a command to an attenuator for a finite level records when it fails, and that it announces
the command exactly when the instrument refused it. -/
theorem recorded_of_failed {source : Fault} (finite : value.isFinite)
    (failed : ((attenuator.set value).run bench).1 = .failed source) :
    ∃ own, attenuator.FailsWith value bench source own ∧
      bench.Recorded ((attenuator.set value).run bench).2 own ∧
      own.filterMap (fun entry => entry.2.announced?) =
        (attenuator.refuser value bench).map fun member => member.command value := by
  have fared : attenuator.verdict value bench = _ := if_pos finite
  rw [run_set] at failed ⊢
  unfold refuser refusal?
  by_cases poisoned : (bench.session attenuator.session).poisoned
  · rw [if_pos poisoned] at fared
    rw [fared] at failed ⊢
    cases failed
    exact ⟨[], .poisoned poisoned, .of_events_eq rfl, rfl⟩
  rw [if_neg poisoned] at fared
  have free := Bool.eq_false_iff.mpr poisoned
  cases known : (attenuator.simulator bench).maximum with
  | none =>
    rw [known] at fared
    simp only [fared] at failed ⊢
    cases failed
    exact ⟨[], .maximumUnknown free known, .of_events_eq rfl, rfl⟩
  | some maximum =>
    simp only [known] at fared
    by_cases above : maximum < attenuator.raw value
    · rw [if_pos above] at fared
      rw [fared] at failed ⊢
      cases failed
      exact ⟨_, .limitExceeded free known above, .record _ _, rfl⟩
    rw [if_neg above] at fared
    by_cases trapped : (bench.session attenuator.session).trap.onSet = some attenuator.index
    · rw [if_pos trapped] at fared
      rw [fared] at failed
      cases failed
    rw [if_neg trapped] at fared
    rw [fared] at failed ⊢
    cases answered : (attenuator.response value bench).answer with
    | ok => simp [answered, Outcome.ofExcept, Outcome.mapFault] at failed
    | error fault =>
      have silent : (attenuator.response value bench).events = [] :=
        Simulator.set_events_of_error _ _ _ answered
      simp only [answered, Outcome.ofExcept, Outcome.mapFault, Outcome.failed.injEq] at failed
      subst failed
      refine ⟨_, .refused free known above answered,
        ⟨[attenuator.settingEvent value], ?_, rfl⟩, rfl⟩
      simp [driven, silent, Bench.record, Bench.putSimulator]

/-- What a command to an attenuator records when the driver crashes: the level was sent. -/
theorem recorded_of_crashed (crashed : ((attenuator.set value).run bench).1 = .crashed) :
    (bench.session attenuator.session).trap.onSet = some attenuator.index ∧
      bench.Recorded ((attenuator.set value).run bench).2
        [(.trace, attenuator.settingEvent value)] := by
  have fared : attenuator.verdict value bench = .crashes := by
    rw [run_set] at crashed
    cases verdict : attenuator.verdict value bench with
    | crashes => rfl
    | reaches =>
      cases answered : (attenuator.response value bench).answer <;>
        simp [verdict, answered, Outcome.ofExcept, Outcome.mapFault] at crashed
    | _ => simp [verdict] at crashed
  have decided := (of_passed (.inl fared)).2
  rw [fared] at decided
  constructor
  · by_contra other
    rw [if_neg other] at decided
    cases decided
  · rw [run_set, fared]
    exact .record bench [attenuator.settingEvent value]

end Attenuator

namespace Group

variable {group : Group} {value : Level} {bench : Bench}

/-- What is recorded of the members in front of a position when all of them accept a level: each
sends the level and its instrument stores it, one member after the other. -/
def acceptances (group : Group) (value : Level) (bench : Bench) (position : Nat) :
    List (Severity × Event) :=
  (group.members.take position).flatMap fun member => member.acceptance value bench

/-- One more member that accepts a level records its own entries behind those of the others. -/
theorem acceptances_succ {position : Nat} {member : Attenuator}
    (found : group.members[position]? = some member) :
    group.acceptances value bench (position + 1) =
      group.acceptances value bench position ++ member.acceptance value bench := by
  unfold acceptances
  rw [List.take_add_one, found, List.flatMap_append]
  simp

/-- Members that accept a level record that they do, and leave what the next ones record as it
would have been at the start. -/
theorem AcceptedBefore.recorded {position : Nat}
    (accepted : group.AcceptedBefore value bench position) :
    bench.Recorded (group.reached value bench position)
      (group.acceptances value bench position) := by
  induction position with
  | zero => exact .of_events_eq rfl
  | succ position ih =>
    have earlier := accepted.mono (Nat.le_succ position)
    obtain ⟨member, found, done⟩ := accepted position (Nat.lt_succ_self position)
    have own := Attenuator.recorded_of_done done
    have settings := earlier.settings_eq (member.simulatorId bench)
    have model := congrArg Simulator.model settings
    have step := congrArg Simulator.step settings
    simp only [Simulator.settings] at model step
    have same : member.acceptance value (group.reached value bench position) =
        member.acceptance value bench := by
      unfold Attenuator.acceptance Attenuator.simulator
      rw [earlier.simulatorId_eq, model, step]
    rw [same, ← reached_succ found] at own
    rw [acceptances_succ found]
    exact (ih earlier).trans own

/-- The commands that accepting members announce are the ones that they send. -/
theorem announced_acceptances (group : Group) (value : Level) (bench : Bench) (position : Nat) :
    (group.acceptances value bench position).filterMap (fun entry => entry.2.announced?) =
      (group.members.take position).map fun member => member.command value := by
  unfold acceptances
  induction group.members.take position with
  | nil => rfl
  | cons member rest ih =>
    rw [List.flatMap_cons, List.filterMap_append, ih]
    rfl

end Group

/-- An instrument that logged commands has so many more in its log. -/
theorem Simulator.length_sets {before after : Simulator} {own : List Call}
    (logged : after.calls = before.calls ++ own)
    (commands : ∀ call ∈ own, ∃ index raw, call = .set index raw) :
    after.sets.length = before.sets.length + own.length := by
  unfold sets
  rw [logged, List.filterMap_append, List.length_append]
  congr 1
  refine List.filterMap_length_eq_length.mpr fun call listed => ?_
  obtain ⟨index, raw, rfl⟩ := commands call listed
  rfl

namespace Bench

/-- The commands in the logs of instruments. -/
def loggedSets (bench : Bench) (ids : Finset SimulatorId) : ℕ :=
  ids.sum fun id => (bench.simulator id).sets.length

/-- Instruments that received commands have so many more in their logs. -/
theorem Received.loggedSets_eq {before after : Bench} {calls : List (SimulatorId × Call)}
    (received : before.Received after calls)
    (commands : ∀ entry ∈ calls, ∃ index raw, entry.2 = .set index raw) {ids : Finset SimulatorId}
    (inside : ∀ entry ∈ calls, entry.1 ∈ ids) :
    after.loggedSets ids = before.loggedSets ids + calls.length := by
  have own (id : SimulatorId) : (after.simulator id).sets.length =
      (before.simulator id).sets.length + (calls.map Prod.fst).count id := by
    rw [Simulator.length_sets (received id), List.length_map, List.count, List.countP_map,
      List.countP_eq_length_filter]
    · rfl
    · intro call listed
      obtain ⟨entry, chosen, rfl⟩ := List.mem_map.mp listed
      exact commands entry (List.mem_filter.mp chosen).1
  have all : (ids.sum fun id => (calls.map Prod.fst).count id) = calls.length := by
    have counted := Multiset.sum_count_eq_card (m := (calls.map Prod.fst : Multiset SimulatorId))
      (s := ids) (by simpa using fun id call listed => inside (id, call) listed)
    simpa using counted
  unfold loggedSets
  simp only [own]
  rw [Finset.sum_add_distrib, all]

end Bench

namespace Group

variable (group : Group) (value : Level) (bench : Bench)

/-- How a group command that got past its first members ends, and what it records then: of the
member that fails the entries of its own, and last one entry of the group. -/
inductive Closes : Nat → Outcome GroupStop Group → List (Severity × Event) → Prop where
  /-- Every member accepted the level, which is remembered. -/
  | done : Closes group.size (.done { group with lastCommanded := value })
      [(.debug, .groupSet group.name group.size value)]
  /-- The member at a position fails, and the group stops there with its fault. -/
  | stopped {position : Nat} {member : Attenuator} {source : Fault}
      {own : List (Severity × Event)} (found : group.members[position]? = some member)
      (fails : member.FailsWith value (group.reached value bench position) source own) :
      Closes position (.failed ⟨group.name, position, value, source⟩)
        (own ++ [(.warning, .groupStopped group.name value position member.model member.index
          source)])
  /-- The driver of the member at a position crashes when the level is sent. -/
  | crashed {position : Nat} {member : Attenuator}
      (found : group.members[position]? = some member)
      (trapped : ((group.reached value bench position).session member.session).trap.onSet =
        some member.index) :
      Closes position .crashed [(.trace, member.settingEvent value)]

variable {group value bench}

/-- A group command records a warning exactly if it stops at a member. -/
theorem Closes.warns_iff {count : Nat} {outcome : Outcome GroupStop Group}
    {closing : List (Severity × Event)} (closes : group.Closes value bench count outcome closing) :
    (∃ entry ∈ group.acceptances value bench count ++ closing, entry.1 = .warning) ↔
      ∃ stop, outcome = .failed stop := by
  have early : ∀ entry ∈ group.acceptances value bench count, entry.1 ≠ .warning := by
    intro entry listed
    obtain ⟨member, -, own⟩ := List.mem_flatMap.mp listed
    simp only [Attenuator.acceptance, List.mem_cons, List.not_mem_nil, or_false] at own
    rcases own with rfl | rfl <;> exact nofun
  constructor
  · rintro ⟨entry, listed, warning⟩
    have late := (List.mem_append.mp listed).resolve_left fun front => early entry front warning
    cases closes with
    | stopped found fails => exact ⟨_, rfl⟩
    | done =>
      rw [List.mem_singleton.mp late] at warning
      cases warning
    | crashed found trapped =>
      rw [List.mem_singleton.mp late] at warning
      cases warning
  · rintro ⟨stop, ended⟩
    cases closes with
    | stopped found fails =>
      exact ⟨_, List.mem_append_right _ (List.mem_append_right _ (List.mem_singleton_self _)), rfl⟩
    | done => cases ended
    | crashed found trapped => cases ended

/-- The commands that members send, each with the number of the instrument that it goes to. -/
def sentBy (value : Level) (bench : Bench) (members : List Attenuator) :
    List (SimulatorId × Call) :=
  members.map fun member => (member.simulatorId bench, member.command value)

/-- What members send are commands to store a level. -/
theorem sentBy_commands {members : List Attenuator} :
    ∀ entry ∈ sentBy value bench members, ∃ index level, entry.2 = .set index level := by
  intro entry listed
  obtain ⟨member, _, rfl⟩ := List.mem_map.mp listed
  exact ⟨member.index, member.raw value, rfl⟩

/-- The members in front of a position and one that is refused there send the commands of these
members and the refused one. -/
theorem sentBy_append_refuser (position : Nat) (member : Attenuator) (here : Bench) :
    sentBy value bench (group.members.take position ++ member.refuser value here) =
      group.commands value bench position ++
        if (member.refusal? value here).isSome then
          [(member.simulatorId bench, member.command value)] else [] := by
  unfold sentBy commands Attenuator.refuser
  rw [List.map_append]
  split <;> rfl

/-- The members in front of a position and one that is refused there are members. -/
theorem append_refuser_subset {position : Nat} {member : Attenuator}
    (found : group.members[position]? = some member) (here : Bench) :
    group.members.take position ++ member.refuser value here ⊆ group.members := by
  refine List.append_subset.mpr ⟨List.take_subset _ _, ?_⟩
  unfold Attenuator.refuser
  split
  · simpa using List.mem_of_getElem? found
  · exact List.nil_subset _

/-- A group command for a finite level records the entries of the members that accept it and those
of its end. Unless a driver crashed, the commands that the instruments received are those of the
members that announced one. -/
theorem set_closes (finite : value.isFinite) :
    ∃ count closing, group.AcceptedBefore value bench count ∧
      group.Closes value bench count ((group.set value).run bench).1 closing ∧
      bench.Recorded ((group.set value).run bench).2
        (group.acceptances value bench count ++ closing) ∧
      (((group.set value).run bench).1 ≠ .crashed → ∃ sent ⊆ group.members,
        bench.Received ((group.set value).run bench).2 (sentBy value bench sent) ∧
        (group.acceptances value bench count ++ closing).filterMap
          (fun entry => entry.2.announced?) = sent.map fun member => member.command value) := by
  obtain ⟨count, result, accepted, ends, commanded⟩ := set_endsAt group bench finite
  rw [commanded]
  cases ends with
  | last =>
    refine ⟨group.size, _, accepted, .done, accepted.recorded.trans (.record _ _), fun _ =>
      ⟨group.members.take group.size, List.take_subset _ _, ?_, ?_⟩⟩
    · have received := accepted.received.trans (.of_simulator_eq fun _ => rfl)
      rwa [List.append_nil] at received
    · rw [List.filterMap_append, announced_acceptances]
      exact List.append_nil _
  | @failed _ member source found failed =>
    obtain ⟨own, fails, recorded, announced⟩ := Attenuator.recorded_of_failed finite failed
    rw [← reached_succ found] at recorded
    have declined := (Commanded.of_declined accepted found (by simp [failed])
      [.groupStopped group.name value count member.model member.index source]).received
    rw [← sentBy_append_refuser] at declined
    refine ⟨count, _, accepted, .stopped found fails,
      accepted.recorded.trans (recorded.trans (.record _ _)), fun _ =>
      ⟨_, append_refuser_subset found _, declined, ?_⟩⟩
    rw [List.filterMap_append, announced_acceptances, List.filterMap_append, announced,
      List.map_append]
    exact congrArg _ (List.append_nil _)
  | @crashed _ member found crashed =>
    obtain ⟨trapped, recorded⟩ := Attenuator.recorded_of_crashed crashed
    rw [← reached_succ found] at recorded
    exact ⟨count, _, accepted, .crashed found trapped, accepted.recorded.trans recorded,
      fun other => absurd rfl other⟩

/-- **What a group command records.** A level that is not finite records nothing. For a finite one
there is a position up to which every member accepts when its turn comes, and the record holds, for
each of these members in order, that the level was sent and that the instrument stored one, then
what `Closes` says of the end of the command: the entries of the member that fails, and one entry
of the group that names the position and the fault, or the number of members. A warning is recorded
exactly if a member failed and the command with it. Unless a driver crashed, the commands that were
announced are, one for one and in order, those that the instruments received, so that there are as
many as the logs of the instruments gained. -/
theorem set_recorded (group : Group) (value : Level) (bench : Bench) :
    let outcome := ((group.set value).run bench).1
    let after := ((group.set value).run bench).2
    ∃ entries, bench.Recorded after entries ∧
      (if value.isFinite then
        ∃ count closing, group.AcceptedBefore value bench count ∧
          group.Closes value bench count outcome closing ∧
          entries = group.acceptances value bench count ++ closing
      else entries = []) ∧
      ((∃ entry ∈ entries, entry.1 = .warning) ↔
        value.isFinite ∧ ∃ stop, outcome = .failed stop) ∧
      (outcome ≠ .crashed →
        (∃ calls, bench.Received after calls ∧
          calls.map Prod.snd = entries.filterMap fun entry => entry.2.announced?) ∧
        ∀ ids : Finset SimulatorId, (∀ member ∈ group.members, member.simulatorId bench ∈ ids) →
          after.loggedSets ids = bench.loggedSets ids +
            (entries.filterMap fun entry => entry.2.announced?).length) := by
  intro outcome after
  by_cases finite : value.isFinite
  case neg =>
    have ran : (group.set value).run bench = (.failed ⟨group.name, 0, value,
        Attenuator.notFinite "attenuation" value⟩, bench) := by
      simp [set, finite]
    simp only [outcome, after, ran]
    refine ⟨[], .of_events_eq rfl, by rw [if_neg finite], ?_, fun _ => ⟨⟨[], ?_, rfl⟩, ?_⟩⟩
    · simp [finite]
    · exact .of_simulator_eq fun _ => rfl
    · intro ids _
      rfl
  obtain ⟨count, closing, accepted, closes, recorded, sent⟩ := @set_closes group value bench finite
  refine ⟨_, recorded, ?_, ?_, fun sound => ?_⟩
  · rw [if_pos finite]
    exact ⟨count, closing, accepted, closes, rfl⟩
  · rw [closes.warns_iff]
    exact (and_iff_right finite).symm
  · obtain ⟨members, inside, received, announced⟩ := sent sound
    refine ⟨⟨_, received, ?_⟩, fun ids all => ?_⟩
    · rw [announced, sentBy, List.map_map]
      rfl
    · have reaches : ∀ entry ∈ sentBy value bench members, entry.1 ∈ ids := by
        intro entry listed
        obtain ⟨member, sends, rfl⟩ := List.mem_map.mp listed
        exact all member (inside sends)
      rw [received.loggedSets_eq sentBy_commands reaches, announced, sentBy, List.length_map,
        List.length_map]

end Group

end Attenuation
