import Attenuation.Group
import Attenuation.Proofs.Attenuator

/-!
# The complete outcome of a group command

A group commands its members in order, and what every member meets is the bench that the members
in front of it left. `Group.reached` is that bench, and the first member whose own command is not
done there decides how the group command ends. Everything that the group command does to the
instruments is what the members in front of that one do, with at most one refused command more.
-/

namespace Attenuation

namespace Bench

/-- Between two benches the instruments received exactly the listed calls, each instrument its
own calls and in the order of the list. -/
def Received (before after : Bench) (calls : List (SimulatorId × Call)) : Prop :=
  ∀ id, (after.simulator id).calls =
    (before.simulator id).calls ++ (calls.filter fun entry => entry.1 = id).map Prod.snd

namespace Received

/-- Without a change of the instruments nothing was received. -/
theorem of_simulator_eq {before after : Bench}
    (same : ∀ id, after.simulator id = before.simulator id) : before.Received after [] := by
  intro id
  simp [same id]

/-- What was received up to a bench and from there on was received in this order. -/
theorem trans {before middle after : Bench} {first second : List (SimulatorId × Call)}
    (early : before.Received middle first) (late : middle.Received after second) :
    before.Received after (first ++ second) := by
  intro id
  rw [late id, early id]
  simp

/-- A command that reaches an instrument is received by it, whatever the answer is. -/
theorem driven (attenuator : Attenuator) (value : Level) (bench : Bench) :
    bench.Received (attenuator.driven value bench)
      [(attenuator.simulatorId bench, attenuator.command value)] := by
  intro id
  rw [Attenuator.simulator_driven]
  by_cases own : id = attenuator.simulatorId bench
  · subst own
    simp [Attenuator.response_simulator, Attenuator.simulator]
  · simp [own, Ne.symm own]

end Received

end Bench

namespace Group

section Reached

variable (group : Group) (value : Level) (bench : Bench)

/-- The bench on which the member at a position is commanded: the members in front of it were
commanded in order. -/
def reached (position : Nat) : Bench :=
  (group.members.take position).foldl (fun bench member => ((member.set value).run bench).2) bench

/-- Every member in front of a position is there and accepts the level when its turn comes. -/
def AcceptedBefore (position : Nat) : Prop :=
  ∀ earlier < position, ∃ member, group.members[earlier]? = some member ∧
    ((member.set value).run (group.reached value bench earlier)).1 = .done ()

/-- The commands of the members in front of a position, each with the number of the instrument
that it goes to. -/
def commands (position : Nat) : List (SimulatorId × Call) :=
  (group.members.take position).map fun member =>
    (member.simulatorId bench, member.command value)

/-- The last member in front of a position that addresses a channel of an instrument. -/
def lastAddressing? (position : Nat) (id : SimulatorId) (index : Nat) : Option Attenuator :=
  ((group.members.take position).filter fun member =>
    member.simulatorId bench = id ∧ member.index = index).getLast?

/-- What a channel holds after the members in front of a position accepted a level: what its last
addressing member sent, rounded by the instrument, or what it held. -/
def storedBefore (position : Nat) (id : SimulatorId) (index : Nat) : Option Level :=
  match group.lastAddressing? bench position id index with
  | some member => some (Simulator.quantize (bench.simulator id).step (member.raw value))
  | none => (bench.simulator id).values[index]?

end Reached

variable {group : Group} {value : Level} {bench : Bench}

/-- Commanding the member at a position gives the bench of the next one. -/
theorem reached_succ {position : Nat} {member : Attenuator}
    (found : group.members[position]? = some member) :
    group.reached value bench (position + 1) =
      ((member.set value).run (group.reached value bench position)).2 := by
  unfold reached
  rw [List.take_add_one, found, List.foldl_append]
  rfl

namespace AcceptedBefore

/-- No member is in front of the first. -/
theorem zero : group.AcceptedBefore value bench 0 := by
  intro earlier inside
  omega

/-- One more member that accepts. -/
theorem succ {position : Nat} {member : Attenuator}
    (accepted : group.AcceptedBefore value bench position)
    (found : group.members[position]? = some member)
    (done : ((member.set value).run (group.reached value bench position)).1 = .done ()) :
    group.AcceptedBefore value bench (position + 1) :=
  Nat.forall_lt_succ_right.mpr ⟨accepted, member, found, done⟩

/-- The members in front of an earlier position accept as well. -/
theorem mono {first last : Nat} (accepted : group.AcceptedBefore value bench last)
    (ordered : first ≤ last) : group.AcceptedBefore value bench first :=
  fun earlier inside => accepted earlier (by omega)

/-- The member in front of the next position accepts, which leaves what its instrument's answer
leaves. -/
theorem last {position : Nat} (accepted : group.AcceptedBefore value bench (position + 1)) :
    ∃ member, group.members[position]? = some member ∧
      (member.response value (group.reached value bench position)).answer = .ok () ∧
      group.reached value bench (position + 1) =
        member.driven value (group.reached value bench position) := by
  obtain ⟨member, found, done⟩ := accepted position (by omega)
  refine ⟨member, found, ((Attenuator.set_done_iff member value _).mp done).2, ?_⟩
  rw [reached_succ found, Attenuator.set_done_bench done]

/-- Members that accept leave the sessions alone. -/
theorem session_eq {position : Nat} (accepted : group.AcceptedBefore value bench position)
    (id : SessionId) : (group.reached value bench position).session id = bench.session id := by
  induction position with
  | zero => rfl
  | succ position ih =>
    obtain ⟨member, -, -, same⟩ := accepted.last
    rw [same, Attenuator.session_driven, ih (accepted.mono (by omega))]

/-- Members that accept leave every member with the instrument it had. -/
theorem simulatorId_eq {position : Nat} (accepted : group.AcceptedBefore value bench position)
    (member : Attenuator) :
    member.simulatorId (group.reached value bench position) = member.simulatorId bench := by
  unfold Attenuator.simulatorId
  rw [accepted.session_eq]

/-- The instruments received the commands of the members that accepted, in order, and nothing
else. -/
theorem received {position : Nat} (accepted : group.AcceptedBefore value bench position) :
    bench.Received (group.reached value bench position)
      (group.commands value bench position) := by
  induction position with
  | zero => exact .of_simulator_eq fun _ => rfl
  | succ position ih =>
    have earlier := accepted.mono (Nat.le_succ position)
    obtain ⟨member, found, -, same⟩ := accepted.last
    have sent := Bench.Received.driven member value (group.reached value bench position)
    rw [earlier.simulatorId_eq, ← same] at sent
    have split : group.commands value bench (position + 1) =
        group.commands value bench position ++
          [(member.simulatorId bench, member.command value)] := by
      simp [commands, List.take_add_one, found]
    rw [split]
    exact (ih earlier).trans sent

/-- Members that accept leave the settings of every instrument alone. -/
theorem settings_eq {position : Nat} (accepted : group.AcceptedBefore value bench position)
    (id : SimulatorId) :
    ((group.reached value bench position).simulator id).settings =
      (bench.simulator id).settings := by
  induction position with
  | zero => rfl
  | succ position ih =>
    obtain ⟨member, -, answered, same⟩ := accepted.last
    have before := ih (accepted.mono (Nat.le_succ position))
    rw [same, Attenuator.simulator_driven]
    by_cases own : id = member.simulatorId (group.reached value bench position)
    · subst own
      rw [← before, if_pos rfl]
      exact Simulator.set_settings_of_ok _ _ _ answered
    · rw [if_neg own, before]

/-- A channel holds what the last of the members that accepted and address it sent, rounded by
the instrument, and a channel that none of them addresses holds what it held. -/
theorem stored_eq {position : Nat} (accepted : group.AcceptedBefore value bench position)
    (id : SimulatorId) (index : Nat) :
    ((group.reached value bench position).simulator id).values[index]? =
      group.storedBefore value bench position id index := by
  induction position with
  | zero => rfl
  | succ position ih =>
    have earlier := accepted.mono (Nat.le_succ position)
    obtain ⟨member, found, answered, same⟩ := accepted.last
    have present := (Simulator.set_ok _ _ _ answered).2
    have stored := Simulator.set_values_of_ok _ _ _ answered
    have last : group.lastAddressing? bench (position + 1) id index =
        if member.simulatorId bench = id ∧ member.index = index then some member
        else group.lastAddressing? bench position id index := by
      unfold lastAddressing?
      rw [List.take_add_one, found, List.filter_append]
      by_cases addressed : member.simulatorId bench = id ∧ member.index = index
      · simp [addressed]
      · simp [addressed]
    have step : ((group.reached value bench position).simulator id).step =
        (bench.simulator id).step := by
      have settings := congrArg Simulator.step (earlier.settings_eq id)
      exact settings
    rw [same, Attenuator.simulator_driven]
    unfold storedBefore
    rw [last]
    have before := ih earlier
    unfold storedBefore at before
    rw [earlier.simulatorId_eq]
    by_cases own : id = member.simulatorId bench
    · subst own
      rw [if_pos rfl]
      unfold Attenuator.response
      rw [stored]
      unfold Attenuator.simulator at present ⊢
      rw [earlier.simulatorId_eq] at present ⊢
      by_cases addressed : member.index = index
      · subst addressed
        simp [List.getElem?_set_self present, step]
      · rw [List.getElem?_set_ne addressed, if_neg (by simp [addressed]), before]
    · rw [if_neg own, if_neg (by simp [Ne.symm own]), before]

end AcceptedBefore

/-- What a member that does not accept a level leaves: its instrument received the command
exactly when it refused it, which uses up a pending refusal, and no channel holds anything
else. -/
structure Declined (member : Attenuator) (value : Level) (before after : Bench) : Prop where
  /-- A command was received exactly when the instrument itself refused it. -/
  received : before.Received after
    (if (member.refusal? value before).isSome then
      [(member.simulatorId before, member.command value)] else [])
  /-- No stored level changed. -/
  values : ∀ id, (after.simulator id).values = (before.simulator id).values
  /-- The settings are the ones before, but for the refusal that was used up. -/
  settings : ∀ id, (after.simulator id).settings =
    { (before.simulator id).settings with
      refusedSets := (before.simulator id).refusedSets -
        if (member.refusal? value before).isSome ∧ id = member.simulatorId before then 1 else 0 }

/-- A member whose command does not reach an instrument leaves the instruments alone. -/
theorem Declined.of_unreached {member : Attenuator} {before after : Bench}
    (unreached : member.refusal? value before = none)
    (same : ∀ id, after.simulator id = before.simulator id) :
    Declined member value before after where
  received := by
    rw [unreached]
    exact .of_simulator_eq same
  values id := by rw [same id]
  settings id := by simp [unreached, same id, Simulator.settings]

/-- A member whose instrument refuses the command changes the log and the pending refusals of
that instrument. -/
theorem Declined.of_refused {member : Attenuator} {before : Bench} {fault : SessionFault}
    (reached : member.verdict value before = .reaches)
    (refused : (member.response value before).answer = .error fault) :
    Declined member value before (member.driven value before) := by
  have present : member.refusal? value before = some fault := by
    simp [Attenuator.refusal?, reached, refused]
  refine ⟨?_, fun id => ?_, fun id => ?_⟩
  · rw [present]
    exact .driven member value before
  · rw [Attenuator.simulator_driven]
    by_cases own : id = member.simulatorId before
    · subst own
      rw [if_pos rfl, Attenuator.response_simulator, refused]
      rfl
    · rw [if_neg own]
  · rw [Attenuator.simulator_driven]
    by_cases own : id = member.simulatorId before
    · subst own
      rw [if_pos rfl, Attenuator.response_simulator]
      simp [present, Simulator.settings, Attenuator.simulator]
    · rw [if_neg own]
      simp [own, Simulator.settings]

/-- A member whose command is not done has declined it. -/
theorem Declined.of_not_done {member : Attenuator} {before : Bench}
    (undone : ((member.set value).run before).1 ≠ .done ()) :
    Declined member value before ((member.set value).run before).2 := by
  rw [Ne, Attenuator.set_done_iff] at undone
  rw [Attenuator.run_set]
  cases fared : member.verdict value before with
  | reaches =>
    cases answered : (member.response value before).answer with
    | ok => exact absurd ⟨fared, answered⟩ undone
    | error fault => exact .of_refused fared answered
  | _ => exact .of_unreached (by simp [Attenuator.refusal?, fared]) fun _ => rfl

/-- How commanding the members of a group in order ends at a position. -/
inductive EndsAt (group : Group) (value : Level) (bench : Bench) :
    Nat → Outcome GroupStop Unit × Bench → Prop where
  /-- There is no member left. -/
  | last : EndsAt group value bench group.size
      (.done (), group.reached value bench group.size)
  /-- The member at the position fails. -/
  | failed {position : Nat} {member : Attenuator} {source : Fault}
      (found : group.members[position]? = some member)
      (failed : ((member.set value).run (group.reached value bench position)).1 =
        .failed source) :
      EndsAt group value bench position
        (.failed ⟨group.name, position, value, source⟩,
          (group.reached value bench (position + 1)).record
            [.groupStopped group.name value position member.model member.index source])
  /-- The driver of the member at the position crashes. -/
  | crashed {position : Nat} {member : Attenuator}
      (found : group.members[position]? = some member)
      (crashed : ((member.set value).run (group.reached value bench position)).1 = .crashed) :
      EndsAt group value bench position (.crashed, group.reached value bench (position + 1))

/-- Commanding the members that are left, behind members that accepted, ends at the first that
does not accept. -/
theorem commandFrom_endsAt (front rest : List Attenuator) (whole : group.members = front ++ rest)
    (accepted : group.AcceptedBefore value bench front.length) :
    ∃ count, group.AcceptedBefore value bench count ∧
      group.EndsAt value bench count ((group.commandFrom value front.length rest).run
        (group.reached value bench front.length)) := by
  induction rest generalizing front with
  | nil =>
    refine ⟨front.length, accepted, ?_⟩
    have size : front.length = group.size := by simp [size, whole]
    rw [size]
    exact .last
  | cons member rest ih =>
    have found : group.members[front.length]? = some member := by simp [whole]
    have next : group.reached value bench (front.length + 1) = _ := reached_succ found
    have ran : ((member.set value).attempt : Action GroupStop (Except Fault Unit)).run
        (group.reached value bench front.length) = _ := Action.run_attempt _ _
    cases ended : ((member.set value).run (group.reached value bench front.length)) with
    | mk outcome after =>
      rw [ended] at ran next
      cases outcome with
      | done accepts =>
        have one := accepted.succ found (by rw [ended])
        have tail := ih (front ++ [member]) (by simp [whole]) (by simpa using one)
        rw [List.length_append, List.length_singleton, next] at tail
        rw [commandFrom, Action.run_bind_done _ ran]
        exact tail
      | failed source =>
        refine ⟨front.length, accepted, ?_⟩
        rw [commandFrom, Action.run_bind_done _ ran, ← show _ = after from next]
        exact .failed found (by rw [ended])
      | crashed =>
        refine ⟨front.length, accepted, ?_⟩
        rw [commandFrom, Action.run_bind_crashed _ ran, ← show _ = after from next]
        exact .crashed found (by rw [ended])

/-- What a group command for a finite level makes of commanding its members: past the last of them
the level is remembered, and otherwise the command ends as they do. -/
def concluded (group : Group) (value : Level) :
    Outcome GroupStop Unit × Bench → Outcome GroupStop Group × Bench
  | (.done (), after) => (.done { group with lastCommanded := value },
      after.record [.groupSet group.name group.size value])
  | (.failed stop, after) => (.failed stop, after)
  | (.crashed, after) => (.crashed, after)

/-- A group command for a finite level ends where commanding its members in order ends. -/
theorem set_endsAt (group : Group) (bench : Bench) (finite : value.isFinite) :
    ∃ count result, group.AcceptedBefore value bench count ∧
      group.EndsAt value bench count result ∧
      (group.set value).run bench = group.concluded value result := by
  have start : group.AcceptedBefore value bench ([] : List Attenuator).length :=
    AcceptedBefore.zero
  obtain ⟨count, accepted, ends⟩ := commandFrom_endsAt [] group.members rfl start
  refine ⟨count, _, accepted, ends, ?_⟩
  have first : group.reached value bench ([] : List Attenuator).length = bench := rfl
  rw [set, if_pos finite, Action.run_bind, first, List.length_nil]
  rcases (group.commandFrom value 0 group.members).run bench with ⟨_ | _ | _, after⟩ <;> rfl

/-- The group that a caller has after a command: the commanded one when the command is done, and
the one it had otherwise. -/
def held {ε : Type} (group : Group) : Outcome ε Group → Group
  | .done commanded => commanded
  | .failed _ => group
  | .crashed => group

/-- What a group command that got past its first `count` members did to the instruments, when
`refused` is what was received beyond the commands of these members. -/
structure Commanded (group : Group) (value : Level) (bench : Bench) (count : Nat)
    (refused : List (SimulatorId × Call)) (after : Bench) : Prop where
  /-- Every one of these members accepted the level when its turn came. -/
  accepted : group.AcceptedBefore value bench count
  /-- At the turn of every member the commands of those in front of it had been received. -/
  inOrder : ∀ position ≤ count, bench.Received (group.reached value bench position)
    (group.commands value bench position)
  /-- Altogether the commands of these members were received, then the refused one. -/
  received : bench.Received after (group.commands value bench count ++ refused)
  /-- Every channel holds what the last of these members that address it sent, rounded by its
  instrument, and what it held when none of them does. -/
  stored : ∀ id index, (after.simulator id).values[index]? =
    group.storedBefore value bench count id index
  /-- The settings are the ones before, but for the pending refusal that `refused` used up. -/
  settings : ∀ id, (after.simulator id).settings =
    { (bench.simulator id).settings with
      refusedSets := (bench.simulator id).refusedSets -
        if id ∈ refused.map Prod.fst then 1 else 0 }

/-- At a member that declines, a group command leaves what the members in front of it and the
declined command left. -/
theorem Commanded.of_declined {count : Nat} {member : Attenuator}
    (accepted : group.AcceptedBefore value bench count)
    (found : group.members[count]? = some member)
    (undone : ((member.set value).run (group.reached value bench count)).1 ≠ .done ())
    (events : List Event) :
    group.Commanded value bench count
      (if (member.refusal? value (group.reached value bench count)).isSome then
        [(member.simulatorId bench, member.command value)] else [])
      ((group.reached value bench (count + 1)).record events) := by
  obtain ⟨received, values, settings⟩ := Declined.of_not_done undone
  rw [← reached_succ found, accepted.simulatorId_eq] at received
  simp only [← reached_succ found] at values settings
  refine ⟨accepted, fun _ inside => (accepted.mono inside).received,
    accepted.received.trans received, fun id index => ?_, fun id => ?_⟩
  · rw [Bench.simulator_record, values id, accepted.stored_eq]
  · have counter := congrArg Simulator.refusedSets (accepted.settings_eq id)
    rw [Bench.simulator_record, settings id, accepted.settings_eq id,
      accepted.simulatorId_eq,
      show ((group.reached value bench count).simulator id).refusedSets =
        (bench.simulator id).refusedSets from counter]
    by_cases refused : (member.refusal? value (group.reached value bench count)).isSome
    · simp [refused]
    · simp [refused]

end Group

end Attenuation
