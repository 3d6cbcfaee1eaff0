import Attenuation.Group
import Attenuation.Proofs.Attenuator

/-!
# Recorded events change nothing

An action is blind when it records events without ever reading them: what was recorded before stays
in front of what it records and has no effect on what it does. So what an actor records between the
commands of its group has no effect on what the commands do and record.
-/

namespace Attenuation

/-- A bench with events recorded in front of its own. -/
def Bench.behind (earlier : List Event) (bench : Bench) : Bench :=
  { bench with events := earlier ++ bench.events }

/-- Recording events behind others. -/
theorem Bench.behind_record (earlier : List Event) (bench : Bench) (events : List Event) :
    (bench.behind earlier).record events = (bench.record events).behind earlier := by
  simp only [behind, record, List.append_assoc]

/-- Whether an actor records an event of its own, and not its group. -/
def Event.byActor : Event → Bool
  | .actorStarted _ _ => true
  | .actorSetting _ _ => true
  | .actorSynchronizing _ => true
  | .actorStopped _ => true
  | _ => false

/-- A bench without what actors record. -/
def Bench.withoutActors (bench : Bench) : Bench :=
  { bench with events := bench.events.filter fun event => !event.byActor }

/-- What actors record is not there without them. -/
theorem Bench.withoutActors_record (bench : Bench) {events : List Event}
    (own : ∀ event ∈ events, event.byActor) :
    (bench.record events).withoutActors = bench.withoutActors := by
  have none : events.filter (fun event => !event.byActor) = [] := by
    rw [List.filter_eq_nil_iff]
    intro event member
    simp [own event member]
  simp only [withoutActors, record, List.filter_append, none, List.append_nil]

/-- Two benches that are the same without actors differ in their events only. -/
theorem Bench.behind_of_withoutActors {first second : Bench}
    (same : first.withoutActors = second.withoutActors) :
    ∃ bare : Bench, first = bare.behind first.events ∧ second = bare.behind second.events := by
  refine ⟨{ second with events := [] }, ?_, ?_⟩
  · simp only [withoutActors, Bench.mk.injEq] at same
    obtain ⟨simulators, sessions, nextSimulator, nextSession, probes, -⟩ := same
    simp only [behind, List.append_nil, ← simulators, ← sessions, ← nextSimulator, ← nextSession,
      ← probes]
  · simp only [behind, List.append_nil]

namespace Action

variable {ε ε' α β : Type}

/-- An action does not read the events. -/
def Blind (action : Action ε α) : Prop :=
  ∀ bench earlier, action.run (bench.behind earlier) =
    ((action.run bench).1, (action.run bench).2.behind earlier)

namespace Blind

/-- A blind action ends alike on benches that are the same without actors. -/
theorem run_eq {action : Action ε α} (blind : action.Blind) {first second : Bench}
    (same : first.withoutActors = second.withoutActors) :
    (action.run first).1 = (action.run second).1 ∧
      (action.run first).2.withoutActors = (action.run second).2.withoutActors := by
  have events := congrArg Bench.events same
  obtain ⟨bare, one, other⟩ := Bench.behind_of_withoutActors same
  rw [one, other, blind bare first.events, blind bare second.events]
  refine ⟨rfl, ?_⟩
  simp only [Bench.withoutActors, Bench.behind, List.filter_append] at events ⊢
  rw [events]

/-- A value given at once reads nothing. -/
theorem pure (value : α) : (Pure.pure value : Action ε α).Blind := fun _ _ => rfl

/-- A fault reads nothing. -/
theorem fail (fault : ε) : (Action.fail fault : Action ε α).Blind := fun _ _ => rfl

/-- Recording an event reads none. -/
theorem emit (event : Event) : (Action.emit event : Action ε Unit).Blind := fun bench earlier =>
  congrArg (Prod.mk (Outcome.done ())) (bench.behind_record earlier [event])

/-- A sequence is blind when both of its parts are. -/
theorem bind {action : Action ε α} {next : α → Action ε β} (first : action.Blind)
    (rest : ∀ value, (next value).Blind) : (action >>= next).Blind := by
  intro bench earlier
  rw [run_bind, run_bind, first bench earlier]
  cases action.run bench with
  | mk outcome after =>
    cases outcome with
    | done value => exact rest value after earlier
    | failed fault => rfl
    | crashed => rfl

/-- Another form of the fault reads nothing. -/
theorem mapFault {action : Action ε α} (blind : action.Blind) (form : ε → ε') :
    (action.mapFault form).Blind := by
  intro bench earlier
  rw [run_mapFault_outcome, run_mapFault_outcome, blind bench earlier]

/-- An attempt reads nothing more. -/
theorem attempt {action : Action ε α} (blind : action.Blind) :
    (action.attempt : Action ε' (Except ε α)).Blind := by
  intro bench earlier
  rw [run_attempt, run_attempt, blind bench earlier]
  cases action.run bench with
  | mk outcome after => cases outcome <;> rfl

end Blind

end Action

/-- A raw read does not read the events. -/
theorem Session.getRaw_blind (id : SessionId) (index : Nat) : (getRaw id index).Blind := by
  intro bench earlier
  rw [run_getRaw, run_getRaw, run_read, run_read, run_exchange, run_exchange]
  have same : (bench.behind earlier).session id = bench.session id := rfl
  rw [same]
  by_cases poisoned : (bench.session id).poisoned
  · rw [if_pos poisoned, if_pos poisoned]
  · rw [if_neg poisoned, if_neg poisoned]
    by_cases trapped : (bench.session id).trap.onGet = some index
    · rw [if_pos trapped, if_pos trapped]
      rfl
    · rw [if_neg trapped, if_neg trapped]
      exact Prod.ext rfl (Bench.behind_record earlier (bench.putSimulator _ _) _)

/-- A command that reaches its instrument records behind what was recorded before. -/
theorem Attenuator.driven_behind (attenuator : Attenuator) (value : Level)
    (earlier : List Event) (bench : Bench) :
    attenuator.driven value (bench.behind earlier) =
      (attenuator.driven value bench).behind earlier := by
  unfold driven
  rw [Bench.behind_record]
  exact Bench.behind_record earlier ((bench.record _).putSimulator _ _) _

/-- A command to an attenuator does not read the events. -/
theorem Attenuator.set_blind (attenuator : Attenuator) (value : Level) :
    (attenuator.set value).Blind := by
  intro bench earlier
  rw [run_set, run_set]
  have same : attenuator.verdict value (bench.behind earlier) = attenuator.verdict value bench :=
    rfl
  rw [same]
  cases attenuator.verdict value bench with
  | notFinite => rfl
  | poisoned => rfl
  | maximumUnknown => rfl
  | limitExceeded maximum => exact Prod.ext rfl (Bench.behind_record earlier bench _)
  | crashes =>
    rw [Bench.behind_record]
    rfl
  | reaches =>
    rw [driven_behind]
    rfl

/-- Reading an attenuator does not read the events. -/
theorem Attenuator.get_blind (attenuator : Attenuator) : attenuator.get.Blind :=
  ((Session.getRaw_blind _ _).mapFault _).bind fun _ => .pure _

namespace Group

/-- Commanding members in order does not read the events. -/
theorem commandFrom_blind (group : Group) (value : Level) (members : List Attenuator)
    (position : Nat) : (group.commandFrom value position members).Blind := by
  induction members generalizing position with
  | nil => exact .pure ()
  | cons attenuator rest ih =>
    refine ((attenuator.set_blind value).attempt).bind fun result => ?_
    cases result with
    | ok done => exact ih (position + 1)
    | error source => exact (Action.Blind.emit _).bind fun _ => .fail _

/-- A group command does not read the events. -/
theorem set_blind (group : Group) (value : Level) : (group.set value).Blind := by
  unfold set
  by_cases finite : value.isFinite
  · rw [if_pos finite]
    exact (group.commandFrom_blind value group.members 0).bind fun _ =>
      (Action.Blind.emit _).bind fun _ => .pure _
  · rw [if_neg finite]
    exact .fail _

/-- Asking whether a group is synchronized does not read the events. -/
theorem isSynchronized_blind (group : Group) : group.isSynchronized.Blind := by
  unfold isSynchronized
  induction group.members with
  | nil => exact .pure true
  | cons attenuator rest ih =>
    refine attenuator.get_blind.bind fun value => ?_
    by_cases same : value == group.lastCommanded
    · rw [if_pos same]
      exact ih
    · rw [if_neg same]
      exact .pure false

end Group

end Attenuation
