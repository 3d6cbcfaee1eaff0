import Attenuation.Proofs.Conduct
import Attenuation.Rack

/-!
# Beside a session

Two benches that differ in one session at most are alike to every operation that does not call
through this session (`Action.Beside`): it ends alike on both, and leaves benches that differ in
this session at most. So what happens to a session is nothing to the other sessions, those that
reach the same instrument included, nor to whoever looks at the instruments from outside.
-/

namespace Attenuation

/-- Two benches differ in a session at most. -/
structure Bench.Beside (session : SessionId) (first second : Bench) : Prop where
  /-- The instruments are the same. -/
  simulators : ∀ id, first.simulator id = second.simulator id
  /-- Every other session is the same. -/
  sessions : ∀ other, other ≠ session → first.session other = second.session other
  /-- The next instrument is the same. -/
  nextSimulator : first.nextSimulator = second.nextSimulator
  /-- The next session is the same. -/
  nextSession : first.nextSession = second.nextSession
  /-- The instruments within reach of a probe are the same. -/
  probes : first.probes = second.probes
  /-- The recorded events are the same. -/
  events : first.events = second.events

namespace Bench.Beside

variable {session : SessionId} {first second : Bench}

/-- Recording events on both. -/
theorem record (beside : Beside session first second) (events : List Event) :
    Beside session (first.record events) (second.record events) :=
  { beside with events := by simp only [Bench.record, beside.events] }

/-- Replacing an instrument on both. -/
theorem putSimulator (beside : Beside session first second) (id : SimulatorId)
    (simulator : Simulator) :
    Beside session (first.putSimulator id simulator) (second.putSimulator id simulator) :=
  { beside with
    simulators := fun other => by
      rw [simulator_putSimulator, simulator_putSimulator, beside.simulators other] }

/-- Changing an instrument from outside on both. -/
theorem changeSimulator (beside : Beside session first second) (id : SimulatorId)
    (change : Simulator → Simulator) :
    Beside session (first.changeSimulator id change) (second.changeSimulator id change) := by
  unfold Bench.changeSimulator
  rw [beside.simulators id]
  exact beside.putSimulator id _

/-- Poisoning another session on both. -/
theorem poison (beside : Beside session first second) {other : SessionId}
    (apart : other ≠ session) : Beside session (first.poison other) (second.poison other) :=
  { beside with
    sessions := fun third elsewhere => by
      rw [session_poison, session_poison, beside.sessions other apart,
        beside.sessions third elsewhere] }

end Bench.Beside

namespace Action

variable {ε ε' α β : Type} {session : SessionId}

/-- An action does not call through a session: on benches that differ in it at most, it ends alike
and leaves such benches. -/
def Beside (session : SessionId) (action : Action ε α) : Prop :=
  ∀ first second, Bench.Beside session first second →
    (action.run first).1 = (action.run second).1 ∧
      Bench.Beside session (action.run first).2 (action.run second).2

namespace Beside

/-- A value given at once calls nothing. -/
theorem pure (value : α) : Beside session (Pure.pure value : Action ε α) :=
  fun _ _ beside => ⟨rfl, beside⟩

/-- A fault calls nothing. -/
theorem fail (fault : ε) : Beside session (Action.fail fault : Action ε α) :=
  fun _ _ beside => ⟨rfl, beside⟩

/-- A result calls nothing. -/
theorem ofExcept (result : Except ε α) : Beside session (Action.ofExcept result) := by
  cases result with
  | ok value => exact pure value
  | error fault => exact fail fault

/-- Recording an event calls nothing. -/
theorem emit (event : Event) : Beside session (Action.emit event : Action ε Unit) :=
  fun _ _ beside => ⟨rfl, beside.record [event]⟩

/-- A sequence does not call through a session when neither of its parts does. -/
theorem bind {action : Action ε α} {next : α → Action ε β} (first : Beside session action)
    (rest : ∀ value, Beside session (next value)) : Beside session (action >>= next) := by
  intro one other beside
  rw [run_bind, run_bind]
  obtain ⟨outcomes, benches⟩ := first one other beside
  cases ended : action.run one with
  | mk outcome after =>
    cases finished : action.run other with
    | mk result behind =>
      rw [ended, finished] at outcomes benches
      cases outcomes
      cases outcome with
      | done value => exact rest value after behind benches
      | failed fault => exact ⟨rfl, benches⟩
      | crashed => exact ⟨rfl, benches⟩

/-- Another form of the fault calls nothing. -/
theorem mapFault {action : Action ε α} (apart : Beside session action) (form : ε → ε') :
    Beside session (action.mapFault form) := by
  intro one other beside
  rw [run_mapFault_outcome, run_mapFault_outcome]
  obtain ⟨outcomes, benches⟩ := apart one other beside
  exact ⟨congrArg (Outcome.mapFault form) outcomes, benches⟩

/-- An attempt calls nothing more. -/
theorem attempt {action : Action ε α} (apart : Beside session action) :
    Beside session (action.attempt : Action ε' (Except ε α)) := by
  intro one other beside
  rw [run_attempt, run_attempt]
  obtain ⟨outcomes, benches⟩ := apart one other beside
  cases ended : action.run one with
  | mk outcome after =>
    cases finished : action.run other with
    | mk result behind =>
      rw [ended, finished] at outcomes benches
      cases outcomes
      cases outcome with
      | done value => exact ⟨rfl, benches⟩
      | failed fault => exact ⟨rfl, benches⟩
      | crashed => exact ⟨rfl, benches⟩

/-- A list of actions does not call through a session when none of them does. -/
theorem mapM {action : α → Action ε β} (items : List α)
    (each : ∀ item ∈ items, Beside session (action item)) :
    Beside session (items.mapM action) := by
  induction items with
  | nil =>
    rw [List.mapM_nil]
    exact pure []
  | cons item rest ih =>
    rw [List.mapM_cons]
    refine (each item List.mem_cons_self).bind fun value => ?_
    exact (ih fun other member => each other (List.mem_cons_of_mem item member)).bind
      fun values => pure (value :: values)

end Beside

end Action

namespace Session

variable {session other : SessionId}

/-- What is done while another session is held. -/
theorem hold_bind_beside {α : Type} (apart : other ≠ session)
    {next : Session → Action SessionFault α}
    (rest : ∀ held, Action.Beside session (next held)) :
    Action.Beside session (hold other >>= next) := by
  intro one two beside
  rw [run_hold_bind, run_hold_bind, beside.sessions other apart]
  by_cases poisoned : (two.session other).poisoned
  · rw [if_pos poisoned, if_pos poisoned]
    exact ⟨rfl, beside⟩
  · rw [if_neg poisoned, if_neg poisoned]
    exact rest (two.session other) one two beside

/-- A crash of another session. -/
theorem crash_beside {α : Type} (apart : other ≠ session) :
    Action.Beside session (crash other : Action SessionFault α) := by
  intro one two beside
  rw [run_crash, run_crash]
  exact ⟨rfl, beside.poison apart⟩

/-- A call to an instrument, or a crash of another session in its place. -/
theorem exchange_beside {α : Type} (apart : other ≠ session) {trapped : Prop} [Decidable trapped]
    (simulator : SimulatorId) (call : Simulator → Simulator.Response α) :
    Action.Beside session (if trapped then crash other else exchange simulator call) := by
  by_cases hit : trapped
  · rw [if_pos hit]
    exact crash_beside apart
  · rw [if_neg hit]
    intro one two beside
    rw [run_exchange, run_exchange, beside.simulators simulator]
    exact ⟨rfl, (beside.putSimulator simulator _).record _⟩

/-- The properties of the instrument of another session. -/
theorem info_beside (apart : other ≠ session) : Action.Beside session (info other) := by
  intro one two beside
  rw [run_info, run_info, beside.sessions other apart, beside.simulators]
  by_cases poisoned : (two.session other).poisoned
  · rw [if_pos poisoned, if_pos poisoned]
    exact ⟨rfl, beside⟩
  · rw [if_neg poisoned, if_neg poisoned]
    exact ⟨rfl, beside⟩

/-- A part of the properties of the instrument of another session. -/
theorem info_bind_beside (apart : other ≠ session) {α : Type} (part : InstrumentInfo → α) :
    Action.Beside session (do return part (← info other)) :=
  (info_beside apart).bind fun _ => .pure _

/-- A raw command through another session. -/
theorem setRaw_beside (apart : other ≠ session) (index : Nat) (value : Level) :
    Action.Beside session (setRaw other index value) :=
  hold_bind_beside apart fun _ => exchange_beside apart _ _

/-- A raw read through another session. -/
theorem getRaw_beside (apart : other ≠ session) (index : Nat) :
    Action.Beside session (getRaw other index) :=
  hold_bind_beside apart fun _ => exchange_beside apart _ _

/-- Several calls through another session that is held. -/
theorem performCalls_beside (apart : other ≠ session) (held : Session) (calls : List Call) :
    Action.Beside session (performCalls other held calls) := by
  refine .mapM calls fun call _ => ?_
  cases call with
  | set index value =>
    exact ((exchange_beside apart held.simulator _).bind fun _ => .pure none).attempt
  | get index =>
    exact ((exchange_beside apart held.simulator _).bind fun value => .pure (some value)).attempt

/-- Several calls while another session is held. -/
theorem batch_beside (apart : other ≠ session) (calls : List Call) :
    Action.Beside session (batch other calls) :=
  hold_bind_beside apart fun held => performCalls_beside apart held calls

/-- A crash behind several calls while another session is held. -/
theorem abandon_beside (apart : other ≠ session) (calls : List Call) :
    Action.Beside session (abandon other calls) :=
  hold_bind_beside apart fun held =>
    (performCalls_beside apart held calls).bind fun _ => crash_beside apart

/-- The description of the instrument of another session. -/
theorem description_beside {ε : Type} (apart : other ≠ session) :
    Action.Beside session (description other : Action ε String) := by
  refine (info_beside apart).attempt.bind fun result => ?_
  cases result with
  | ok info => exact .pure _
  | error fault => exact .pure _

end Session

namespace Attenuator

variable {session : SessionId} {attenuator : Attenuator}

/-- An attenuator created on another session. -/
theorem create_beside {other : SessionId} (apart : other ≠ session) (index : Nat)
    (offset : Level) : Action.Beside session (create other index offset) := by
  refine (Action.Beside.ofExcept _).bind fun _ => ?_
  refine ((Session.info_beside apart).mapFault _).bind fun info => ?_
  by_cases missing : info.channelCount ≤ index
  · rw [if_pos missing]
    exact .fail _
  · rw [if_neg missing]
    exact .pure _

/-- The maximum of the instrument of an attenuator on another session. -/
theorem instrumentMaximum_beside (apart : attenuator.session ≠ session) :
    Action.Beside session attenuator.instrumentMaximum := by
  refine ((Session.info_bind_beside apart _).mapFault _).bind fun reported => ?_
  cases reported with
  | none => exact .fail _
  | some maximum => exact .pure maximum

/-- The maximum of an attenuator on another session. -/
theorem maximum_beside (apart : attenuator.session ≠ session) :
    Action.Beside session attenuator.maximum :=
  (instrumentMaximum_beside apart).bind fun _ => .pure _

/-- A command to an attenuator on another session. -/
theorem set_beside (apart : attenuator.session ≠ session) (value : Level) :
    Action.Beside session (attenuator.set value) := by
  refine (Action.Beside.ofExcept _).bind fun _ => ?_
  refine (instrumentMaximum_beside apart).bind fun maximum => ?_
  by_cases above : maximum < attenuator.raw value
  · rw [if_pos above]
    exact (Action.Beside.emit _).bind fun _ => .fail _
  · rw [if_neg above]
    exact (Action.Beside.emit _).bind fun _ =>
      (Session.setRaw_beside apart attenuator.index _).mapFault _

/-- A read of an attenuator on another session. -/
theorem get_beside (apart : attenuator.session ≠ session) :
    Action.Beside session attenuator.get :=
  ((Session.getRaw_beside apart attenuator.index).mapFault _).bind fun _ => .pure _

end Attenuator

namespace Group

variable {session : SessionId} {group : Group}

/-- A command to members that are all on other sessions. -/
theorem commandFrom_beside (group : Group) (value : Level) {members : List Attenuator}
    (apart : ∀ member ∈ members, member.session ≠ session) (position : Nat) :
    Action.Beside session (group.commandFrom value position members) := by
  induction members generalizing position with
  | nil => exact .pure ()
  | cons attenuator rest ih =>
    have first := Attenuator.set_beside (apart attenuator List.mem_cons_self) value
    refine first.attempt.bind fun result => ?_
    cases result with
    | ok done => exact ih (fun member inside => apart member (List.mem_cons_of_mem _ inside)) _
    | error source => exact (Action.Beside.emit _).bind fun _ => .fail _

/-- A command to a group whose members are all on other sessions. -/
theorem set_beside (apart : ∀ member ∈ group.members, member.session ≠ session) (value : Level) :
    Action.Beside session (group.set value) := by
  unfold set
  by_cases finite : value.isFinite
  · rw [if_pos finite]
    refine (group.commandFrom_beside value apart 0).bind fun _ => ?_
    exact (Action.Beside.emit _).bind fun _ => .pure _
  · rw [if_neg finite]
    exact .fail _

/-- Whether a group whose members are all on other sessions is synchronized. -/
theorem isSynchronized_beside (apart : ∀ member ∈ group.members, member.session ≠ session) :
    Action.Beside session group.isSynchronized := by
  unfold isSynchronized
  generalize group.members = members at apart
  induction members with
  | nil => exact .pure true
  | cons attenuator rest ih =>
    refine (Attenuator.get_beside (apart attenuator List.mem_cons_self)).bind fun value => ?_
    by_cases same : value == group.lastCommanded
    · rw [if_pos same]
      exact ih fun member inside => apart member (List.mem_cons_of_mem _ inside)
    · rw [if_neg same]
      exact .pure false

/-- Channels of the instrument of another session that are appended to a group. -/
theorem addFrom_beside {other : SessionId} (apart : other ≠ session) (selection : Selection) :
    Action.Beside session (group.addFrom other selection) := by
  refine (Action.Beside.mapM _ fun index _ =>
    Attenuator.create_beside apart index 0.0).bind fun created => ?_
  intro one two beside
  rw [run_extend, run_extend]
  exact ⟨rfl, beside.record _⟩

end Group

/-- A snapshot of a rack whose instruments are all on other sessions. -/
theorem Rack.status_beside {session : SessionId} {rack : Rack}
    (apart : ∀ instrument ∈ rack.instruments, instrument.session ≠ session) :
    Action.Beside session rack.status :=
  (Action.Beside.mapM _ fun instrument inside =>
    (Session.info_beside (apart instrument inside)).mapFault _).bind fun _ => .pure _

end Attenuation
