import Attenuation.Group
import Attenuation.Proofs.Deed

/-!
# The conduct of attenuators and groups

Which deeds the operations on sessions, attenuators and groups are made of, and what their values
are. Every statement leaves open which deeds are allowed, so long as the ones that the operation
needs are.
-/

namespace Attenuation

variable {allowed : Deed → Prop} {bench : Bench}

/-- Emitting an event records it. -/
theorem Action.emit_yields {ε : Type} (quiet : ∀ deed, deed.IsQuiet → allowed deed)
    (event : Event) :
    (Action.emit event : Action ε Unit).Yields (Bench.Evolves allowed) bench fun _ after =>
      after = bench.record [event] := by
  refine .of_run (run_emit event bench) (.record quiet bench _) fun _ _ => rfl

/-- Emitting an event keeps what recording keeps. -/
theorem Action.emit_keeps {ε : Type} {related : Bench → Bench → Prop}
    (records : ∀ before events, related before (before.record events)) (event : Event) :
    (Action.emit event : Action ε Unit).Keeps related bench :=
  .of_run (run_emit event bench) (records bench _) fun _ _ => trivial

namespace Session

/-- Asking for the properties of an instrument does nothing, and they are those on the bench. -/
theorem info_yields {related : Bench → Bench → Prop} [IsPreorder Bench related] (id : SessionId) :
    (info id).Yields related bench fun info after =>
      after = bench ∧ info = (bench.simulator (bench.session id).simulator).info := by
  have ran := run_info id bench
  by_cases poisoned : (bench.session id).poisoned
  · rw [if_pos poisoned] at ran
    exact .of_run ran (refl_of related bench) fun _ done => by cases done
  · rw [if_neg poisoned] at ran
    refine .of_run ran (refl_of related bench) fun info done => ?_
    cases done
    exact ⟨rfl, rfl⟩

/-- An action that is made of allowed deeds and, unless a driver crashes, leaves a session as it
was. A session that is held over several calls stays free by this. -/
def Spares {α : Type} (allowed : Deed → Prop) (id : SessionId) (action : Action SessionFault α)
    (bench : Bench) : Prop :=
  action.Keeps (Bench.Evolves allowed) bench ∧
    ((action.run bench).1 ≠ .crashed →
      (action.run bench).2.session id = bench.session id)

/-- A call through a session that can be held is the crash or the deed that the call stands
for. -/
theorem Spares.exchange {α : Type} (quiet : ∀ deed, deed.IsQuiet → allowed deed)
    {id : SessionId} {call : Simulator → Simulator.Response α} {trapped : Prop}
    [Decidable trapped] {deed : Deed} (sort : allowed deed)
    (free : (bench.session id).poisoned = false) (possible : ¬ trapped → deed.Possible bench)
    (same : deed.perform bench = Deed.answered bench id call) :
    Spares allowed id
      (if trapped then crash id else Session.exchange (bench.session id).simulator call) bench := by
  by_cases hit : trapped
  · rw [if_pos hit]
    have ran := run_crash (α := α) id bench
    refine ⟨.of_run ran ?_ fun _ _ => trivial, fun survived => ?_⟩
    · exact .crash quiet free
    · rw [ran] at survived
      exact absurd rfl survived
  · rw [if_neg hit]
    have ran := run_exchange (bench.session id).simulator call bench
    have evolved := Bench.Evolves.single deed sort (possible hit)
    rw [same] at evolved
    refine ⟨.of_run ran evolved fun _ _ => trivial, fun _ => ?_⟩
    rw [ran]
    rfl

/-- Naming the value of an action changes nothing of what it does. -/
theorem Spares.map {α β : Type} {id : SessionId} {action : Action SessionFault α}
    (spared : Spares allowed id action bench) (name : α → β) :
    Spares allowed id (do return name (← action)) bench := by
  obtain ⟨kept, same⟩ := spared
  refine ⟨kept.bind fun _ _ _ _ => .pure trivial, fun survived => ?_⟩
  rw [Action.run_bind] at survived ⊢
  cases ended : action.run bench with
  | mk outcome after =>
    rw [ended] at survived same
    cases outcome with
    | crashed => exact absurd rfl survived
    | done value => exact same (by simp)
    | failed fault => exact same (by simp)

/-- An attempt ends unless a driver crashes, and leaves the session as it was. -/
theorem Spares.attempt {α : Type} {id : SessionId} {action : Action SessionFault α}
    (spared : Spares allowed id action bench) :
    (action.attempt : Action SessionFault _).Yields (Bench.Evolves allowed) bench
      fun _ after => after.session id = bench.session id := by
  obtain ⟨kept, same⟩ := spared
  refine ⟨kept.attempt.1, fun result done => ?_⟩
  rw [Action.run_attempt] at done ⊢
  cases ended : action.run bench with
  | mk outcome after =>
    rw [ended] at done same
    cases outcome with
    | crashed => cases done
    | done value => exact same (by simp)
    | failed fault => exact same (by simp)

/-- A command through a held session. -/
theorem Spares.command (quiet : ∀ deed, deed.IsQuiet → allowed deed) {id : SessionId}
    {index : Nat} {value : Level} (sort : allowed (.setRaw id index value))
    (free : (bench.session id).poisoned = false) :
    Spares allowed id (Session.command id (bench.session id) index value) bench :=
  .exchange quiet sort free (fun live => ⟨free, live⟩) rfl

/-- A read through a held session. -/
theorem Spares.read (quiet : ∀ deed, deed.IsQuiet → allowed deed) {id : SessionId} {index : Nat}
    (sort : allowed (.get id index)) (free : (bench.session id).poisoned = false) :
    Spares allowed id (Session.read id (bench.session id) index) bench :=
  .exchange quiet sort free (fun live => ⟨free, live⟩) rfl

/-- One call through a held session. -/
theorem Spares.performCall (quiet : ∀ deed, deed.IsQuiet → allowed deed) {id : SessionId}
    {call : Call} (raws : ∀ index value, call = .set index value → allowed (.setRaw id index value))
    (gets : ∀ index, call = .get index → allowed (.get id index))
    (free : (bench.session id).poisoned = false) :
    Spares allowed id (Session.performCall id (bench.session id) call) bench := by
  cases call with
  | set index value => exact (Spares.command quiet (raws index value rfl) free).map fun _ => none
  | get index => exact (Spares.read quiet (gets index rfl) free).map some

/-- Several calls through a held session. A call that does not crash leaves the session as it was
held, so that the next one finds it free. -/
theorem performCalls_yields (quiet : ∀ deed, deed.IsQuiet → allowed deed) {id : SessionId}
    {calls : List Call}
    (raws : ∀ index value, .set index value ∈ calls → allowed (.setRaw id index value))
    (gets : ∀ index, .get index ∈ calls → allowed (.get id index))
    (free : (bench.session id).poisoned = false) :
    (performCalls id (bench.session id) calls).Yields (Bench.Evolves allowed) bench
      fun _ after => after.session id = bench.session id := by
  unfold performCalls
  generalize held : bench.session id = session at free
  induction calls generalizing bench with
  | nil =>
    rw [List.mapM_nil]
    exact .pure held
  | cons call rest ih =>
    rw [List.mapM_cons]
    subst held
    have first := Spares.performCall quiet
      (fun index value same => raws index value (same ▸ List.mem_cons_self))
      (fun index same => gets index (same ▸ List.mem_cons_self)) free
    refine first.attempt.bind fun _ between _ same => ?_
    refine (ih (fun index value inside => raws index value (List.mem_cons_of_mem _ inside))
      (fun index inside => gets index (List.mem_cons_of_mem _ inside)) same).bind ?_
    exact fun _ after _ still => .pure still

/-- What is done while a session is held is done only when the session is not poisoned. -/
theorem hold_bind_keeps {α : Type} {id : SessionId} {next : Session → Action SessionFault α}
    (rest : (bench.session id).poisoned = false →
      (next (bench.session id)).Keeps (Bench.Evolves allowed) bench) :
    (hold id >>= next).Keeps (Bench.Evolves allowed) bench := by
  have ran := run_hold_bind id next bench
  by_cases poisoned : (bench.session id).poisoned
  · rw [if_pos poisoned] at ran
    exact .of_run ran (.refl bench) fun _ _ => trivial
  · rw [if_neg poisoned] at ran
    exact .of_run ran (rest (Bool.eq_false_iff.mpr poisoned)).1 fun _ _ => trivial

/-- A raw command. -/
theorem setRaw_keeps (quiet : ∀ deed, deed.IsQuiet → allowed deed) {id : SessionId}
    {index : Nat} {value : Level} (sort : allowed (.setRaw id index value)) :
    (setRaw id index value).Keeps (Bench.Evolves allowed) bench :=
  hold_bind_keeps fun free => (Spares.command quiet sort free).1

/-- A raw read. -/
theorem getRaw_keeps (quiet : ∀ deed, deed.IsQuiet → allowed deed) {id : SessionId}
    {index : Nat} (sort : allowed (.get id index)) :
    (getRaw id index).Keeps (Bench.Evolves allowed) bench :=
  hold_bind_keeps fun free => (Spares.read quiet sort free).1

/-- Several calls while a session is held once. -/
theorem batch_keeps (quiet : ∀ deed, deed.IsQuiet → allowed deed) {id : SessionId}
    {calls : List Call}
    (raws : ∀ index value, .set index value ∈ calls → allowed (.setRaw id index value))
    (gets : ∀ index, .get index ∈ calls → allowed (.get id index)) :
    (batch id calls).Keeps (Bench.Evolves allowed) bench :=
  hold_bind_keeps fun free => ⟨(performCalls_yields quiet raws gets free).1, fun _ _ => trivial⟩

/-- A crash behind several calls while a session is held. -/
theorem abandon_keeps (quiet : ∀ deed, deed.IsQuiet → allowed deed) {id : SessionId}
    {calls : List Call}
    (raws : ∀ index value, .set index value ∈ calls → allowed (.setRaw id index value))
    (gets : ∀ index, .get index ∈ calls → allowed (.get id index)) :
    (abandon id calls).Keeps (Bench.Evolves allowed) bench := by
  refine hold_bind_keeps fun free => ?_
  refine (performCalls_yields quiet raws gets free).bind fun _ between _ same => ?_
  exact .of_run (run_crash id between) (.crash quiet (by rw [same, free])) fun _ _ => trivial

end Session

namespace Attenuator

/-- An attenuator that is created on an open session is calibrated, and nothing is done. -/
theorem create_yields {session : SessionId} (opened : bench.IsOpen session) (index : Nat)
    (offset : Level) :
    (create session index offset).Yields (Bench.Evolves allowed) bench fun attenuator after =>
      after = bench ∧ bench.Calibrated attenuator := by
  refine .of_run (run_create session index offset bench) (.refl bench) fun attenuator done => ?_
  by_cases finite : offset.isFinite
  case neg => simp [finite] at done
  by_cases poisoned : (bench.session session).poisoned
  case pos => simp [finite, poisoned] at done
  by_cases missing : (bench.simulator (bench.session session).simulator).channelCount ≤ index
  case pos => simp [finite, poisoned, missing] at done
  simp only [finite, poisoned, Bool.false_eq_true, missing, ↓reduceIte,
    Outcome.done.injEq] at done
  subst done
  exact ⟨rfl, opened, Nat.lt_of_not_le missing, finite⟩

/-- A command to an attenuator keeps what recording keeps, where the crash of its driver does and the
answer of its instrument does. -/
theorem set_keeps_of {related : Bench → Bench → Prop} [IsPreorder Bench related]
    (records : ∀ before events, related before (before.record events)) {attenuator : Attenuator}
    {value : Level}
    (crashed : attenuator.verdict value bench = .crashes →
      related (bench.record [attenuator.settingEvent value])
        ((bench.record [attenuator.settingEvent value]).poison attenuator.session))
    (reached : attenuator.verdict value bench = .reaches →
      related bench (attenuator.driven value bench)) :
    (attenuator.set value).Keeps related bench := by
  have ran := run_set attenuator value bench
  cases fared : attenuator.verdict value bench with
  | notFinite =>
    rw [fared] at ran
    exact .of_run ran (refl_of related bench) fun _ _ => trivial
  | poisoned =>
    rw [fared] at ran
    exact .of_run ran (refl_of related bench) fun _ _ => trivial
  | maximumUnknown =>
    rw [fared] at ran
    exact .of_run ran (refl_of related bench) fun _ _ => trivial
  | limitExceeded maximum =>
    rw [fared] at ran
    exact .of_run ran (records bench _) fun _ _ => trivial
  | crashes =>
    rw [fared] at ran
    exact .of_run ran (trans_of related (records bench _) (crashed fared)) fun _ _ => trivial
  | reaches =>
    rw [fared] at ran
    exact .of_run ran (reached fared) fun _ _ => trivial

/-- The commands that an attenuator passes on are the ones that it was asked for. -/
theorem set_keeps (quiet : ∀ deed, deed.IsQuiet → allowed deed) {attenuator : Attenuator}
    {value : Level} (calibrated : bench.Calibrated attenuator)
    (sort : allowed (.set attenuator value)) :
    (attenuator.set value).Keeps (Bench.Evolves allowed) bench :=
  set_keeps_of (fun before events => .record quiet before events)
    (fun fared => .crash quiet (free_of_crashes fared))
    fun fared => .single (.set attenuator value) sort ⟨calibrated, fared⟩

/-- Reading an attenuator reads its channel. -/
theorem get_keeps (quiet : ∀ deed, deed.IsQuiet → allowed deed) {attenuator : Attenuator}
    (sort : allowed (.get attenuator.session attenuator.index)) :
    attenuator.get.Keeps (Bench.Evolves allowed) bench :=
  ((Session.getRaw_keeps quiet sort).mapFault Fault.session).bind fun _ _ _ _ => .pure trivial

/-- Asking for the maximum of an attenuator does nothing. -/
theorem maximum_keeps (attenuator : Attenuator) :
    attenuator.maximum.Keeps (Bench.Evolves allowed) bench := by
  have ran := run_instrumentMaximum attenuator bench
  have kept : attenuator.instrumentMaximum.Keeps (Bench.Evolves allowed) bench := by
    by_cases poisoned : (bench.session attenuator.session).poisoned
    · rw [if_pos poisoned] at ran
      exact .of_run ran (.refl bench) fun _ _ => trivial
    · rw [if_neg poisoned] at ran
      cases known : (attenuator.simulator bench).maximum with
      | none =>
        rw [known] at ran
        exact .of_run ran (.refl bench) fun _ _ => trivial
      | some maximum =>
        rw [known] at ran
        exact .of_run ran (.refl bench) fun _ _ => trivial
  exact kept.bind fun _ _ _ _ => .pure trivial

end Attenuator

namespace Group

/-- Every member has a property. -/
def All (property : Attenuator → Prop) (group : Group) : Prop :=
  ∀ member ∈ group.members, property member

/-- The event of a member that a group gains. -/
def additionEvent (group : Group) (attenuator : Attenuator) : Event :=
  .memberAdded group.name attenuator.model attenuator.index

/-- Extending a group appends the attenuators in order and only records it. -/
theorem run_extend {ε : Type} (group : Group) (attenuators : List Attenuator) (bench : Bench) :
    (group.extend attenuators : Action ε Group).run bench =
      (.done { group with members := group.members ++ attenuators },
        bench.record (attenuators.map group.additionEvent)) := by
  unfold extend
  induction attenuators generalizing group bench with
  | nil => simp
  | cons attenuator rest ih =>
    have added : (group.add attenuator : Action ε Group).run bench =
        (.done { group with members := group.members ++ [attenuator] },
          bench.record [group.additionEvent attenuator]) := rfl
    rw [List.foldlM_cons, Action.run_bind_done _ added, ih, Bench.record_record]
    simp only [List.append_assoc, List.singleton_append, List.map_cons]
    rfl

/-- Extending a group keeps its name and its remembered level. -/
theorem extend_yields {ε : Type} (quiet : ∀ deed, deed.IsQuiet → allowed deed) (group : Group)
    (attenuators : List Attenuator) :
    (group.extend attenuators : Action ε Group).Yields (Bench.Evolves allowed) bench
      fun result _ => result = { group with members := group.members ++ attenuators } := by
  refine .of_run (run_extend group attenuators bench) (.record quiet bench _) fun result done => ?_
  cases done
  rfl

/-- The channels of an instrument are appended as calibrated attenuators. -/
theorem addFrom_yields (quiet : ∀ deed, deed.IsQuiet → allowed deed) (group : Group)
    {session : SessionId} (opened : bench.IsOpen session) (selection : Selection) :
    (group.addFrom session selection).Yields (Bench.Evolves allowed) bench fun result after =>
      ∃ created, result = { group with members := group.members ++ created } ∧
        ∀ attenuator ∈ created, after.Calibrated attenuator := by
  unfold addFrom
  refine (Action.Yields.mapM (fun attenuator after => after.Calibrated attenuator)
    (fun _ _ _ evolved calibrated => evolved.calibrated calibrated) selection.indices
    fun index _ between evolved => ?_).bind fun created between _ calibrated => ?_
  · exact (Attenuator.create_yields (evolved.grown.isOpen opened) index 0.0).weaken
      fun attenuator after _ ⟨same, calibrated⟩ => by rw [same]; exact calibrated
  · exact (extend_yields quiet group created).weaken fun result after evolved same =>
      ⟨created, same, fun attenuator member =>
        evolved.calibrated (calibrated attenuator member)⟩

/-- A group command that is done was for a finite level, and the group remembers it. -/
theorem done_of_set {group result : Group} {value : Level} {bench after : Bench}
    (ran : (group.set value).run bench = (.done result, after)) :
    value.isFinite ∧ result = { group with lastCommanded := value } := by
  unfold set at ran
  by_cases finite : value.isFinite
  case neg => simp [finite] at ran
  rw [if_pos finite] at ran
  obtain ⟨_, _, -, ran⟩ := Action.run_bind_eq_done.mp ran
  obtain ⟨_, _, -, ran⟩ := Action.run_bind_eq_done.mp ran
  cases ran
  exact ⟨finite, rfl⟩

section Related

variable {related : Bench → Bench → Prop} [IsPreorder Bench related]

/-- Members that are commanded in order keep what recording keeps and each of their commands, on
whatever bench the commands in front of it leave. -/
theorem commandFrom_keeps_of (records : ∀ before events, related before (before.record events))
    (group : Group) {value : Level} {members : List Attenuator}
    (each : ∀ member ∈ members, ∀ between, related bench between →
      (member.set value).Keeps related between) (position : Nat) :
    (group.commandFrom value position members).Keeps related bench := by
  induction members generalizing bench position with
  | nil => exact .pure trivial
  | cons attenuator rest ih =>
    have first := each attenuator List.mem_cons_self bench (refl_of related bench)
    refine (Action.Yields.attempt first).bind fun result between kept _ => ?_
    cases result with
    | ok done =>
      exact ih (fun member inside later after => each member
        (List.mem_cons_of_mem attenuator inside) later (trans_of related kept after)) _
    | error source => exact (Action.emit_keeps records _).bind fun _ _ _ _ => .fail _ _

/-- A group command keeps what recording keeps and each command of a member, and what it gives is the
group with the level remembered. -/
theorem set_yields_of (records : ∀ before events, related before (before.record events))
    {group : Group} {value : Level}
    (each : ∀ member ∈ group.members, ∀ between, related bench between →
      (member.set value).Keeps related between) :
    (group.set value).Yields related bench fun result _ =>
      value.isFinite ∧ result = { group with lastCommanded := value } := by
  refine ⟨?_, fun result done => done_of_set (Prod.ext done rfl)⟩
  unfold set
  by_cases finite : value.isFinite
  case neg =>
    rw [if_neg finite]
    exact refl_of related bench
  rw [if_pos finite]
  refine ((commandFrom_keeps_of records group each 0).bind_keeps fun _ between _ => ?_).1
  exact (Action.emit_keeps records _).bind fun _ _ _ _ => .pure trivial

/-- Asking a group whether it is synchronized keeps what each read of a member keeps. -/
theorem isSynchronized_keeps_of {group : Group}
    (each : ∀ member ∈ group.members, ∀ between, related bench between →
      member.get.Keeps related between) :
    group.isSynchronized.Keeps related bench := by
  unfold isSynchronized
  generalize group.members = members at each
  induction members generalizing bench with
  | nil => exact .pure trivial
  | cons attenuator rest ih =>
    have first := each attenuator List.mem_cons_self bench (refl_of related bench)
    refine first.bind fun value between kept _ => ?_
    by_cases same : value == group.lastCommanded
    · rw [if_pos same]
      exact ih fun member inside later after => each member
        (List.mem_cons_of_mem attenuator inside) later (trans_of related kept after)
    · rw [if_neg same]
      exact .pure trivial

end Related

/-- A group command passes on only what the members are asked for, and what it gives is the group
with the level remembered. -/
theorem set_yields (quiet : ∀ deed, deed.IsQuiet → allowed deed) {group : Group} {value : Level}
    (calibrated : group.All bench.Calibrated)
    (sort : ∀ member ∈ group.members, allowed (.set member value)) :
    (group.set value).Yields (Bench.Evolves allowed) bench fun result _ =>
      value.isFinite ∧ result = { group with lastCommanded := value } :=
  set_yields_of (fun before events => .record quiet before events)
    fun member inside _ evolved =>
      Attenuator.set_keeps quiet (evolved.calibrated (calibrated member inside))
        (sort member inside)

/-- A group is asked whether it is synchronized by reading its members. -/
theorem isSynchronized_keeps (quiet : ∀ deed, deed.IsQuiet → allowed deed) {group : Group}
    (sort : ∀ member ∈ group.members, allowed (.get member.session member.index)) :
    group.isSynchronized.Keeps (Bench.Evolves allowed) bench :=
  isSynchronized_keeps_of fun member inside _ _ => Attenuator.get_keeps quiet (sort member inside)

end Group

end Attenuation
