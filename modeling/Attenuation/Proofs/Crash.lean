import Attenuation.Proofs.Lab

/-!
# Crashes

A crash of a driver ends the operation in which it happens, and it poisons one session and nothing
else of the sessions: the one through which the call was made, which was free up to then. An
operation that makes no call through a session does not crash (`Action.Survives`), and one that does
either leaves every session as it was or strikes one of those through which it calls
(`Action.Strikes`). Of an operation as a whole only the second half is said (`Action.Hits`).
-/

namespace Attenuation

/-- Whether an action crashed. -/
def Outcome.isCrashed {ε α : Type} : Outcome ε α → Bool
  | .done _ => false
  | .failed _ => false
  | .crashed => true

/-- An outcome of an action that crashed is the crash. -/
theorem Outcome.eq_crashed {ε α : Type} {outcome : Outcome ε α} (crashed : outcome.isCrashed) :
    outcome = .crashed := by
  cases outcome with
  | done value => cases crashed
  | failed fault => cases crashed
  | crashed => rfl

/-- A session that was free is poisoned, and every other session is as it was. -/
structure Bench.Struck (before : Bench) (session : SessionId) (after : Bench) : Prop where
  /-- The session was free. -/
  free : (before.session session).poisoned = false
  /-- The session is the one it was, with the mark set. -/
  poisoned : after.session session = { before.session session with poisoned := true }
  /-- Every other session is as it was. -/
  others : ∀ other, other ≠ session → after.session other = before.session other

/-- A session that is struck later was struck from the start, when the sessions were as they were
up to then. -/
theorem Bench.Struck.of_same {before between after : Bench} {session : SessionId}
    (same : ∀ other, between.session other = before.session other)
    (struck : between.Struck session after) : before.Struck session after where
  free := by rw [← same session, struck.free]
  poisoned := by rw [← same session, struck.poisoned]
  others other apart := (struck.others other apart).trans (same other)

/-- Poisoning a free session strikes it. -/
theorem Bench.struck_poison {bench : Bench} {session : SessionId}
    (free : (bench.session session).poisoned = false) :
    bench.Struck session (bench.poison session) where
  free := free
  poisoned := by simp
  others other apart := by simp [apart]

namespace Action

variable {ε ε' α β : Type} {bench after : Bench}

/-- An action does not crash on any bench. -/
def Survives (action : Action ε α) : Prop :=
  ∀ bench, (action.run bench).1 ≠ .crashed

/-- A crash of a sequence is one of its first action, or one of the rest. -/
theorem crashed_of_bind {action : Action ε α} {next : α → Action ε β}
    (ran : (action >>= next).run bench = (.crashed, after)) :
    action.run bench = (.crashed, after) ∨
      ∃ value between, action.run bench = (.done value, between) ∧
        (next value).run between = (.crashed, after) := by
  rw [run_bind] at ran
  cases ended : action.run bench with
  | mk outcome between =>
    rw [ended] at ran
    cases outcome with
    | done value => exact .inr ⟨value, between, rfl, ran⟩
    | failed fault => cases ran
    | crashed =>
      cases ran
      exact .inl rfl

/-- A crash with a renamed fault is one of the action. -/
theorem crashed_of_mapFault {action : Action ε α} {form : ε → ε'}
    (ran : (action.mapFault form).run bench = (.crashed, after)) :
    action.run bench = (.crashed, after) := by
  rw [run_mapFault] at ran
  cases ended : action.run bench with
  | mk outcome between =>
    rw [ended] at ran
    cases outcome with
    | done value => cases ran
    | failed fault => cases ran
    | crashed =>
      cases ran
      rfl

namespace Survives

/-- A value given at once does not crash. -/
theorem pure (value : α) : (Pure.pure value : Action ε α).Survives := fun _ crashed => by
  cases crashed

/-- A fault does not crash. -/
theorem fail (fault : ε) : (Action.fail fault : Action ε α).Survives := fun _ crashed => by
  cases crashed

/-- A result does not crash. -/
theorem ofExcept (result : Except ε α) : (Action.ofExcept result).Survives := by
  cases result with
  | ok value => exact pure value
  | error fault => exact fail fault

/-- Asking for the bench does not crash. -/
theorem here : (Action.bench : Action ε Bench).Survives := fun _ crashed => by cases crashed

/-- A change of the bench does not crash. -/
theorem modifyGet (change : Bench → α × Bench) :
    (Action.modifyGet change : Action ε α).Survives := fun _ crashed => by cases crashed

/-- Recording an event does not crash. -/
theorem emit (event : Event) : (Action.emit event : Action ε Unit).Survives := fun _ crashed => by
  cases crashed

/-- A sequence does not crash when neither of its parts does. -/
theorem bind {action : Action ε α} {next : α → Action ε β} (first : action.Survives)
    (rest : ∀ value, (next value).Survives) : (action >>= next).Survives := by
  intro bench crashed
  have ran : (action >>= next).run bench = (.crashed, ((action >>= next).run bench).2) :=
    Prod.ext crashed rfl
  rcases crashed_of_bind ran with here | ⟨value, between, -, later⟩
  · exact first bench (congrArg Prod.fst here)
  · exact rest value between (congrArg Prod.fst later)

/-- Another form of the fault does not crash. -/
theorem mapFault {action : Action ε α} (survives : action.Survives) (form : ε → ε') :
    (action.mapFault form).Survives := by
  intro bench crashed
  exact survives bench (congrArg Prod.fst (crashed_of_mapFault (Prod.ext crashed rfl)))

/-- An attempt does not crash when the action does not. -/
theorem attempt {action : Action ε α} (survives : action.Survives) :
    (action.attempt : Action ε' (Except ε α)).Survives := by
  intro bench crashed
  have alive := survives bench
  rw [run_attempt] at crashed
  cases ended : action.run bench with
  | mk outcome between =>
    rw [ended] at crashed alive
    cases outcome with
    | done value => cases crashed
    | failed fault => cases crashed
    | crashed => exact alive rfl

/-- Observing an action does not crash, also when the action does. -/
theorem observe (action : Action ε α) : (action.observe : Action ε' (Outcome ε α)).Survives := by
  intro bench crashed
  cases crashed

/-- A list of actions does not crash when none of them does. -/
theorem mapM {action : α → Action ε β} (each : ∀ item, (action item).Survives)
    (items : List α) : (items.mapM action).Survives := by
  induction items with
  | nil =>
    rw [List.mapM_nil]
    exact pure []
  | cons item rest ih =>
    rw [List.mapM_cons]
    exact (each item).bind fun first => ih.bind fun others => pure (first :: others)

/-- A fold of actions does not crash when no step does. -/
theorem foldlM {action : β → α → Action ε β} (each : ∀ carried item, (action carried item).Survives)
    (items : List α) (start : β) : (items.foldlM action start).Survives := by
  induction items generalizing start with
  | nil =>
    rw [List.foldlM_nil]
    exact pure start
  | cons item rest ih =>
    rw [List.foldlM_cons]
    exact (each start item).bind fun carried => ih carried

end Survives

/-- A sequence whose rest does not crash crashes in its first action. -/
theorem crashed_first {action : Action ε α} {next : α → Action ε β}
    (rest : ∀ value, (next value).Survives)
    (ran : (action >>= next).run bench = (.crashed, after)) :
    action.run bench = (.crashed, after) := by
  rcases crashed_of_bind ran with here | ⟨value, between, -, later⟩
  · exact here
  · exact absurd (congrArg Prod.fst later) (rest value between)

/-- An action either leaves every session as it was, or crashes and strikes a session through which
it calls. -/
structure Strikes (through : SessionId → Prop) (action : Action ε α) (bench : Bench) : Prop where
  /-- Without a crash every session is as it was. -/
  spared : (action.run bench).1 ≠ .crashed →
    ∀ session, (action.run bench).2.session session = bench.session session
  /-- A crash strikes a session through which the action calls. -/
  struck : (action.run bench).1 = .crashed →
    ∃ session, through session ∧ bench.Struck session (action.run bench).2

namespace Strikes

variable {through : SessionId → Prop}

/-- An action that ends without a crash and leaves every session as it was. -/
theorem of_run {action : Action ε α} {outcome : Outcome ε α}
    (ran : action.run bench = (outcome, after)) (alive : outcome ≠ .crashed)
    (same : ∀ session, after.session session = bench.session session) :
    action.Strikes through bench := by
  refine ⟨fun _ => ?_, fun crashed => ?_⟩
  · rw [ran]
    exact same
  · rw [ran] at crashed
    exact absurd crashed alive

/-- An action that crashes and strikes a session through which it calls. -/
theorem of_crash {action : Action ε α} {session : SessionId}
    (ran : action.run bench = (.crashed, after)) (called : through session)
    (struck : bench.Struck session after) : action.Strikes through bench := by
  refine ⟨fun alive => ?_, fun _ => ⟨session, called, ?_⟩⟩
  · rw [ran] at alive
    exact absurd rfl alive
  · rw [ran]
    exact struck

/-- A crash strikes a session through which the action calls. -/
theorem of_crashed {action : Action ε α} (strikes : action.Strikes through bench)
    (ran : action.run bench = (.crashed, after)) :
    ∃ session, through session ∧ bench.Struck session after := by
  have struck := strikes.struck
  rw [ran] at struck
  exact struck rfl

/-- A value given at once leaves every session as it was. -/
theorem pure (value : α) : (Pure.pure value : Action ε α).Strikes through bench :=
  of_run (run_pure value bench) (fun crashed => by cases crashed) fun _ => rfl

/-- A fault leaves every session as it was. -/
theorem fail (fault : ε) : (Action.fail fault : Action ε α).Strikes through bench :=
  of_run (run_fail fault bench) (fun crashed => by cases crashed) fun _ => rfl

/-- Recording an event leaves every session as it was. -/
theorem emit (event : Event) : (Action.emit event : Action ε Unit).Strikes through bench :=
  of_run (run_emit event bench) (fun crashed => by cases crashed) fun _ => rfl

/-- A sequence strikes what its parts strike, the second on every bench that the first may leave. -/
theorem bind {action : Action ε α} {next : α → Action ε β}
    (first : action.Strikes through bench)
    (rest : ∀ value between, (∀ session, between.session session = bench.session session) →
      (next value).Strikes through between) : (action >>= next).Strikes through bench := by
  have ran := run_bind action next bench
  cases ended : action.run bench with
  | mk outcome between =>
    rw [ended] at ran
    cases outcome with
    | done value =>
      have same := first.spared
      rw [ended] at same
      have kept := same fun crashed => by cases crashed
      obtain ⟨spared, struck⟩ := rest value between kept
      change (action >>= next).run bench = (next value).run between at ran
      refine ⟨fun alive session => ?_, fun crashed => ?_⟩
      · rw [ran] at alive ⊢
        exact (spared alive session).trans (kept session)
      · rw [ran] at crashed ⊢
        obtain ⟨session, called, hit⟩ := struck crashed
        exact ⟨session, called, hit.of_same kept⟩
    | failed fault =>
      have same := first.spared
      rw [ended] at same
      exact of_run ran (fun crashed => by cases crashed) (same fun crashed => by cases crashed)
    | crashed =>
      have hit := first.struck
      rw [ended] at hit
      obtain ⟨session, called, struck⟩ := hit rfl
      exact of_crash ran called struck

/-- Another form of the fault strikes nothing more. -/
theorem mapFault {action : Action ε α} (strikes : action.Strikes through bench) (form : ε → ε') :
    (action.mapFault form).Strikes through bench := by
  obtain ⟨spared, struck⟩ := strikes
  have ran := run_mapFault form action bench
  cases ended : action.run bench with
  | mk outcome between =>
    rw [ended] at ran spared struck
    cases outcome with
    | done value =>
      exact of_run ran (fun crashed => by cases crashed) (spared fun crashed => by cases crashed)
    | failed fault =>
      exact of_run ran (fun crashed => by cases crashed) (spared fun crashed => by cases crashed)
    | crashed =>
      obtain ⟨session, called, hit⟩ := struck rfl
      exact of_crash ran called hit

/-- An attempt strikes nothing more. -/
theorem attempt {action : Action ε α} (strikes : action.Strikes through bench) :
    (action.attempt : Action ε' (Except ε α)).Strikes through bench := by
  obtain ⟨spared, struck⟩ := strikes
  have ran : (action.attempt : Action ε' (Except ε α)).run bench = _ := run_attempt action bench
  cases ended : action.run bench with
  | mk outcome between =>
    rw [ended] at ran spared struck
    cases outcome with
    | done value =>
      exact of_run ran (fun crashed => by cases crashed) (spared fun crashed => by cases crashed)
    | failed fault =>
      exact of_run ran (fun crashed => by cases crashed) (spared fun crashed => by cases crashed)
    | crashed =>
      obtain ⟨session, called, hit⟩ := struck rfl
      exact of_crash ran called hit

end Strikes

/-- A crash of an action strikes a session through which it calls. Without a crash the action may
change sessions, or open new ones. -/
def Hits (through : SessionId → Prop) (action : Action ε α) (bench : Bench) : Prop :=
  ∀ after, action.run bench = (.crashed, after) →
    ∃ session, through session ∧ bench.Struck session after

variable {through : SessionId → Prop}

/-- An action that strikes the sessions through which it calls hits them. -/
theorem Strikes.hits {action : Action ε α} (strikes : action.Strikes through bench) :
    action.Hits through bench := fun _ ran => strikes.of_crashed ran

namespace Hits

/-- An action that does not crash hits nothing. -/
theorem of_survives {action : Action ε α} (survives : action.Survives) :
    action.Hits through bench :=
  fun _ ran => absurd (congrArg Prod.fst ran) (survives bench)

/-- An action hits what it may hit, however widely that is described. -/
theorem imp {action : Action ε α} {wide : SessionId → Prop} (hits : action.Hits through bench)
    (wider : ∀ session, through session → wide session) : action.Hits wide bench := by
  intro after ran
  obtain ⟨session, called, struck⟩ := hits after ran
  exact ⟨session, wider session called, struck⟩

/-- Another form of the fault hits nothing more. -/
theorem mapFault {action : Action ε α} (hits : action.Hits through bench) (form : ε → ε') :
    (action.mapFault form).Hits through bench :=
  fun after ran => hits after (crashed_of_mapFault ran)

/-- A sequence whose rest does not crash hits what its first action hits. -/
theorem bind {action : Action ε α} {next : α → Action ε β} (hits : action.Hits through bench)
    (rest : ∀ value, (next value).Survives) : (action >>= next).Hits through bench :=
  fun after ran => hits after (crashed_first rest ran)

end Hits

end Action

namespace Session

variable {through : SessionId → Prop} {bench : Bench} {id : SessionId}

/-- Asking for the properties of an instrument does not crash. -/
theorem info_survives (id : SessionId) : (info id).Survives := by
  intro bench crashed
  rw [run_info] at crashed
  by_cases poisoned : (bench.session id).poisoned
  · rw [if_pos poisoned] at crashed
    cases crashed
  · rw [if_neg poisoned] at crashed
    cases crashed

/-- A call through a session that is held crashes and strikes that session, or leaves every session
as it was. -/
theorem exchange_strikes {α : Type} {call : Simulator → Simulator.Response α} {trapped : Prop}
    [Decidable trapped] (called : through id) (free : (bench.session id).poisoned = false)
    (simulator : SimulatorId) :
    (if trapped then crash id else exchange simulator call).Strikes through bench := by
  by_cases hit : trapped
  · rw [if_pos hit]
    exact .of_crash (run_crash id bench) called (Bench.struck_poison free)
  · rw [if_neg hit]
    refine .of_run (run_exchange simulator call bench) (fun crashed => ?_) fun _ => rfl
    cases answered : (call (bench.simulator simulator)).answer with
    | ok value =>
      rw [answered] at crashed
      cases crashed
    | error fault =>
      rw [answered] at crashed
      cases crashed

/-- What is done while a session is held strikes what it strikes when the session is free. -/
theorem hold_bind_strikes {α : Type} {next : Session → Action SessionFault α}
    (rest : (bench.session id).poisoned = false →
      (next (bench.session id)).Strikes through bench) :
    (hold id >>= next).Strikes through bench := by
  have ran := run_hold_bind id next bench
  by_cases poisoned : (bench.session id).poisoned
  · rw [if_pos poisoned] at ran
    exact .of_run ran (fun crashed => by cases crashed) fun _ => rfl
  · rw [if_neg poisoned] at ran
    obtain ⟨spared, struck⟩ := rest (Bool.eq_false_iff.mpr poisoned)
    refine ⟨fun alive => ?_, fun crashed => ?_⟩
    · rw [ran] at alive ⊢
      exact spared alive
    · rw [ran] at crashed ⊢
      exact struck crashed

/-- A raw command strikes its session if it crashes. -/
theorem setRaw_strikes (called : through id) (index : Nat) (value : Level) :
    (setRaw id index value).Strikes through bench :=
  hold_bind_strikes fun free => exchange_strikes called free _

/-- A raw read strikes its session if it crashes. -/
theorem getRaw_strikes (called : through id) (index : Nat) :
    (getRaw id index).Strikes through bench :=
  hold_bind_strikes fun free => exchange_strikes called free _

/-- One call through a session that is held strikes that session if it crashes. -/
theorem performCall_strikes (called : through id) (free : (bench.session id).poisoned = false)
    (session : Session) (call : Call) :
    (performCall id session call).Strikes through bench := by
  cases call with
  | set index value =>
    exact (exchange_strikes called free session.simulator).bind fun _ _ _ => .pure none
  | get index =>
    exact (exchange_strikes called free session.simulator).bind fun value _ _ => .pure (some value)

/-- Several calls through a session that is held strike that session if one of them crashes. -/
theorem performCalls_strikes (called : through id) (free : (bench.session id).poisoned = false)
    (session : Session) (calls : List Call) :
    (performCalls id session calls).Strikes through bench := by
  unfold performCalls
  induction calls generalizing bench with
  | nil =>
    rw [List.mapM_nil]
    exact .pure []
  | cons call rest ih =>
    rw [List.mapM_cons]
    refine (performCall_strikes called free session call).attempt.bind fun first between same => ?_
    have still : (between.session id).poisoned = false := by rw [same id, free]
    exact (ih still).bind fun others _ _ => .pure (first :: others)

/-- A batch strikes its session if it crashes. -/
theorem batch_strikes (called : through id) (calls : List Call) :
    (batch id calls).Strikes through bench :=
  hold_bind_strikes fun free => performCalls_strikes called free _ calls

/-- A crash behind several calls strikes the session that is held. -/
theorem abandon_strikes (called : through id) (calls : List Call) :
    (abandon id calls).Strikes through bench := by
  refine hold_bind_strikes fun free => ?_
  refine (performCalls_strikes called free _ calls).bind fun _ between same => ?_
  have still : (between.session id).poisoned = false := by rw [same id, free]
  exact .of_crash (run_crash id between) called (Bench.struck_poison still)

/-- A crash behind several calls leaves what the calls leave, with the session poisoned. -/
theorem run_abandon {calls : List Call} {after : Bench}
    {answers : List (Except SessionFault (Option Level))}
    (ran : (batch id calls).run bench = (.done answers, after)) :
    (abandon id calls).run bench = (.crashed, after.poison id) := by
  unfold batch at ran
  unfold abandon
  rw [run_hold_bind] at ran ⊢
  by_cases poisoned : (bench.session id).poisoned
  · rw [if_pos poisoned] at ran
    cases ran
  · rw [if_neg poisoned] at ran ⊢
    rw [Action.run_bind_done _ ran]
    exact run_crash id after

end Session

namespace Attenuator

variable {through : SessionId → Prop} {bench : Bench}

/-- Creating an attenuator does not crash. -/
theorem create_survives (session : SessionId) (index : Nat) (offset : Level) :
    (create session index offset).Survives := by
  refine (Action.Survives.ofExcept _).bind fun _ => ?_
  refine ((Session.info_survives session).mapFault _).bind fun info => ?_
  by_cases missing : info.channelCount ≤ index
  · rw [if_pos missing]
    exact .fail _
  · rw [if_neg missing]
    exact .pure _

/-- Asking for the maximum of an attenuator does not crash. -/
theorem maximum_survives (attenuator : Attenuator) : attenuator.maximum.Survives := by
  have asked : (Session.maximum attenuator.session).Survives :=
    (Session.info_survives attenuator.session).bind fun _ => .pure _
  have known : attenuator.instrumentMaximum.Survives := by
    refine (asked.mapFault _).bind fun reported => ?_
    cases reported with
    | none => exact .fail _
    | some maximum => exact .pure maximum
  exact known.bind fun _ => .pure _

/-- A command to an attenuator strikes its session if it crashes. -/
theorem set_strikes {attenuator : Attenuator} (called : through attenuator.session)
    (value : Level) : (attenuator.set value).Strikes through bench := by
  have ran := run_set attenuator value bench
  cases fared : attenuator.verdict value bench with
  | notFinite =>
    rw [fared] at ran
    exact .of_run ran (fun crashed => by cases crashed) fun _ => rfl
  | poisoned =>
    rw [fared] at ran
    exact .of_run ran (fun crashed => by cases crashed) fun _ => rfl
  | maximumUnknown =>
    rw [fared] at ran
    exact .of_run ran (fun crashed => by cases crashed) fun _ => rfl
  | limitExceeded maximum =>
    rw [fared] at ran
    exact .of_run ran (fun crashed => by cases crashed) fun _ => rfl
  | crashes =>
    rw [fared] at ran
    have announced : bench.Struck attenuator.session
        ((bench.record [attenuator.settingEvent value]).poison attenuator.session) :=
      ⟨free_of_crashes fared, by simp, fun other apart => by simp [apart]⟩
    exact .of_crash ran called announced
  | reaches =>
    rw [fared] at ran
    refine .of_run ran (fun crashed => ?_) fun _ => rfl
    cases answered : (attenuator.response value bench).answer with
    | ok value =>
      rw [answered] at crashed
      cases crashed
    | error fault =>
      rw [answered] at crashed
      cases crashed

/-- A read of an attenuator strikes its session if it crashes. -/
theorem get_strikes {attenuator : Attenuator} (called : through attenuator.session) :
    attenuator.get.Strikes through bench :=
  ((Session.getRaw_strikes called attenuator.index).mapFault _).bind fun _ _ _ => .pure _

end Attenuator

namespace Group

variable {through : SessionId → Prop} {bench : Bench}

/-- Extending a group does not crash. -/
theorem extend_survives {ε : Type} (group : Group) (attenuators : List Attenuator) :
    (group.extend attenuators : Action ε Group).Survives :=
  .foldlM (fun _ _ => (Action.Survives.emit _).bind fun _ => .pure _) attenuators group

/-- Appending channels of an instrument does not crash. -/
theorem addFrom_survives (group : Group) (session : SessionId) (selection : Selection) :
    (group.addFrom session selection).Survives :=
  (Action.Survives.mapM (fun index => Attenuator.create_survives session index 0.0) _).bind
    fun created => group.extend_survives created

/-- Members that are commanded in order strike the session of one of them if one crashes. -/
theorem commandFrom_strikes (group : Group) (value : Level) {members : List Attenuator}
    (called : ∀ member ∈ members, through member.session) (position : Nat) :
    (group.commandFrom value position members).Strikes through bench := by
  induction members generalizing bench position with
  | nil => exact .pure ()
  | cons attenuator rest ih =>
    have first : (attenuator.set value).Strikes through bench :=
      Attenuator.set_strikes (called attenuator List.mem_cons_self) value
    refine first.attempt.bind fun result between _ => ?_
    cases result with
    | ok done => exact ih (fun member inside => called member (List.mem_cons_of_mem _ inside)) _
    | error source => exact (Action.Strikes.emit _).bind fun _ _ _ => .fail _

/-- A group command strikes the session of a member if it crashes. -/
theorem set_strikes {group : Group} (called : ∀ member ∈ group.members, through member.session)
    (value : Level) : (group.set value).Strikes through bench := by
  unfold set
  by_cases finite : value.isFinite
  · rw [if_pos finite]
    refine (group.commandFrom_strikes value called 0).bind fun _ _ _ => ?_
    exact (Action.Strikes.emit _).bind fun _ _ _ => .pure _
  · rw [if_neg finite]
    exact .fail _

/-- Asking whether a group is synchronized strikes the session of a member if it crashes. -/
theorem isSynchronized_strikes {group : Group}
    (called : ∀ member ∈ group.members, through member.session) :
    group.isSynchronized.Strikes through bench := by
  unfold isSynchronized
  generalize group.members = members at called
  induction members generalizing bench with
  | nil => exact .pure true
  | cons attenuator rest ih =>
    have first : attenuator.get.Strikes through bench :=
      Attenuator.get_strikes (called attenuator List.mem_cons_self)
    refine first.bind fun value between _ => ?_
    by_cases same : value == group.lastCommanded
    · rw [if_pos same]
      exact ih fun member inside => called member (List.mem_cons_of_mem _ inside)
    · rw [if_neg same]
      exact .pure false

/-- A request to a group strikes the session of a member if it crashes. -/
theorem carryOut_strikes {ε : Type} {group : Group}
    (called : ∀ member ∈ group.members, through member.session) (request : Request) :
    (group.carryOut request : Action ε (Group × Answer)).Strikes through bench := by
  have commands (level : Level) (here : Bench) :
      ((group.set level).attempt >>= fun result => pure (group.commandAnswer result) :
        Action ε (Group × Answer)).Strikes through here :=
    (set_strikes called level).attempt.bind fun _ _ _ => .pure _
  cases request with
  | set level =>
    rw [carryOut_set]
    exact (Action.Strikes.emit _).bind fun _ here _ => commands level here
  | get => exact .pure _
  | isSynchronized =>
    rw [carryOut_isSynchronized]
    exact (isSynchronized_strikes called).attempt.bind fun _ _ _ => .pure _
  | synchronize =>
    rw [carryOut_synchronize]
    exact (Action.Strikes.emit _).bind fun _ here _ => commands group.lastCommanded here
  | shutdown => exact .pure _

end Group

namespace Rack

/-- Connecting a driver does not crash. -/
theorem connect_survives (catalog : Catalog) (config : InstrumentConfig) :
    (catalog.connect config).Survives :=
  (Action.Survives.ofExcept _).bind fun _ => .modifyGet _

/-- Building an instrument does not crash. -/
theorem buildInstrument_survives (catalog : Catalog) (config : InstrumentConfig) :
    (buildInstrument catalog config).Survives := by
  refine (connect_survives catalog config).bind fun session => ?_
  have counted : (Session.channelCount session).Survives :=
    (Session.info_survives session).bind fun _ => .pure _
  refine (counted.mapFault _).bind fun reported => ?_
  by_cases matching : reported = config.channelCount.toNat
  case neg =>
    rw [if_neg matching]
    exact .fail _
  rw [if_pos matching]
  have created (index : Nat) : (buildAttenuator config session index).Survives := by
    refine ((Attenuator.create_survives session index _).mapFault _).bind fun attenuator => ?_
    cases config.path index with
    | none => exact .pure _
    | some path => exact .pure _
  exact (Action.Survives.mapM created _).bind fun _ =>
    (Action.Survives.emit _).bind fun _ => .pure _

/-- Building a group does not crash. -/
theorem buildGroup_survives (instruments : List RackInstrument) (config : GroupConfig) :
    (buildGroup instruments config).Survives := by
  have added (group : Group) (reference : MemberRef) :
      (addMember instruments group reference).Survives := by
    unfold addMember
    cases channelOf? instruments reference.instrument.toNat reference.index.toNat with
    | none => exact .fail _
    | some attenuator => exact (Action.Survives.emit _).bind fun _ => .pure _
  exact (Action.Survives.foldlM added _ _).bind fun _ => (Action.Survives.emit _).bind fun _ =>
    .pure _

/-- Building a rack does not crash. -/
theorem build_survives (config : RackConfig) (catalog : Catalog) :
    (build config catalog).Survives := by
  refine ((Action.Survives.ofExcept _).mapFault _).bind fun _ => ?_
  refine (Action.Survives.mapM (buildInstrument_survives catalog) _).bind fun instruments => ?_
  exact (Action.Survives.mapM (buildGroup_survives instruments) _).bind fun groups => .pure _

/-- A snapshot does not crash. -/
theorem status_survives (rack : Rack) : rack.status.Survives :=
  (Action.Survives.mapM (fun instrument : RackInstrument =>
    (Session.info_survives instrument.session).mapFault _) _).bind fun _ => .pure _

/-- A listing does not crash. -/
theorem listing_survives {ε : Type} (rack : Rack) :
    (rack.listing : Action ε String).Survives := by
  have line (entry : RackInstrument × Nat) :
      (listedInstrument entry.1 entry.2 : Action ε String).Survives := by
    have asked : (Session.maximum entry.1.session).Survives :=
      (Session.info_survives entry.1.session).bind fun _ => .pure _
    refine (asked.attempt.bind fun result => ?_).bind fun _ => .pure _
    cases result with
    | error fault => exact .pure _
    | ok maximum => cases maximum <;> exact .pure _
  exact (Action.Survives.mapM line _).bind fun _ => .pure _

end Rack

namespace Command

/-- The sessions through which a command calls. -/
def Calls (command : Command) (rack : Rack) (session : SessionId) : Prop :=
  (∃ attenuator value, command.Asks rack attenuator value ∧ attenuator.session = session) ∨
    ∃ index, command.Reads rack session index

/-- A command calls through open sessions. -/
theorem Calls.isOpen {command : Command} {rack : Rack} {session : SessionId} {bench : Bench}
    (called : command.Calls rack session) (all : rack.All bench.Calibrated) :
    bench.IsOpen session := by
  rcases called with ⟨attenuator, value, asked, rfl⟩ | ⟨index, read⟩
  · have supplied : Supplied bench.Calibrated (fun _ => True) rack := ⟨all, fun _ _ => trivial⟩
    exact (supplied.asks (fun _ _ => trivial) asked).1.isOpen
  · cases command with
    | check name =>
      obtain ⟨group, found, member, inside, rfl, -⟩ := read
      exact (all.groups group (Rack.group?_mem found) member inside).isOpen
    | getChannel instrument channel =>
      obtain ⟨attenuator, found, rfl, -⟩ := read
      exact (all.instruments attenuator (Rack.attenuator?_mem found)).isOpen
    | _ => exact read.elim

/-- A command to a group hits what is hit with the group that it names. -/
theorem group_hits {rack : Rack} {name : String} {bench : Bench} {α : Type}
    {through : SessionId → Prop} {next : Group → Action CommandFault α}
    (rest : ∀ found, rack.group? name = some found → (next found).Hits through bench) :
    (group rack name >>= next).Hits through bench := by
  unfold group Rack.requireGroup
  cases present : rack.group? name with
  | none => exact .of_survives fun _ crashed => by cases crashed
  | some found => exact rest found present

/-- A command to a channel hits what is hit with the channel that it names. -/
theorem channel_hits {rack : Rack} {instrument index : Nat} {bench : Bench} {α : Type}
    {through : SessionId → Prop} {next : Attenuator → Action CommandFault α}
    (rest : ∀ found, rack.attenuator? instrument index = some found →
      (next found).Hits through bench) :
    (channel rack instrument index >>= next).Hits through bench := by
  unfold channel
  cases present : rack.attenuator? instrument index with
  | none => exact .of_survives fun _ crashed => by cases crashed
  | some attenuator => exact rest attenuator present

/-- A command that crashes strikes a session through which it calls. -/
theorem run_hits (rack : Rack) (command : Command) (bench : Bench) :
    (command.run rack).Hits (command.Calls rack) bench := by
  have quiet (value : String × Rack) : (pure value : Action CommandFault _).Survives := .pure value
  cases command with
  | list => exact .of_survives (rack.listing_survives.bind fun _ => quiet _)
  | status => exact .of_survives ((rack.status_survives.mapFault _).bind fun _ => quiet _)
  | get name => exact group_hits fun found _ => .of_survives (quiet _)
  | set name value =>
    refine group_hits fun found present => ?_
    have strikes : (found.set value).Strikes (Command.Calls (.set name value) rack) bench :=
      Group.set_strikes (fun member inside =>
        .inl ⟨member, value, ⟨found, present, inside, rfl⟩, rfl⟩) value
    exact (strikes.hits.mapFault _).bind fun _ => quiet _
  | sync name =>
    refine group_hits fun found present => ?_
    have strikes : found.synchronize.Strikes (Command.Calls (.sync name) rack) bench :=
      Group.set_strikes (fun member inside =>
        .inl ⟨member, found.lastCommanded, ⟨found, present, inside, rfl⟩, rfl⟩) _
    exact (strikes.hits.mapFault _).bind fun _ => quiet _
  | check name =>
    refine group_hits fun found present => ?_
    have strikes : found.isSynchronized.Strikes (Command.Calls (.check name) rack) bench :=
      Group.isSynchronized_strikes fun member inside =>
        .inr ⟨member.index, found, present, member, inside, rfl, rfl⟩
    exact (strikes.hits.mapFault _).bind fun _ => quiet _
  | getChannel instrument index =>
    refine channel_hits fun found present => ?_
    have strikes : found.get.Strikes (Command.Calls (.getChannel instrument index) rack) bench :=
      Attenuator.get_strikes (.inr ⟨found.index, found, present, rfl, rfl⟩)
    exact (strikes.hits.mapFault _).bind fun _ => quiet _
  | setChannel instrument index value =>
    refine channel_hits fun found present => ?_
    have strikes :
        (found.set value).Strikes (Command.Calls (.setChannel instrument index value) rack) bench :=
      Attenuator.set_strikes (.inl ⟨found, value, ⟨present, rfl⟩, rfl⟩) value
    exact (strikes.hits.mapFault _).bind fun _ => quiet _

/-- A sequence of commands does not crash: a crash of a command is how the sequence ended. -/
theorem runAll_survives {ε : Type} (rack : Rack) (commands : List Command) :
    (runAll rack commands : Action ε Transcript).Survives := by
  induction commands generalizing rack with
  | nil => exact .pure _
  | cons command rest ih =>
    refine (Action.Survives.observe _).bind fun outcome => ?_
    cases outcome with
    | failed fault => exact .pure _
    | crashed => exact .pure _
    | done answer => exact (ih answer.2).bind fun _ => .pure _

end Command

/-- A run of the program does not crash as a whole. -/
theorem CommandLine.operate_survives (config : RackConfig) (commands : List Command) :
    (operate config commands).Survives := by
  have listed : (Catalog.simulated : Action RunFault Catalog).Survives :=
    .foldlM (fun _ _ => (Action.Survives.emit _).bind fun _ => .pure _) _ _
  refine listed.bind fun catalog => ?_
  exact ((Rack.build_survives config catalog).mapFault _).bind fun rack =>
    Command.runAll_survives rack commands

/-- A step of an actor does not crash: a crash of its driver closes it. -/
theorem Actor.serve_survives {ε : Type} (actor : Actor) :
    (actor.serve : Action ε Actor).Survives := by
  have stops (closing : Actor) (group : Group) :
      (closing.stop group : Action ε Actor).Survives :=
    (Action.Survives.emit _).bind fun _ => .pure _
  by_cases closed : actor.isClosed
  · rw [serve_of_closed closed]
    exact .pure actor
  cases phase : actor.phase with
  | stopped group => simp [isClosed, phase] at closed
  | crashed => simp [isClosed, phase] at closed
  | serving group =>
    cases mailbox : actor.mailbox with
    | nil =>
      rw [serve_of_idle phase mailbox]
      by_cases lost : actor.handles = 0
      · rw [if_pos lost]
        exact stops actor group
      · rw [if_neg lost]
        exact .pure actor
    | cons mail rest =>
      rw [serve_of_mail phase mailbox]
      by_cases shutdown : isShutdown mail
      · rw [if_pos shutdown]
        exact stops _ group
      · rw [if_neg shutdown]
        intro bench crashed
        rw [run_serveMail] at crashed
        cases ended : (group.carryOut mail.request : Action ε (Group × Answer)).run bench with
        | mk outcome left =>
          rw [ended] at crashed
          cases outcome <;> cases crashed

/-- A step of an actor that crashes its driver strikes the session of a member of its group. -/
theorem Actor.serve_struck {ε : Type} {actor after : Actor} {bench left : Bench}
    (ran : (actor.serve : Action ε Actor).run bench = (.done after, left))
    (alive : actor.phase ≠ .crashed) (crashed : after.phase = .crashed) :
    ∃ group, actor.phase = .serving group ∧
      ∃ member ∈ group.members, bench.Struck member.session left := by
  have stops (closing : Actor) (group : Group)
      (ran : (closing.stop group : Action ε Actor).run bench = (.done after, left)) : False := by
    cases ran
    rw [close_eq] at crashed
    cases crashed
  by_cases closed : actor.isClosed
  · rw [serve_of_closed closed] at ran
    cases ran
    exact absurd crashed alive
  cases phase : actor.phase with
  | stopped group => simp [isClosed, phase] at closed
  | crashed => simp [isClosed, phase] at closed
  | serving group =>
    refine ⟨group, rfl, ?_⟩
    cases mailbox : actor.mailbox with
    | nil =>
      rw [serve_of_idle phase mailbox] at ran
      by_cases lost : actor.handles = 0
      · rw [if_pos lost] at ran
        exact (stops actor group ran).elim
      · rw [if_neg lost] at ran
        cases ran
        exact absurd crashed alive
    | cons mail rest =>
      rw [serve_of_mail phase mailbox] at ran
      by_cases shutdown : isShutdown mail
      · rw [if_pos shutdown] at ran
        exact (stops _ group ran).elim
      · rw [if_neg shutdown, run_serveMail] at ran
        have strikes : (group.carryOut mail.request : Action ε (Group × Answer)).Strikes
            (fun session => ∃ member ∈ group.members, member.session = session) bench :=
          Group.carryOut_strikes (fun member inside => ⟨member, inside, rfl⟩) mail.request
        cases ended : (group.carryOut mail.request : Action ε (Group × Answer)).run bench with
        | mk outcome behind =>
          rw [ended] at ran
          cases outcome with
          | done result =>
            cases ran
            cases crashed
          | failed fault => cases ran
          | crashed =>
            cases ran
            obtain ⟨_, ⟨member, inside, rfl⟩, struck⟩ := strikes.of_crashed ended
            exact ⟨member, inside, struck⟩

namespace Operation

/-- The sessions through which an operation calls. -/
def Calls (held : Holdings) (operation : Operation) (session : SessionId) : Prop :=
  match operation with
  | .setRaw other _ _ => other = session
  | .batch other _ => other = session
  | .abandon other _ => other = session
  | operation => (∃ attenuator value, operation.Asks held attenuator value ∧
      attenuator.session = session) ∨ ∃ index, operation.Reads held session index

/-- Looking for something that is held does not crash. -/
theorem require_survives {α : Type} (option : Option α) : (require option).Survives := by
  cases option with
  | none => exact .fail _
  | some value => exact .pure value

/-- An action on something that is on the bench does not crash when the action does not. -/
theorem whenPresent_survives {present : Bench → Prop} [DecidablePred present] {α : Type}
    {action : Action LabFault α} (survives : action.Survives) :
    (whenPresent present action).Survives := by
  refine Action.Survives.here.bind fun bench => ?_
  by_cases there : present bench
  · rw [if_pos there]
    exact survives
  · rw [if_neg there]
    exact .fail _

/-- An operation calls through a session: it is one that reaches a channel, or one that holds a
session. -/
def IsCall : Operation → Prop
  | .setRaw _ _ _ => True
  | .getRaw _ _ => True
  | .batch _ _ => True
  | .abandon _ _ => True
  | .setLevel _ _ => True
  | .getLevel _ => True
  | .setGroup _ _ => True
  | .synchronize _ => True
  | .isSynchronized _ => True
  | .command _ _ => True
  | _ => False

/-- An operation that does not call through a session does not crash. -/
theorem act_survives (held : Holdings) {operation : Operation} (quiet : ¬ operation.IsCall) :
    (operation.act held).Survives := by
  cases operation with
  | addSimulator config => exact (Action.Survives.modifyGet _).bind fun _ => .pure held
  | adjust id adjustment => exact whenPresent_survives (.modifyGet _)
  | openSession id trap =>
    exact whenPresent_survives ((Action.Survives.modifyGet _).bind fun _ => .pure held)
  | info session =>
    exact whenPresent_survives (((Session.info_survives session).mapFault _).bind fun _ =>
      .pure held)
  | createAttenuator session index offset =>
    exact whenPresent_survives (((Attenuator.create_survives session index offset).mapFault _).bind
      fun _ => .pure _)
  | copyAttenuator place => exact (require_survives _).bind fun _ => .pure _
  | setOffset position offset =>
    exact (require_survives _).bind fun attenuator =>
      ((Action.Survives.ofExcept _).mapFault _).bind fun _ => .pure _
  | setPath position path => exact (require_survives _).bind fun _ => .pure _
  | getMaximum place =>
    exact (require_survives _).bind fun attenuator =>
      (attenuator.maximum_survives.mapFault _).bind fun _ => .pure held
  | newGroup name => exact .pure _
  | copyGroup place => exact (require_survives _).bind fun _ => .pure _
  | extendGroup place places =>
    exact (require_survives _).bind fun group => (require_survives _).bind fun attenuators =>
      (group.extend_survives attenuators).bind fun _ => .pure _
  | addFrom place session selection =>
    exact whenPresent_survives ((require_survives _).bind fun group =>
      ((group.addFrom_survives session selection).mapFault _).bind fun _ => .pure _)
  | buildRack config catalog =>
    exact ((Rack.build_survives config catalog).mapFault _).bind fun _ => .pure _
  | rackStatus position =>
    exact (require_survives _).bind fun rack =>
      (rack.status_survives.mapFault _).bind fun _ => .pure held
  | takeGroup position name =>
    exact (require_survives _).bind fun rack => (require_survives _).bind fun _ => .pure _
  | spawn position buffer =>
    exact (require_survives _).bind fun group =>
      ((Action.Survives.emit _).bind fun _ => .pure _).bind fun _ => .pure _
  | send position request => exact (require_survives _).bind fun _ => .pure _
  | serve position =>
    exact (require_survives _).bind fun worker => worker.actor.serve_survives.bind fun _ => .pure _
  | addHandle position => exact (require_survives _).bind fun _ => .pure _
  | dropHandle position => exact (require_survives _).bind fun _ => .pure _
  | join position =>
    refine (require_survives _).bind fun worker => ?_
    cases worker.joined with
    | true => exact .fail _
    | false =>
      cases worker.actor.phase with
      | serving group => exact .fail _
      | crashed => exact .fail _
      | stopped group => exact .pure _
  | program config commands =>
    exact ((CommandLine.operate_survives config commands).mapFault _).bind fun _ => .pure held
  | setRaw session index value => exact absurd trivial quiet
  | getRaw session index => exact absurd trivial quiet
  | batch session calls => exact absurd trivial quiet
  | abandon session calls => exact absurd trivial quiet
  | setLevel place value => exact absurd trivial quiet
  | getLevel place => exact absurd trivial quiet
  | setGroup place value => exact absurd trivial quiet
  | synchronize place => exact absurd trivial quiet
  | isSynchronized place => exact absurd trivial quiet
  | command position order => exact absurd trivial quiet

variable {held : Holdings} {bench : Bench}

/-- What is done with something that is held hits what is hit where it is there. -/
theorem require_hits {α β : Type} {option : Option α} {next : α → Action LabFault β}
    {through : SessionId → Prop}
    (rest : ∀ value, option = some value → (next value).Hits through bench) :
    (require option >>= next).Hits through bench := by
  cases option with
  | none => exact .of_survives (.fail _)
  | some value => exact rest value rfl

/-- What is done with something on the bench hits what is hit where it is there. -/
theorem whenPresent_hits {present : Bench → Prop} [DecidablePred present] {α : Type}
    {action : Action LabFault α} {through : SessionId → Prop}
    (rest : present bench → action.Hits through bench) :
    (whenPresent present action).Hits through bench := by
  intro after ran
  change (if present bench then action else Action.fail .noSuchObject).run bench = _ at ran
  by_cases there : present bench
  · rw [if_pos there] at ran
    exact rest there after ran
  · rw [if_neg there] at ran
    cases ran

/-- An open session through which an operation calls. The bench holds it open, or what is known of
an attenuator that has it. -/
def CallsOpen (held : Holdings) (bench : Bench) (operation : Operation) (session : SessionId) :
    Prop :=
  operation.Calls held session ∧ bench.IsOpen session

/-- A raw command that crashes strikes its session. -/
theorem setRaw_hits (session : SessionId) (index : Nat) (value : Level) :
    (act held (.setRaw session index value)).Hits
      (CallsOpen held bench (.setRaw session index value)) bench := by
  refine whenPresent_hits fun opened => ?_
  have strikes : (Session.setRaw session index value).Strikes
      (CallsOpen held bench (.setRaw session index value)) bench :=
    Session.setRaw_strikes ⟨rfl, opened⟩ index value
  exact (strikes.hits.mapFault _).bind fun _ => .pure held

/-- A raw read that crashes strikes its session. -/
theorem getRaw_hits (session : SessionId) (index : Nat) :
    (act held (.getRaw session index)).Hits (CallsOpen held bench (.getRaw session index)) bench := by
  refine whenPresent_hits fun opened => ?_
  have strikes : (Session.getRaw session index).Strikes
      (CallsOpen held bench (.getRaw session index)) bench :=
    Session.getRaw_strikes ⟨.inr ⟨index, rfl, rfl⟩, opened⟩ index
  exact (strikes.hits.mapFault _).bind fun _ => .pure held

/-- Several calls strike the session that is held if one of them crashes. -/
theorem batch_hits (session : SessionId) (calls : List Call) :
    (act held (.batch session calls)).Hits (CallsOpen held bench (.batch session calls)) bench := by
  refine whenPresent_hits fun opened => ?_
  have strikes : (Session.batch session calls).Strikes
      (CallsOpen held bench (.batch session calls)) bench :=
    Session.batch_strikes ⟨rfl, opened⟩ calls
  exact (strikes.hits.mapFault _).bind fun _ => .pure held

/-- A crash behind several calls strikes the session that is held. -/
theorem abandon_hits (session : SessionId) (calls : List Call) :
    (act held (.abandon session calls)).Hits
      (CallsOpen held bench (.abandon session calls)) bench := by
  refine whenPresent_hits fun opened => ?_
  have strikes : (Session.abandon session calls).Strikes
      (CallsOpen held bench (.abandon session calls)) bench :=
    Session.abandon_strikes ⟨rfl, opened⟩ calls
  exact (strikes.hits.mapFault _).bind fun _ => .pure held

/-- A command to an attenuator that crashes strikes its session. -/
theorem setLevel_hits (all : held.All bench.Calibrated) (place : AttenuatorPlace) (value : Level) :
    (act held (.setLevel place value)).Hits
      (CallsOpen held bench (.setLevel place value)) bench := by
  refine require_hits fun attenuator found => ?_
  have strikes : (attenuator.set value).Strikes
      (CallsOpen held bench (.setLevel place value)) bench :=
    Attenuator.set_strikes ⟨.inl ⟨attenuator, value, ⟨found, rfl⟩, rfl⟩,
      (all.attenuator? found).isOpen⟩ value
  exact (strikes.hits.mapFault _).bind fun _ => .pure held

/-- A read of an attenuator that crashes strikes its session. -/
theorem getLevel_hits (all : held.All bench.Calibrated) (place : AttenuatorPlace) :
    (act held (.getLevel place)).Hits (CallsOpen held bench (.getLevel place)) bench := by
  refine require_hits fun attenuator found => ?_
  have strikes : attenuator.get.Strikes (CallsOpen held bench (.getLevel place)) bench :=
    Attenuator.get_strikes ⟨.inr ⟨attenuator.index, attenuator, found, rfl, rfl⟩,
      (all.attenuator? found).isOpen⟩
  exact (strikes.hits.mapFault _).bind fun _ => .pure held

/-- A command to a group that crashes strikes the session of a member. -/
theorem setGroup_hits (all : held.All bench.Calibrated) (place : GroupPlace) (value : Level) :
    (act held (.setGroup place value)).Hits
      (CallsOpen held bench (.setGroup place value)) bench := by
  refine require_hits fun group found => ?_
  have strikes : (group.set value).Strikes (CallsOpen held bench (.setGroup place value)) bench :=
    Group.set_strikes (fun member inside => ⟨.inl ⟨member, value, ⟨group, found, inside, rfl⟩, rfl⟩,
      (all.group? found member inside).isOpen⟩) value
  exact (strikes.hits.mapFault _).bind fun _ => .pure _

/-- A command to a group to its remembered level that crashes strikes the session of a member. -/
theorem synchronize_hits (all : held.All bench.Calibrated) (place : GroupPlace) :
    (act held (.synchronize place)).Hits (CallsOpen held bench (.synchronize place)) bench := by
  refine require_hits fun group found => ?_
  have strikes : group.synchronize.Strikes (CallsOpen held bench (.synchronize place)) bench :=
    Group.set_strikes (fun member inside =>
      ⟨.inl ⟨member, group.lastCommanded, ⟨group, found, inside, rfl⟩, rfl⟩,
        (all.group? found member inside).isOpen⟩) _
  exact (strikes.hits.mapFault _).bind fun _ => .pure _

/-- A read of a group that crashes strikes the session of a member. -/
theorem isSynchronized_hits (all : held.All bench.Calibrated) (place : GroupPlace) :
    (act held (.isSynchronized place)).Hits
      (CallsOpen held bench (.isSynchronized place)) bench := by
  refine require_hits fun group found => ?_
  have strikes : group.isSynchronized.Strikes
      (CallsOpen held bench (.isSynchronized place)) bench :=
    Group.isSynchronized_strikes fun member inside =>
      ⟨.inr ⟨member.index, group, found, member, inside, rfl, rfl⟩,
        (all.group? found member inside).isOpen⟩
  exact (strikes.hits.mapFault _).bind fun _ => .pure held

/-- A command on a rack that crashes strikes a session of the rack. -/
theorem command_hits (all : held.All bench.Calibrated) (position : Nat) (order : Command) :
    (act held (.command position order)).Hits
      (CallsOpen held bench (.command position order)) bench := by
  refine require_hits fun rack found => ?_
  have known := all.racks rack (List.mem_of_getElem? found)
  have hits : (order.run rack).Hits (CallsOpen held bench (.command position order)) bench := by
    refine (order.run_hits rack bench).imp fun session called => ⟨?_, called.isOpen known⟩
    rcases called with ⟨attenuator, value, asked, same⟩ | ⟨index, read⟩
    · exact .inl ⟨attenuator, value, ⟨rack, found, asked⟩, same⟩
    · exact .inr ⟨index, rack, found, read⟩
  exact (hits.mapFault _).bind fun _ => .pure _

/-- An operation that crashes strikes an open session through which it calls. -/
theorem act_hits (all : held.All bench.Calibrated) (operation : Operation) :
    (operation.act held).Hits (CallsOpen held bench operation) bench := by
  by_cases call : operation.IsCall
  case neg => exact .of_survives (act_survives held call)
  cases operation with
  | setRaw session index value => exact setRaw_hits session index value
  | getRaw session index => exact getRaw_hits session index
  | batch session calls => exact batch_hits session calls
  | abandon session calls => exact abandon_hits session calls
  | setLevel place value => exact setLevel_hits all place value
  | getLevel place => exact getLevel_hits all place
  | setGroup place value => exact setGroup_hits all place value
  | synchronize place => exact synchronize_hits all place
  | isSynchronized place => exact isSynchronized_hits all place
  | command position order => exact command_hits all position order
  | _ => exact call.elim

end Operation

end Attenuation
