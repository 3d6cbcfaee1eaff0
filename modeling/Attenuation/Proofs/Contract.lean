import Attenuation.Action
import Mathlib.Order.Defs.Unbundled

/-!
# Contracts of actions

A contract of an action on a bench has two halves: the bench that the action leaves stands in a
relation to the bench it started on, however the action ended, and the value of an action that
is done has a property on the bench that was left. A relation that is reflexive and transitive
passes from the parts of a sequence to the sequence.
-/

namespace Attenuation

/-- The outcome of a result. -/
def Outcome.ofExcept {ε α : Type} : Except ε α → Outcome ε α
  | .ok value => .done value
  | .error fault => .failed fault

/-- Give the fault of an outcome another form. -/
def Outcome.mapFault {ε ε' α : Type} (form : ε → ε') : Outcome ε α → Outcome ε' α
  | .done value => .done value
  | .failed fault => .failed (form fault)
  | .crashed => .crashed

/-- Whether an action was done. -/
def Outcome.isDone {ε α : Type} : Outcome ε α → Bool
  | .done _ => true
  | .failed _ => false
  | .crashed => false

/-- The value of an action that was done. -/
def Outcome.value? {ε α : Type} : Outcome ε α → Option α
  | .done value => some value
  | .failed _ => none
  | .crashed => none

/-- The fault of an action that failed. -/
def Outcome.fault? {ε α : Type} : Outcome ε α → Option ε
  | .done _ => none
  | .failed fault => some fault
  | .crashed => none

/-- An outcome with a fault is that of an action that failed. -/
theorem Outcome.eq_failed {ε α : Type} {outcome : Outcome ε α} {fault : ε}
    (found : outcome.fault? = some fault) : outcome = .failed fault := by
  cases outcome with
  | failed other => rw [Option.some.inj found]
  | done value => cases found
  | crashed => cases found

namespace Action

variable {ε ε' α β : Type}

/-- An action that is done gave a value and left a bench. -/
theorem exists_of_isDone {action : Action ε α} {bench : Bench}
    (done : (action.run bench).1.isDone) :
    ∃ value after, action.run bench = (.done value, after) := by
  cases ended : action.run bench with
  | mk outcome after =>
    rw [ended] at done
    cases outcome with
    | done value => exact ⟨value, after, rfl⟩
    | failed fault => cases done
    | crashed => cases done

/-- Running a result gives its outcome and leaves the bench alone. -/
@[simp] theorem run_ofExcept (result : Except ε α) (bench : Bench) :
    (ofExcept result : Action ε α).run bench = (.ofExcept result, bench) := by
  cases result <;> rfl

/-- A renamed fault is the fault of the outcome renamed. -/
@[simp] theorem run_mapFault_outcome (form : ε → ε') (action : Action ε α) (bench : Bench) :
    (action.mapFault form).run bench =
      ((action.run bench).1.mapFault form, (action.run bench).2) := by
  rw [run_mapFault]
  obtain ⟨outcome, after⟩ := action.run bench
  cases outcome <;> rfl

/-- A sequence whose first action is done goes on with its value on the bench it left. -/
theorem run_bind_done {action : Action ε α} (next : α → Action ε β) {bench after : Bench}
    {value : α} (ran : action.run bench = (.done value, after)) :
    (action >>= next).run bench = (next value).run after := by
  rw [run_bind, ran]

/-- A sequence whose first action fails ends there. -/
theorem run_bind_failed {action : Action ε α} (next : α → Action ε β) {bench after : Bench}
    {fault : ε} (ran : action.run bench = (.failed fault, after)) :
    (action >>= next).run bench = (.failed fault, after) := by
  rw [run_bind, ran]

/-- A sequence whose first action crashes ends there. -/
theorem run_bind_crashed {action : Action ε α} (next : α → Action ε β) {bench after : Bench}
    (ran : action.run bench = (.crashed, after)) :
    (action >>= next).run bench = (.crashed, after) := by
  rw [run_bind, ran]

/-- An attempt at an action that is done gives its value. -/
theorem run_attempt_done {action : Action ε α} {bench after : Bench} {value : α}
    (ran : action.run bench = (.done value, after)) :
    (action.attempt : Action ε' (Except ε α)).run bench = (.done (.ok value), after) := by
  rw [run_attempt, ran]

/-- An attempt at an action that fails gives its fault. -/
theorem run_attempt_failed {action : Action ε α} {bench after : Bench} {fault : ε}
    (ran : action.run bench = (.failed fault, after)) :
    (action.attempt : Action ε' (Except ε α)).run bench = (.done (.error fault), after) := by
  rw [run_attempt, ran]

/-- The contract of an action on a bench: what it leaves is related to where it started, and its
value has a property there. -/
def Yields (related : Bench → Bench → Prop) (action : Action ε α) (bench : Bench)
    (property : α → Bench → Prop) : Prop :=
  related bench (action.run bench).2 ∧
    ∀ value, (action.run bench).1 = .done value → property value (action.run bench).2

/-- The contract of an action whose value does not matter. -/
abbrev Keeps (related : Bench → Bench → Prop) (action : Action ε α) (bench : Bench) : Prop :=
  action.Yields related bench fun _ _ => True

namespace Yields

variable {related : Bench → Bench → Prop} {bench : Bench}

/-- A contract says what it says of the outcome and the bench of a run. -/
theorem of_run {action : Action ε α} {property : α → Bench → Prop} {outcome : Outcome ε α}
    {after : Bench} (ran : action.run bench = (outcome, after)) (kept : related bench after)
    (held : ∀ value, outcome = .done value → property value after) :
    action.Yields related bench property := by
  unfold Yields
  rw [ran]
  exact ⟨kept, held⟩

/-- A weaker property of the value holds as well. -/
theorem weaken {action : Action ε α} {strong weak : α → Bench → Prop}
    (contract : action.Yields related bench strong)
    (weaker : ∀ value after, related bench after → strong value after → weak value after) :
    action.Yields related bench weak :=
  ⟨contract.1, fun value done => weaker value _ contract.1 (contract.2 value done)⟩

/-- A weaker relation holds as well. -/
theorem relax {action : Action ε α} {property : α → Bench → Prop} {strong : Bench → Bench → Prop}
    (weaker : ∀ before after, strong before after → related before after)
    (contract : action.Yields strong bench property) : action.Yields related bench property :=
  ⟨weaker _ _ contract.1, contract.2⟩

/-- An action that leaves a related bench keeps it whatever its value is. -/
theorem keeps {action : Action ε α} {property : α → Bench → Prop}
    (contract : action.Yields related bench property) : action.Keeps related bench :=
  contract.weaken fun _ _ _ _ => trivial

/-- The value of an action was given by its run. -/
theorem ran {action : Action ε α} {property : α → Bench → Prop}
    (contract : action.Yields related bench property) :
    action.Yields related bench fun value after =>
      action.run bench = (.done value, after) ∧ property value after :=
  ⟨contract.1, fun value done => ⟨Prod.ext done rfl, contract.2 value done⟩⟩

/-- Another form of the fault changes nothing in a contract. -/
theorem mapFault {action : Action ε α} {property : α → Bench → Prop} (form : ε → ε')
    (contract : action.Yields related bench property) :
    (action.mapFault form).Yields related bench property := by
  obtain ⟨kept, held⟩ := contract
  refine of_run (run_mapFault_outcome form action bench) kept fun value done => held value ?_
  cases outcome : (action.run bench).1 with
  | done other =>
    rw [outcome] at done
    cases done
    rfl
  | failed fault => simp [outcome, Outcome.mapFault] at done
  | crashed => simp [outcome, Outcome.mapFault] at done

/-- An attempt has the property of the value where there is one. -/
theorem attempt {action : Action ε α} {property : α → Bench → Prop}
    (contract : action.Yields related bench property) :
    (action.attempt : Action ε' (Except ε α)).Yields related bench fun result after =>
      ∀ value, result = .ok value → property value after := by
  obtain ⟨kept, held⟩ := contract
  have ran : (action.attempt : Action ε' (Except ε α)).run bench = _ := run_attempt action bench
  cases ended : action.run bench with
  | mk outcome after =>
    rw [ended] at ran kept held
    cases outcome with
    | done found =>
      refine of_run ran kept fun result done value same => ?_
      cases done
      cases same
      exact held _ rfl
    | failed fault =>
      refine of_run ran kept fun result done value same => ?_
      cases done
      cases same
    | crashed => exact of_run ran kept fun result done => by cases done

/-- An observed action has the property of the value where it is done. -/
theorem observe {action : Action ε α} {property : α → Bench → Prop}
    (contract : action.Yields related bench property) :
    (action.observe : Action ε' (Outcome ε α)).Yields related bench fun outcome after =>
      ∀ value, outcome = .done value → property value after := by
  refine of_run (run_observe action bench) contract.1 fun outcome done value same => ?_
  cases done
  exact contract.2 value same

/-- A change of the bench keeps what the change keeps. -/
theorem modifyGet {change : Bench → α × Bench} {property : α → Bench → Prop}
    (kept : related bench (change bench).2)
    (held : property (change bench).1 (change bench).2) :
    (Action.modifyGet change : Action ε α).Yields related bench property := by
  refine of_run (run_modifyGet change bench) kept fun value done => ?_
  cases done
  exact held

section Preorder

variable [IsPreorder Bench related]

/-- A value given at once has the property that it has on the bench at hand. -/
theorem pure {value : α} {property : α → Bench → Prop} (held : property value bench) :
    (Pure.pure value : Action ε α).Yields related bench property :=
  of_run (run_pure value bench) (refl_of related bench) fun other done => by
    cases done
    exact held

/-- A fault has every property. -/
theorem fail (fault : ε) (property : α → Bench → Prop) :
    (Action.fail fault : Action ε α).Yields related bench property :=
  of_run (run_fail fault bench) (refl_of related bench) fun _ done => by cases done

/-- A result has the property that its value has. -/
theorem ofExcept {result : Except ε α} (property : α → Bench → Prop)
    (held : ∀ value, result = .ok value → property value bench) :
    (Action.ofExcept result : Action ε α).Yields related bench property := by
  cases result with
  | ok value => exact pure (held value rfl)
  | error fault => exact fail fault property

/-- A result changes nothing whatever its value is. -/
theorem ofExcept_keeps (result : Except ε α) :
    (Action.ofExcept result : Action ε α).Keeps related bench :=
  ofExcept (fun _ _ => True) fun _ _ => trivial

/-- The bench at hand is the one that asking for it gives. -/
theorem bench_self : (Action.bench : Action ε Bench).Yields related bench fun here after =>
    here = bench ∧ after = bench :=
  of_run (run_bench bench) (refl_of related bench) fun here done => by
    cases done
    exact ⟨rfl, rfl⟩

/-- A sequence keeps the relation when both of its parts do, the second on every bench that the
first may leave. -/
theorem bind {action : Action ε α} {next : α → Action ε β} {middle : α → Bench → Prop}
    {property : β → Bench → Prop} (first : action.Yields related bench middle)
    (rest : ∀ value between, related bench between → middle value between →
      (next value).Yields related between property) :
    (action >>= next).Yields related bench property := by
  obtain ⟨kept, held⟩ := first
  have ran := run_bind action next bench
  cases ended : action.run bench with
  | mk outcome between =>
    rw [ended] at ran kept held
    cases outcome with
    | done value =>
      obtain ⟨later, last⟩ := rest value between kept (held value rfl)
      exact of_run ran (trans_of related kept later) last
    | failed fault => exact of_run ran kept fun _ done => by cases done
    | crashed => exact of_run ran kept fun _ done => by cases done

/-- A list of actions gives a list of values of which each has the property, when the property
of a value outlasts the later actions. -/
theorem mapM {action : α → Action ε β} (property : β → Bench → Prop)
    (lasting : ∀ value before after, related before after → property value before →
      property value after) (items : List α)
    (each : ∀ item ∈ items, ∀ between, related bench between →
      (action item).Yields related between property) :
    (items.mapM action).Yields related bench fun values after =>
      ∀ value ∈ values, property value after := by
  induction items generalizing bench with
  | nil =>
    rw [List.mapM_nil]
    exact pure fun value member => absurd member List.not_mem_nil
  | cons item rest ih =>
    rw [List.mapM_cons]
    refine bind (each item List.mem_cons_self bench (refl_of related bench))
      fun first between kept held => ?_
    refine bind (ih fun other member later after =>
      each other (List.mem_cons_of_mem item member) later (trans_of related kept after))
      fun others last later tail => pure fun value member => ?_
    rcases List.mem_cons.mp member with rfl | inside
    · exact lasting _ between last later held
    · exact tail value inside

/-- A fold of actions keeps a property of what it carries, when every step does. -/
theorem foldlM {action : β → α → Action ε β} (property : β → Bench → Prop) (items : List α)
    (each : ∀ item ∈ items, ∀ carried between, related bench between →
      property carried between → (action carried item).Yields related between property)
    {start : β} (held : property start bench) :
    (items.foldlM action start).Yields related bench property := by
  induction items generalizing bench start with
  | nil =>
    rw [List.foldlM_nil]
    exact pure held
  | cons item rest ih =>
    rw [List.foldlM_cons]
    refine bind (each item List.mem_cons_self start bench (refl_of related bench) held)
      fun carried between kept first => ?_
    exact ih (fun other member later last after =>
      each other (List.mem_cons_of_mem item member) later last
        (trans_of related kept after)) first

/-- A sequence keeps the relation when both of its parts do, whatever the value of the first
is. -/
theorem bind_keeps {action : Action ε α} {next : α → Action ε β}
    (first : action.Keeps related bench)
    (rest : ∀ value between, related bench between → (next value).Keeps related between) :
    (action >>= next).Keeps related bench :=
  bind first fun value between kept _ => rest value between kept

/-- A list of actions keeps the relation when each of them does. -/
theorem mapM_keeps {action : α → Action ε β} (items : List α)
    (each : ∀ item ∈ items, ∀ between, related bench between →
      (action item).Keeps related between) :
    (items.mapM action).Keeps related bench :=
  (mapM (fun _ _ => True) (fun _ _ _ _ _ => trivial) items each).keeps

/-- A fold of actions keeps the relation when every step does. -/
theorem foldlM_keeps {action : β → α → Action ε β} (items : List α)
    (each : ∀ item ∈ items, ∀ carried between, related bench between →
      (action carried item).Keeps related between) (start : β) :
    (items.foldlM action start).Keeps related bench :=
  foldlM (fun _ _ => True) items
    (fun item member carried between kept _ => each item member carried between kept) trivial

end Preorder

end Yields

end Action

end Attenuation
