import Attenuation.Bench

/-!
# Actions

An action changes the bench and ends in a value, in a fault, or in a crash of a driver. A fault
can be handled; a crash ends everything that was going on. Actions form a lawful monad, and each
way of making one has a lemma that says what it does when it runs.
-/

namespace Attenuation

/-- How an action ended. -/
inductive Outcome (ε α : Type) where
  /-- The action was done. -/
  | done (value : α)
  /-- The action was not done. -/
  | failed (fault : ε)
  /-- A driver crashed. -/
  | crashed

/-- A computation on the bench. -/
def Action (ε α : Type) : Type := Bench → Outcome ε α × Bench

namespace Action

variable {ε ε' α β : Type}

/-- Run an action on a bench. -/
def run (action : Action ε α) (bench : Bench) : Outcome ε α × Bench := action bench

/-- Two actions that run alike are the same. -/
theorem ext {first second : Action ε α} (same : ∀ bench, first.run bench = second.run bench) :
    first = second := funext same

/-- End in a value and leave the bench alone. -/
protected def pure (value : α) : Action ε α := fun bench => (.done value, bench)

/-- Run one action and go on with its value. A fault or a crash ends both. -/
protected def bind (action : Action ε α) (next : α → Action ε β) : Action ε β := fun bench =>
  match action bench with
  | (.done value, bench) => next value bench
  | (.failed fault, bench) => (.failed fault, bench)
  | (.crashed, bench) => (.crashed, bench)

instance : Monad (Action ε) where
  pure := Action.pure
  bind := Action.bind

/-- End in a fault and leave the bench alone. -/
def fail (fault : ε) : Action ε α := fun bench => (.failed fault, bench)

/-- End in a crash. -/
def crash : Action ε α := fun bench => (.crashed, bench)

/-- The bench as it is. -/
def bench : Action ε Bench := fun bench => (.done bench, bench)

/-- Change the bench and take a value from it. -/
def modifyGet (change : Bench → α × Bench) : Action ε α := fun bench =>
  let (value, bench) := change bench
  (.done value, bench)

/-- Change the bench. -/
def modify (change : Bench → Bench) : Action ε Unit := fun bench => (.done (), change bench)

/-- Record an event. -/
def emit (event : Event) : Action ε Unit := modify fun bench => bench.record [event]

/-- End in the value or the fault of a result. -/
def ofExcept : Except ε α → Action ε α
  | .ok value => Action.pure value
  | .error fault => fail fault

/-- Give the fault of an action another form. -/
def mapFault (form : ε → ε') (action : Action ε α) : Action ε' α := fun bench =>
  match action bench with
  | (.done value, bench) => (.done value, bench)
  | (.failed fault, bench) => (.failed (form fault), bench)
  | (.crashed, bench) => (.crashed, bench)

/-- Run an action and keep its fault as a value. A crash is not kept. -/
def attempt (action : Action ε α) : Action ε' (Except ε α) := fun bench =>
  match action bench with
  | (.done value, bench) => (.done (.ok value), bench)
  | (.failed fault, bench) => (.done (.error fault), bench)
  | (.crashed, bench) => (.crashed, bench)

/-- Run an action and keep how it ended as a value. -/
def observe (action : Action ε α) : Action ε' (Outcome ε α) := fun bench =>
  let (outcome, bench) := action bench
  (.done outcome, bench)

/-- Ending in a value runs to that value. -/
@[simp] theorem run_pure (value : α) (bench : Bench) :
    (pure value : Action ε α).run bench = (.done value, bench) := rfl

/-- A fault leaves the bench alone. -/
@[simp] theorem run_fail (fault : ε) (bench : Bench) :
    (fail fault : Action ε α).run bench = (.failed fault, bench) := rfl

/-- A crash leaves the bench alone. -/
@[simp] theorem run_crash (bench : Bench) :
    (crash : Action ε α).run bench = (.crashed, bench) := rfl

/-- Asking for the bench leaves it alone. -/
@[simp] theorem run_bench (here : Bench) :
    (Action.bench : Action ε Bench).run here = (.done here, here) := rfl

/-- A change of the bench gives its value and leaves the changed bench. -/
@[simp] theorem run_modifyGet (change : Bench → α × Bench) (bench : Bench) :
    (modifyGet change : Action ε α).run bench = (.done (change bench).1, (change bench).2) := rfl

/-- Recording an event only adds it to the bench. -/
@[simp] theorem run_emit (event : Event) (bench : Bench) :
    (emit event : Action ε Unit).run bench = (.done (), bench.record [event]) := rfl

/-- The value of a result leaves the bench alone. -/
@[simp] theorem run_ofExcept_ok (value : α) (bench : Bench) :
    (ofExcept (.ok value) : Action ε α).run bench = (.done value, bench) := rfl

/-- The fault of a result leaves the bench alone. -/
@[simp] theorem run_ofExcept_error (fault : ε) (bench : Bench) :
    (ofExcept (.error fault) : Action ε α).run bench = (.failed fault, bench) := rfl

/-- Running a sequence runs its first action, and the rest unless that one ended otherwise. -/
theorem run_bind (action : Action ε α) (next : α → Action ε β) (bench : Bench) :
    (action >>= next).run bench =
      match action.run bench with
      | (.done value, bench) => (next value).run bench
      | (.failed fault, bench) => (.failed fault, bench)
      | (.crashed, bench) => (.crashed, bench) := rfl

/-- A sequence is done exactly when its first action is done and the rest is done with the value
and on the bench that it left. -/
theorem run_bind_eq_done {action : Action ε α} {next : α → Action ε β} {bench after : Bench}
    {value : β} :
    (action >>= next).run bench = (.done value, after) ↔
      ∃ produced middle, action.run bench = (.done produced, middle) ∧
        (next produced).run middle = (.done value, after) := by
  rw [run_bind]
  constructor
  · intro ran
    split at ran
    · exact ⟨_, _, ‹_›, ran⟩
    all_goals simp at ran
  · rintro ⟨produced, middle, first, rest⟩
    rw [first]
    exact rest

/-- A renamed fault leaves the bench of the action. -/
theorem run_mapFault (form : ε → ε') (action : Action ε α) (bench : Bench) :
    (action.mapFault form).run bench =
      match action.run bench with
      | (.done value, bench) => (.done value, bench)
      | (.failed fault, bench) => (.failed (form fault), bench)
      | (.crashed, bench) => (.crashed, bench) := rfl

/-- A kept fault leaves the bench of the action. -/
theorem run_attempt (action : Action ε α) (bench : Bench) :
    (action.attempt : Action ε' (Except ε α)).run bench =
      match action.run bench with
      | (.done value, bench) => (.done (.ok value), bench)
      | (.failed fault, bench) => (.done (.error fault), bench)
      | (.crashed, bench) => (.crashed, bench) := rfl

/-- A kept ending leaves the bench of the action. -/
@[simp] theorem run_observe (action : Action ε α) (bench : Bench) :
    (action.observe : Action ε' (Outcome ε α)).run bench =
      (.done (action.run bench).1, (action.run bench).2) := rfl

/-- Going on with the same value changes nothing. -/
theorem bind_pure_id (action : Action ε α) :
    (action >>= fun value => pure (id value)) = action := by
  apply ext
  intro bench
  rw [run_bind]
  split <;> simp_all

/-- Sequences of actions are associative. -/
theorem bind_bind {γ : Type} (action : Action ε α) (next : α → Action ε β)
    (last : β → Action ε γ) :
    action >>= next >>= last = action >>= fun value => next value >>= last := by
  apply ext
  intro bench
  simp only [run_bind]
  cases action.run bench with
  | mk outcome bench => cases outcome <;> rfl

instance : LawfulMonad (Action ε) :=
  LawfulMonad.mk' (Action ε) bind_pure_id (fun _ _ => rfl) bind_bind

end Action

end Attenuation
