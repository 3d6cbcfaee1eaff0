import Attenuation.Proofs.Contract

/-!
# What an action leaves when it does not crash

The contract of an action by its two ordinary endings: what holds of its value and what holds of
its fault, each on the bench that is left. It says nothing of a crash, so it can promise what a
crash would break, and it speaks of a fault, of which a contract in terms of values is silent. The
parts of a sequence share the promise for a fault, as either of them may end the sequence.
-/

namespace Attenuation

namespace Action

variable {ε ε' α β : Type}

/-- What holds when an action is done, of its value and the bench that it leaves, and when it fails,
of its fault and the bench that it leaves. -/
structure Ends (action : Action ε α) (bench : Bench) (whenDone : α → Bench → Prop)
    (whenFailed : ε → Bench → Prop) : Prop where
  /-- What holds when the action is done. -/
  done : ∀ value after, action.run bench = (.done value, after) → whenDone value after
  /-- What holds when the action fails. -/
  failed : ∀ fault after, action.run bench = (.failed fault, after) → whenFailed fault after

/-- An action that does not crash leaves a related bench. -/
abbrev Leaves (related : Bench → Bench → Prop) (action : Action ε α) (bench : Bench) : Prop :=
  action.Ends bench (fun _ => related bench) fun _ => related bench

namespace Ends

variable {bench after : Bench} {whenDone : α → Bench → Prop} {whenFailed : ε → Bench → Prop}

/-- An action that is done. -/
theorem of_done {action : Action ε α} {value : α} (ran : action.run bench = (.done value, after))
    (held : whenDone value after) : action.Ends bench whenDone whenFailed := by
  refine ⟨fun other left done => ?_, fun fault left failed => ?_⟩
  · cases ran.symm.trans done
    exact held
  · cases ran.symm.trans failed

/-- An action that fails. -/
theorem of_failed {action : Action ε α} {fault : ε}
    (ran : action.run bench = (.failed fault, after)) (held : whenFailed fault after) :
    action.Ends bench whenDone whenFailed := by
  refine ⟨fun value left done => ?_, fun other left failed => ?_⟩
  · cases ran.symm.trans done
  · cases ran.symm.trans failed
    exact held

/-- An action that crashes. -/
theorem of_crashed {action : Action ε α} (ran : action.run bench = (.crashed, after)) :
    action.Ends bench whenDone whenFailed := by
  refine ⟨fun value left done => ?_, fun other left failed => ?_⟩
  · cases ran.symm.trans done
  · cases ran.symm.trans failed

/-- What follows from what holds at the end holds there as well. -/
theorem weaken {action : Action ε α} {weakDone : α → Bench → Prop}
    {weakFailed : ε → Bench → Prop} (ends : action.Ends bench whenDone whenFailed)
    (ofDone : ∀ value after, whenDone value after → weakDone value after)
    (ofFailed : ∀ fault after, whenFailed fault after → weakFailed fault after) :
    action.Ends bench weakDone weakFailed :=
  ⟨fun value after ran => ofDone value after (ends.done value after ran),
    fun fault after ran => ofFailed fault after (ends.failed fault after ran)⟩

/-- A value given at once. -/
theorem pure {value : α} (held : whenDone value bench) :
    (Pure.pure value : Action ε α).Ends bench whenDone whenFailed :=
  of_done (run_pure value bench) held

/-- A fault raised at once. -/
theorem fail {fault : ε} (held : whenFailed fault bench) :
    (Action.fail fault : Action ε α).Ends bench whenDone whenFailed :=
  of_failed (run_fail fault bench) held

/-- A result. -/
theorem ofExcept {result : Except ε α} (ofOk : ∀ value, result = .ok value → whenDone value bench)
    (ofError : ∀ fault, result = .error fault → whenFailed fault bench) :
    (Action.ofExcept result).Ends bench whenDone whenFailed := by
  cases result with
  | ok value => exact pure (ofOk value rfl)
  | error fault => exact fail (ofError fault rfl)

/-- A recorded event. -/
theorem emit {event : Event} {whenDone : Unit → Bench → Prop}
    (held : whenDone () (bench.record [event])) :
    (Action.emit event : Action ε Unit).Ends bench whenDone whenFailed :=
  of_done (run_emit event bench) held

/-- A sequence ends by a fault of its first action or as the rest ends. -/
theorem bind {action : Action ε α} {next : α → Action ε β} {middle : α → Bench → Prop}
    {whenDone : β → Bench → Prop} (first : action.Ends bench middle whenFailed)
    (rest : ∀ value between, action.run bench = (.done value, between) → middle value between →
      (next value).Ends between whenDone whenFailed) :
    (action >>= next).Ends bench whenDone whenFailed := by
  cases ended : action.run bench with
  | mk outcome between =>
    cases outcome with
    | done value =>
      have later := rest value between ended (first.done value between ended)
      have ran := run_bind_done next ended
      exact ⟨fun result left done => later.done result left (ran.symm.trans done),
        fun fault left failed => later.failed fault left (ran.symm.trans failed)⟩
    | failed fault =>
      exact of_failed (run_bind_failed next ended) (first.failed fault between ended)
    | crashed => exact of_crashed (run_bind_crashed next ended)

/-- An action whose fault has another form. -/
theorem mapFault {action : Action ε α} {form : ε → ε'} {whenFailed : ε' → Bench → Prop}
    (ends : action.Ends bench whenDone fun fault => whenFailed (form fault)) :
    (action.mapFault form).Ends bench whenDone whenFailed := by
  have ran := run_mapFault form action bench
  cases ended : action.run bench with
  | mk outcome left =>
    rw [ended] at ran
    cases outcome with
    | done value => exact of_done ran (ends.done value left ended)
    | failed fault => exact of_failed ran (ends.failed fault left ended)
    | crashed => exact of_crashed ran

/-- An attempt is done with what holds at either end of the action. -/
theorem attempt {action : Action ε α} {whenDone : Except ε α → Bench → Prop}
    {whenFailed : ε' → Bench → Prop}
    (ends : action.Ends bench (fun value => whenDone (.ok value))
      fun fault => whenDone (.error fault)) :
    (action.attempt : Action ε' (Except ε α)).Ends bench whenDone whenFailed := by
  have ran : (action.attempt : Action ε' (Except ε α)).run bench = _ := run_attempt action bench
  cases ended : action.run bench with
  | mk outcome left =>
    rw [ended] at ran
    cases outcome with
    | done value => exact of_done ran (ends.done value left ended)
    | failed fault => exact of_done ran (ends.failed fault left ended)
    | crashed => exact of_crashed ran

/-- A list of actions keeps an invariant of the bench when each of them does, and ends by a fault as
one of them does. -/
theorem mapM {action : α → Action ε β} (invariant : Bench → Prop)
    (each : ∀ item between, invariant between →
      (action item).Ends between (fun _ => invariant) whenFailed) (items : List α)
    (start : invariant bench) : (items.mapM action).Ends bench (fun _ => invariant) whenFailed := by
  induction items generalizing bench with
  | nil =>
    rw [List.mapM_nil]
    exact pure start
  | cons item rest ih =>
    rw [List.mapM_cons]
    exact (each item bench start).bind fun first between _ kept =>
      (ih kept).bind fun others last _ later => pure later

/-- A fold of actions keeps an invariant of the bench when every step does, and ends by a fault as
one of them does. -/
theorem foldlM {action : β → α → Action ε β} (invariant : Bench → Prop)
    (each : ∀ carried item between, invariant between →
      (action carried item).Ends between (fun _ => invariant) whenFailed) (items : List α)
    (carried : β) (start : invariant bench) :
    (items.foldlM action carried).Ends bench (fun _ => invariant) whenFailed := by
  induction items generalizing bench carried with
  | nil =>
    rw [List.foldlM_nil]
    exact pure start
  | cons item rest ih =>
    rw [List.foldlM_cons]
    exact (each carried item bench start).bind fun next between _ kept => ih next kept

end Ends

namespace Leaves

variable {related : Bench → Bench → Prop} {bench : Bench}

/-- Another form of the fault leaves the same bench. -/
theorem mapFault {action : Action ε α} {form : ε → ε'} (leaves : action.Leaves related bench) :
    (action.mapFault form).Leaves related bench :=
  @Ends.mapFault ε ε' α bench (fun _ => related bench) action form (fun _ => related bench) leaves

variable [IsPreorder Bench related]

/-- A value given at once leaves the bench as it is. -/
theorem pure (value : α) : (Pure.pure value : Action ε α).Leaves related bench :=
  Ends.pure (refl_of related bench)

/-- A fault raised at once leaves the bench as it is. -/
theorem fail (fault : ε) : (Action.fail fault : Action ε α).Leaves related bench :=
  Ends.fail (refl_of related bench)

/-- A result leaves the bench as it is. -/
theorem ofExcept (result : Except ε α) : (Action.ofExcept result).Leaves related bench :=
  Ends.ofExcept (fun _ _ => refl_of related bench) fun _ _ => refl_of related bench

/-- A sequence leaves a related bench when both of its parts do. -/
theorem bind {action : Action ε α} {next : α → Action ε β} (first : action.Leaves related bench)
    (rest : ∀ value between, related bench between → (next value).Leaves related between) :
    (action >>= next).Leaves related bench :=
  Ends.bind first fun value between _ kept =>
    Ends.weaken (rest value between kept) (fun _ _ => trans_of related kept)
      fun _ _ => trans_of related kept

/-- A list of actions leaves a related bench when each of them does. -/
theorem mapM {action : α → Action ε β} (items : List α)
    (each : ∀ item between, (action item).Leaves related between) :
    (items.mapM action).Leaves related bench :=
  Ends.mapM (related bench) (fun item between kept => Ends.weaken (each item between)
    (fun _ _ => trans_of related kept) fun _ _ => trans_of related kept) items
    (refl_of related bench)

/-- A fold of actions leaves a related bench when every step does. -/
theorem foldlM {action : β → α → Action ε β} (items : List α)
    (each : ∀ carried item between, (action carried item).Leaves related between) (start : β) :
    (items.foldlM action start).Leaves related bench :=
  Ends.foldlM (related bench) (fun carried item between kept => Ends.weaken
    (each carried item between) (fun _ _ => trans_of related kept)
    fun _ _ => trans_of related kept) items start (refl_of related bench)

end Leaves

end Action

end Attenuation
