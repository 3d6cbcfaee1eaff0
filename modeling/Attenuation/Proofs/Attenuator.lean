import Attenuation.Attenuator
import Attenuation.Proofs.Bench
import Attenuation.Proofs.Contract

/-!
# What a command to an attenuator does

Every run of an operation on a session, and of a command to an attenuator, is one equation here.
`Attenuator.verdict` decides from the bench alone how a command to an attenuator fares, in the
order in which the attenuator checks it; `Attenuator.run_set` says that the command then does
exactly that, and nothing else.
-/

namespace Attenuation

namespace Session

/-- Holding a session gives the session, unless it is poisoned, and changes nothing. -/
theorem run_hold (id : SessionId) (bench : Bench) :
    (hold id).run bench =
      (if (bench.session id).poisoned then .failed .poisoned else .done (bench.session id),
        bench) := by
  unfold hold
  rw [Action.run_bind_done _ (Action.run_bench bench)]
  by_cases poisoned : (bench.session id).poisoned <;> simp [poisoned]

/-- What is done while a session is held is not done when the session is poisoned. -/
theorem run_hold_bind {α : Type} (id : SessionId) (next : Session → Action SessionFault α)
    (bench : Bench) :
    (hold id >>= next).run bench =
      if (bench.session id).poisoned then (.failed .poisoned, bench)
      else (next (bench.session id)).run bench := by
  rw [Action.run_bind, run_hold]
  by_cases poisoned : (bench.session id).poisoned <;> simp [poisoned]

/-- The properties of an instrument are read from the bench, unless the session is poisoned. -/
theorem run_info (id : SessionId) (bench : Bench) :
    (info id).run bench =
      if (bench.session id).poisoned then (.failed .poisoned, bench)
      else (.done (bench.simulator (bench.session id).simulator).info, bench) := by
  unfold info
  rw [run_hold_bind]
  rfl

/-- What is taken from the properties of an instrument is taken from the bench. -/
theorem run_info_bind {α : Type} (id : SessionId) (part : InstrumentInfo → α) (bench : Bench) :
    (do return part (← info id)).run bench =
      if (bench.session id).poisoned then (.failed .poisoned, bench)
      else (.done (part (bench.simulator (bench.session id).simulator).info), bench) := by
  rw [Action.run_bind, run_info]
  by_cases poisoned : (bench.session id).poisoned <;> simp [poisoned]

/-- The maximum of an instrument is read from the bench, unless the session is poisoned. -/
theorem run_maximum (id : SessionId) (bench : Bench) :
    (maximum id).run bench =
      if (bench.session id).poisoned then (.failed .poisoned, bench)
      else (.done (bench.simulator (bench.session id).simulator).maximum, bench) :=
  run_info_bind id InstrumentInfo.maximum bench

/-- A crash poisons the session and nothing else. -/
@[simp] theorem run_crash {α : Type} (id : SessionId) (bench : Bench) :
    (crash id : Action SessionFault α).run bench = (.crashed, bench.poison id) := rfl

/-- A call that reaches an instrument is answered by it, which leaves the instrument as its
response says. -/
theorem run_exchange {α : Type} (id : SimulatorId) (call : Simulator → Simulator.Response α)
    (bench : Bench) :
    (exchange id call).run bench =
      (.ofExcept (call (bench.simulator id)).answer,
        (bench.putSimulator id (call (bench.simulator id)).simulator).record
          (call (bench.simulator id)).events) := by
  change (Action.ofExcept (call (bench.simulator id)).answer).run _ = _
  rw [Action.run_ofExcept]

/-- A command to a held session crashes where its driver does and reaches the instrument
elsewhere. -/
theorem run_command (id : SessionId) (session : Session) (index : Nat) (value : Level)
    (bench : Bench) :
    (command id session index value).run bench =
      if session.trap.onSet = some index then (.crashed, bench.poison id)
      else (exchange session.simulator fun simulator => simulator.set index value).run bench := by
  unfold command
  split <;> rfl

/-- A read through a held session crashes where its driver does and reaches the instrument
elsewhere. -/
theorem run_read (id : SessionId) (session : Session) (index : Nat) (bench : Bench) :
    (read id session index).run bench =
      if session.trap.onGet = some index then (.crashed, bench.poison id)
      else (exchange session.simulator fun simulator => simulator.get index).run bench := by
  unfold read
  split <;> rfl

/-- A raw command is not passed on by a poisoned session. -/
theorem run_setRaw (id : SessionId) (index : Nat) (value : Level) (bench : Bench) :
    (setRaw id index value).run bench =
      if (bench.session id).poisoned then (.failed .poisoned, bench)
      else (command id (bench.session id) index value).run bench :=
  run_hold_bind id _ bench

/-- A raw read is not passed on by a poisoned session. -/
theorem run_getRaw (id : SessionId) (index : Nat) (bench : Bench) :
    (getRaw id index).run bench =
      if (bench.session id).poisoned then (.failed .poisoned, bench)
      else (read id (bench.session id) index).run bench :=
  run_hold_bind id _ bench

end Session

namespace Attenuator

/-- How a command to an attenuator fares. -/
inductive Verdict where
  /-- The level is not finite. -/
  | notFinite
  /-- The session is poisoned. -/
  | poisoned
  /-- The instrument has reported no maximum. -/
  | maximumUnknown
  /-- The raw level is above the maximum. -/
  | limitExceeded (maximum : Level)
  /-- The driver crashes before it reaches its instrument. -/
  | crashes
  /-- The command reaches the instrument. -/
  | reaches

/-- The number of the instrument behind an attenuator. -/
def simulatorId (attenuator : Attenuator) (bench : Bench) : SimulatorId :=
  (bench.session attenuator.session).simulator

/-- The instrument behind an attenuator. -/
def simulator (attenuator : Attenuator) (bench : Bench) : Simulator :=
  bench.simulator (attenuator.simulatorId bench)

/-- How a command to an attenuator fares on a bench, by the first check that it does not pass. -/
def verdict (attenuator : Attenuator) (value : Level) (bench : Bench) : Verdict :=
  if value.isFinite then
    if (bench.session attenuator.session).poisoned then .poisoned
    else
      match (attenuator.simulator bench).maximum with
      | none => .maximumUnknown
      | some maximum =>
        if maximum < attenuator.raw value then .limitExceeded maximum
        else if (bench.session attenuator.session).trap.onSet = some attenuator.index then
          .crashes
        else .reaches
  else .notFinite

/-- The response of the instrument to the command of an attenuator. -/
def response (attenuator : Attenuator) (value : Level) (bench : Bench) :
    Simulator.Response Unit :=
  (attenuator.simulator bench).set attenuator.index (attenuator.raw value)

/-- The event of a level that an attenuator sends. -/
def settingEvent (attenuator : Attenuator) (value : Level) : Event :=
  .setting attenuator.model attenuator.index value (attenuator.raw value)

/-- The bench after the instrument behind an attenuator answered its command. -/
def driven (attenuator : Attenuator) (value : Level) (bench : Bench) : Bench :=
  ((bench.record [attenuator.settingEvent value]).putSimulator (attenuator.simulatorId bench)
    (attenuator.response value bench).simulator).record (attenuator.response value bench).events

/-- What is done with a finite level is not done with another one. -/
theorem run_checkFinite_bind {α : Type} (what : String) (value : Level)
    (next : Unit → Action Fault α) (bench : Bench) :
    (Action.ofExcept (checkFinite what value) >>= next).run bench =
      if value.isFinite then (next ()).run bench else (.failed (notFinite what value), bench) := by
  rw [Action.run_bind, Action.run_ofExcept]
  unfold checkFinite
  by_cases finite : value.isFinite <;> simp [finite, Outcome.ofExcept]

/-- An attenuator is created from the bench alone: the offset is checked first, then the session,
and then the channel. -/
theorem run_create (session : SessionId) (index : Nat) (offset : Level) (bench : Bench) :
    (create session index offset).run bench =
      (if offset.isFinite then
        if (bench.session session).poisoned then .failed (.session .poisoned)
        else
          let reached := bench.simulator (bench.session session).simulator
          if reached.channelCount ≤ index then
            .failed (.indexOutOfRange index reached.channelCount)
          else .done ⟨session, reached.model, index, offset, none⟩
      else .failed (notFinite "offset" offset), bench) := by
  unfold create
  rw [run_checkFinite_bind]
  by_cases finite : offset.isFinite
  case neg => simp only [finite, Bool.false_eq_true, ↓reduceIte]
  simp only [finite, ↓reduceIte]
  rw [Action.run_bind, Action.run_mapFault_outcome, Session.run_info]
  by_cases poisoned : (bench.session session).poisoned
  · simp only [poisoned, ↓reduceIte, Outcome.mapFault]
  simp only [poisoned, Bool.false_eq_true, ↓reduceIte, Outcome.mapFault, Simulator.info]
  by_cases missing : (bench.simulator (bench.session session).simulator).channelCount ≤ index
  · simp only [missing, ↓reduceIte, Action.run_fail]
  · simp only [missing, ↓reduceIte, Action.run_pure]

/-- A changed offset is finite, and nothing else of the attenuator changes. -/
theorem setOffset_ok {attenuator changed : Attenuator} {offset : Level}
    (done : attenuator.setOffset offset = .ok changed) :
    offset.isFinite ∧ changed = { attenuator with offset } := by
  unfold setOffset checkFinite at done
  by_cases finite : offset.isFinite
  · rw [if_pos finite] at done
    cases done
    exact ⟨finite, rfl⟩
  · rw [if_neg finite] at done
    cases done

/-- The maximum of the instrument is read from the bench, and an unknown one is a fault. -/
theorem run_instrumentMaximum (attenuator : Attenuator) (bench : Bench) :
    attenuator.instrumentMaximum.run bench =
      if (bench.session attenuator.session).poisoned then (.failed (.session .poisoned), bench)
      else
        match (attenuator.simulator bench).maximum with
        | some maximum => (.done maximum, bench)
        | none => (.failed (maximumUnknown attenuator.model), bench) := by
  unfold instrumentMaximum
  rw [Action.run_bind, Action.run_mapFault_outcome, Session.run_maximum]
  by_cases poisoned : (bench.session attenuator.session).poisoned
  · simp [poisoned, Outcome.mapFault]
  · simp only [poisoned, Bool.false_eq_true, ↓reduceIte, Outcome.mapFault, simulator, simulatorId]
    cases (bench.simulator (bench.session attenuator.session).simulator).maximum <;> rfl

/-- The reported maximum is that of the instrument without the offset, and an unknown one is a
fault. -/
theorem run_maximum (attenuator : Attenuator) (bench : Bench) :
    attenuator.maximum.run bench =
      if (bench.session attenuator.session).poisoned then (.failed (.session .poisoned), bench)
      else
        match (attenuator.simulator bench).maximum with
        | some maximum => (.done (maximum - attenuator.offset), bench)
        | none => (.failed (maximumUnknown attenuator.model), bench) := by
  unfold maximum
  rw [Action.run_bind, run_instrumentMaximum]
  by_cases poisoned : (bench.session attenuator.session).poisoned
  · simp only [poisoned, ↓reduceIte]
  · simp only [poisoned, Bool.false_eq_true, ↓reduceIte]
    cases (attenuator.simulator bench).maximum <;> rfl

/-- A command to an attenuator does exactly what its verdict says. -/
theorem run_set (attenuator : Attenuator) (value : Level) (bench : Bench) :
    (attenuator.set value).run bench =
      match attenuator.verdict value bench with
      | .notFinite => (.failed (notFinite "attenuation" value), bench)
      | .poisoned => (.failed (.session .poisoned), bench)
      | .maximumUnknown => (.failed (maximumUnknown attenuator.model), bench)
      | .limitExceeded maximum =>
        (.failed (.limitExceeded value attenuator.offset maximum),
          bench.record
            [.rejected attenuator.model attenuator.index value (attenuator.raw value) maximum])
      | .crashes =>
        (.crashed, (bench.record [attenuator.settingEvent value]).poison attenuator.session)
      | .reaches =>
        ((Outcome.ofExcept (attenuator.response value bench).answer).mapFault .session,
          attenuator.driven value bench) := by
  unfold set verdict
  rw [run_checkFinite_bind]
  by_cases finite : value.isFinite
  case neg => simp [finite]
  simp only [finite, ↓reduceIte]
  have maximum := run_instrumentMaximum attenuator bench
  by_cases poisoned : (bench.session attenuator.session).poisoned
  case pos =>
    simp only [poisoned, ↓reduceIte] at maximum ⊢
    exact Action.run_bind_failed _ maximum
  simp only [poisoned, Bool.false_eq_true, ↓reduceIte] at maximum ⊢
  cases known : (attenuator.simulator bench).maximum with
  | none =>
    rw [known] at maximum
    exact Action.run_bind_failed _ maximum
  | some limit =>
    rw [known] at maximum
    rw [Action.run_bind_done _ maximum]
    by_cases above : limit < attenuator.raw value
    · simp [above, Action.run_bind]
    simp only [above, ↓reduceIte]
    rw [Action.run_bind_done _ (Action.run_emit _ bench), Action.run_mapFault_outcome,
      Session.run_setRaw, Session.run_command]
    simp only [Bench.session_record, poisoned, Bool.false_eq_true, ↓reduceIte]
    by_cases trapped : (bench.session attenuator.session).trap.onSet = some attenuator.index
    · simp [trapped, Outcome.mapFault, settingEvent]
    · simp only [trapped, ↓reduceIte]
      rw [Session.run_exchange]
      rfl

/-- A command that passes every check is for a finite level and finds the session free, and the
instrument reports a maximum that the raw level is not above. Whether the driver crashes is decided
by the channel then. -/
theorem of_passed {attenuator : Attenuator} {value : Level} {bench : Bench}
    (passed : attenuator.verdict value bench = .crashes ∨
      attenuator.verdict value bench = .reaches) :
    (value.isFinite ∧ (bench.session attenuator.session).poisoned = false ∧
      ∃ maximum, (attenuator.simulator bench).maximum = some maximum ∧
        ¬ maximum < attenuator.raw value) ∧
    attenuator.verdict value bench =
      if (bench.session attenuator.session).trap.onSet = some attenuator.index then .crashes
      else .reaches := by
  unfold verdict at passed ⊢
  by_cases finite : value.isFinite
  case neg => simp [finite] at passed
  by_cases poisoned : (bench.session attenuator.session).poisoned
  case pos => simp [finite, poisoned] at passed
  cases known : (attenuator.simulator bench).maximum with
  | none => simp [finite, poisoned, known] at passed
  | some maximum =>
    by_cases above : maximum < attenuator.raw value
    · simp [finite, poisoned, known, above] at passed
    · exact ⟨⟨finite, Bool.eq_false_iff.mpr poisoned, maximum, rfl, above⟩,
        by simp [finite, poisoned, above]⟩

/-- A command that reaches the instrument is for a finite level, and the instrument reports a
maximum that the raw level is not above. -/
theorem of_reaches {attenuator : Attenuator} {value : Level} {bench : Bench}
    (reaches : attenuator.verdict value bench = .reaches) :
    value.isFinite ∧ ∃ maximum, (attenuator.simulator bench).maximum = some maximum ∧
      ¬ maximum < attenuator.raw value := by
  obtain ⟨⟨finite, -, maximum⟩, -⟩ := of_passed (.inr reaches)
  exact ⟨finite, maximum⟩

/-- A command whose driver crashes found the session free. -/
theorem free_of_crashes {attenuator : Attenuator} {value : Level} {bench : Bench}
    (crashes : attenuator.verdict value bench = .crashes) :
    (bench.session attenuator.session).poisoned = false :=
  (of_passed (.inl crashes)).1.2.1

/-- The fault with which the instrument behind an attenuator refuses its command, if the command
reaches the instrument and is refused there. -/
def refusal? (attenuator : Attenuator) (value : Level) (bench : Bench) : Option SessionFault :=
  match attenuator.verdict value bench with
  | .reaches =>
    match (attenuator.response value bench).answer with
    | .ok () => none
    | .error fault => some fault
  | _ => none

/-- A command is done exactly when it reaches the instrument and is accepted there. -/
theorem set_done_iff (attenuator : Attenuator) (value : Level) (bench : Bench) :
    ((attenuator.set value).run bench).1 = .done () ↔
      attenuator.verdict value bench = .reaches ∧
        (attenuator.response value bench).answer = .ok () := by
  rw [run_set]
  cases attenuator.verdict value bench with
  | reaches =>
    cases (attenuator.response value bench).answer <;>
      simp [Outcome.ofExcept, Outcome.mapFault]
  | _ => simp

/-- A command that is done leaves the bench that the instrument's answer leaves. -/
theorem set_done_bench {attenuator : Attenuator} {value : Level} {bench : Bench}
    (done : ((attenuator.set value).run bench).1 = .done ()) :
    ((attenuator.set value).run bench).2 = attenuator.driven value bench := by
  rw [run_set, ((set_done_iff attenuator value bench).mp done).1]

/-- An instrument other than the one behind an attenuator is not changed by its command. -/
@[simp] theorem simulator_driven (attenuator : Attenuator) (value : Level) (bench : Bench)
    (id : SimulatorId) :
    (attenuator.driven value bench).simulator id =
      if id = attenuator.simulatorId bench then (attenuator.response value bench).simulator
      else bench.simulator id := by
  simp [driven]

/-- The answer of an instrument leaves the sessions alone. -/
@[simp] theorem session_driven (attenuator : Attenuator) (value : Level) (bench : Bench)
    (id : SessionId) : (attenuator.driven value bench).session id = bench.session id := rfl

/-- The command of an attenuator as its instrument logs it. -/
def command (attenuator : Attenuator) (value : Level) : Call :=
  .set attenuator.index (attenuator.raw value)

/-- The instrument behind an attenuator after it answered. -/
theorem response_simulator (attenuator : Attenuator) (value : Level) (bench : Bench) :
    (attenuator.response value bench).simulator =
      { attenuator.simulator bench with
        calls := (attenuator.simulator bench).calls ++ [attenuator.command value]
        refusedSets := (attenuator.simulator bench).refusedSets - 1
        values := (attenuator.simulator bench).storedAfter attenuator.index
          (attenuator.raw value) (attenuator.response value bench).answer } :=
  Simulator.set_simulator _ _ _

/-- How a read of an attenuator fares. -/
inductive Reading where
  /-- The session is poisoned. -/
  | poisoned
  /-- The driver crashes before it reaches its instrument. -/
  | crashes
  /-- The read reaches the instrument. -/
  | reaches
deriving DecidableEq

/-- How a read of an attenuator fares on a bench. -/
def reading (attenuator : Attenuator) (bench : Bench) : Reading :=
  if (bench.session attenuator.session).poisoned then .poisoned
  else if (bench.session attenuator.session).trap.onGet = some attenuator.index then .crashes
  else .reaches

/-- The response of the instrument to the read of an attenuator. -/
def reply (attenuator : Attenuator) (bench : Bench) : Simulator.Response Level :=
  (attenuator.simulator bench).get attenuator.index

/-- The bench after the instrument behind an attenuator answered its read. -/
def asked (attenuator : Attenuator) (bench : Bench) : Bench :=
  (bench.putSimulator (attenuator.simulatorId bench) (attenuator.reply bench).simulator).record
    (attenuator.reply bench).events

/-- How a read of an attenuator ends that its instrument answers: the offset is taken off a
level. -/
def readBy (attenuator : Attenuator) : Except SessionFault Level → Outcome Fault Level
  | .ok raw => .done (raw - attenuator.offset)
  | .error fault => .failed (.session fault)

/-- A read of an attenuator does what its reading says. -/
theorem run_get (attenuator : Attenuator) (bench : Bench) :
    attenuator.get.run bench =
      match attenuator.reading bench with
      | .poisoned => (.failed (.session .poisoned), bench)
      | .crashes => (.crashed, bench.poison attenuator.session)
      | .reaches => (attenuator.readBy (attenuator.reply bench).answer, attenuator.asked bench) := by
  unfold get reading
  rw [Action.run_bind, Action.run_mapFault_outcome, Session.run_getRaw, Session.run_read]
  by_cases poisoned : (bench.session attenuator.session).poisoned
  · simp only [poisoned, ↓reduceIte, Outcome.mapFault]
  by_cases trapped : (bench.session attenuator.session).trap.onGet = some attenuator.index
  · simp only [poisoned, trapped, ↓reduceIte, Bool.false_eq_true, Outcome.mapFault]
  simp only [poisoned, trapped, ↓reduceIte, Bool.false_eq_true]
  rw [Session.run_exchange]
  change _ = (attenuator.readBy (attenuator.reply bench).answer, attenuator.asked bench)
  have answered : ((bench.simulator (bench.session attenuator.session).simulator).get
      attenuator.index).answer = (attenuator.reply bench).answer := rfl
  rw [answered]
  cases (attenuator.reply bench).answer <;> rfl

/-- The instrument behind an attenuator after it answered a read. -/
theorem reply_simulator (attenuator : Attenuator) (bench : Bench) :
    (attenuator.reply bench).simulator =
      { attenuator.simulator bench with
        calls := (attenuator.simulator bench).calls ++ [.get attenuator.index]
        refusedGets := (attenuator.simulator bench).refusedGets - 1 } :=
  Simulator.get_simulator _ _

/-- A read changes no instrument but the one behind the attenuator. -/
@[simp] theorem simulator_asked (attenuator : Attenuator) (bench : Bench) (id : SimulatorId) :
    (attenuator.asked bench).simulator id =
      if id = attenuator.simulatorId bench then (attenuator.reply bench).simulator
      else bench.simulator id := by
  simp [asked]

end Attenuator

end Attenuation
