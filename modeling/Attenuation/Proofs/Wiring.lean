import Attenuation.Proofs.Assembly
import Attenuation.Proofs.Memory

/-!
# A bench that remembers

A bench of simulated instruments remembers the raw levels of a memory when every channel holds its
raw level and nothing else is in the way of a command: no session is poisoned, no driver crashes,
no instrument refuses. On such a bench a command to a channel, or to the channels of a group in
order, is carried out or refused by the description alone, and it leaves the bench that remembers
what was sent.
-/

namespace Attenuation

/-- The attenuator that is built for a channel when the instruments are connected on sessions from
a number on. -/
def RackConfig.attenuator? (config : RackConfig) (session : SessionId) (address : Address) :
    Option Attenuator :=
  (config.channel? address).map fun descriptor =>
    descriptor.attenuator (session + address.1) descriptor.model address.2

/-- A bench remembers: behind every described instrument is a session that does not crash and a
simulated instrument that is as it was made, but for its log, and whose channels hold the raw
levels of the memory. -/
structure Wired (config : RackConfig) (start : Bench) (memory : Memory) (bench : Bench) :
    Prop where
  /-- The session of an instrument is free and leads to its simulated instrument. -/
  session : ∀ (position : Nat) (descriptor : InstrumentConfig),
    config.instruments[position]? = some descriptor →
    bench.session (start.nextSession + position) =
      ⟨start.nextSimulator + position, Trap.none, false⟩
  /-- The simulated instrument holds the raw levels. -/
  simulator : ∀ (position : Nat) (descriptor : InstrumentConfig),
    config.instruments[position]? = some descriptor →
    ∃ calls, bench.simulator (start.nextSimulator + position) =
      { Simulator.ofConfig descriptor.simulatorConfig with
        calls
        values := (List.range descriptor.channelCount.toNat).map fun index =>
          memory.raw (position, index) }

/-- The offset of a channel that is described. -/
theorem RackConfig.offset_of_channel {config : RackConfig} {address : Address}
    {descriptor : InstrumentConfig} (found : config.channel? address = some descriptor) :
    config.offset address = descriptor.offset address.2 := by
  simp [offset, found]

/-- A channel that is described has an instrument with that channel. -/
theorem RackConfig.of_channel {config : RackConfig} {address : Address}
    {descriptor : InstrumentConfig} (found : config.channel? address = some descriptor) :
    config.instruments[address.1]? = some descriptor ∧
      address.2 < descriptor.channelCount.toNat := by
  unfold channel? at found
  obtain ⟨present, inside⟩ := Option.filter_eq_some_iff.mp found
  exact ⟨present, by simpa using inside⟩

/-- The levels that an instrument stores when one of its channels is sent a level. -/
theorem Memory.stored_send (memory : Memory) (position index count : Nat) (raw : Level) :
    ((List.range count).map fun channel => memory.raw (position, channel)).set index raw =
      (List.range count).map fun channel =>
        (memory.send (position, index) raw).raw (position, channel) := by
  apply List.ext_getElem
  · simp
  · intro channel _ _
    by_cases own : index = channel
    · simp [raw_send, own]
    · simp [raw_send, own, Ne.symm own]

/-- A simulated instrument serves a channel: it reports the configured maximum, refuses nothing,
stores levels as they are, and holds the raw level of the memory at the channel of the attenuator,
which has the configured offset. -/
structure Serves (config : RackConfig) (memory : Memory) (address : Address)
    (attenuator : Attenuator) (simulator : Simulator) : Prop where
  /-- The reported maximum is the configured one. -/
  maximum : simulator.maximum = config.maximum? address
  /-- No command is refused. -/
  takesSets : simulator.refusedSets = 0
  /-- No read is refused. -/
  takesGets : simulator.refusedGets = 0
  /-- Every channel responds. -/
  responsive : simulator.unresponsive = []
  /-- Levels are stored as they are. -/
  step : simulator.step = none
  /-- The attenuator is the one of the channel. -/
  channel : attenuator.index = address.2
  /-- The offset is the configured one. -/
  offset : attenuator.offset = config.offset address
  /-- The channel holds its raw level. -/
  stored : simulator.values[attenuator.index]? = some (memory.raw address)

namespace Wired

variable {config : RackConfig} {start bench : Bench} {memory : Memory} {address : Address}
  {attenuator : Attenuator}

/-- The session of a built attenuator is free and leads to its simulated instrument. -/
theorem session_of (wired : Wired config start memory bench)
    (found : config.attenuator? start.nextSession address = some attenuator) :
    bench.session attenuator.session = ⟨start.nextSimulator + address.1, Trap.none, false⟩ := by
  obtain ⟨descriptor, described, rfl⟩ := Option.map_eq_some_iff.mp found
  exact wired.session address.1 descriptor (RackConfig.of_channel described).1

/-- The simulated instrument behind a built attenuator. -/
theorem simulatorId_of (wired : Wired config start memory bench)
    (found : config.attenuator? start.nextSession address = some attenuator) :
    attenuator.simulatorId bench = start.nextSimulator + address.1 :=
  congrArg Session.simulator (wired.session_of found)

/-- The simulated instrument behind a built attenuator serves its channel. -/
theorem serves (wired : Wired config start memory bench)
    (found : config.attenuator? start.nextSession address = some attenuator) :
    Serves config memory address attenuator (attenuator.simulator bench) := by
  have behind := wired.simulatorId_of found
  obtain ⟨descriptor, described, rfl⟩ := Option.map_eq_some_iff.mp found
  obtain ⟨present, inside⟩ := RackConfig.of_channel described
  obtain ⟨calls, same⟩ := wired.simulator address.1 descriptor present
  unfold Attenuator.simulator
  rw [behind, same]
  refine ⟨?_, rfl, rfl, rfl, rfl, rfl, ?_, ?_⟩
  · simp [RackConfig.maximum?, described, Simulator.ofConfig, InstrumentConfig.simulatorConfig]
  · exact (RackConfig.offset_of_channel described).symm
  · simp [InstrumentConfig.attenuator, inside]

/-- A command to a built attenuator fares by its level and the configured maximum alone. -/
theorem verdict_of (wired : Wired config start memory bench)
    (found : config.attenuator? start.nextSession address = some attenuator) (value : Level) :
    attenuator.verdict value bench =
      if value.isFinite then
        match config.maximum? address with
        | none => .maximumUnknown
        | some maximum =>
          if maximum < value + config.offset address then .limitExceeded maximum else .reaches
      else .notFinite := by
  have serves := wired.serves found
  unfold Attenuator.verdict Attenuator.raw
  rw [wired.session_of found, serves.maximum, serves.offset]
  by_cases finite : value.isFinite
  case neg => simp [finite]
  cases config.maximum? address with
  | none => simp
  | some maximum => simp [Trap.none]

/-- A level that is not finite, and one that the channel refuses, is refused before the instrument
is reached. -/
theorem set_fails (wired : Wired config start memory bench)
    (found : config.attenuator? start.nextSession address = some attenuator) {value : Level}
    (refused : value.isFinite = false ∨ config.Refuses value address) :
    ∃ fault after, (attenuator.set value).run bench = (.failed fault, after) := by
  rw [Attenuator.run_set, wired.verdict_of found value]
  by_cases finite : value.isFinite
  case neg => simp [finite]
  rcases refused with infinite | unknown | ⟨maximum, known, above⟩
  · exact absurd finite (by simp [infinite])
  · simp [finite, unknown]
  · simp [finite, known, above]

/-- A finite level that the channel does not refuse is sent to it with its offset. -/
theorem set_done (wired : Wired config start memory bench)
    (found : config.attenuator? start.nextSession address = some attenuator) {value : Level}
    (finite : value.isFinite) (accepted : ¬ config.Refuses value address) :
    ∃ after, (attenuator.set value).run bench = (.done (), after) ∧
      Wired config start (memory.send address (value + config.offset address)) after := by
  have serves := wired.serves found
  have present : attenuator.index < (attenuator.simulator bench).values.length :=
    (List.getElem?_eq_some_iff.mp serves.stored).1
  have reaches : attenuator.verdict value bench = .reaches := by
    rw [wired.verdict_of found value, if_pos finite]
    unfold RackConfig.Refuses at accepted
    cases known : config.maximum? address with
    | none => simp [known] at accepted
    | some maximum => simp_all
  have answer : (attenuator.response value bench).answer = .ok () :=
    Simulator.set_accepts _ serves.takesSets (by simp [serves.responsive]) present
  have ran := Attenuator.run_set attenuator value bench
  rw [reaches] at ran
  simp only [answer, Outcome.ofExcept, Outcome.mapFault] at ran
  refine ⟨attenuator.driven value bench, ran, wired.session, ?_⟩
  intro position descriptor described
  obtain ⟨calls, same⟩ := wired.simulator position descriptor described
  rw [Attenuator.simulator_driven, wired.simulatorId_of found]
  by_cases own : position = address.1
  case neg =>
    have apart : start.nextSimulator + position ≠ start.nextSimulator + address.1 :=
      fun equal => own (Nat.add_left_cancel equal)
    have other (index : Nat) : (position, index) ≠ address := fun equal => own (by rw [← equal])
    rw [if_neg apart]
    exact ⟨calls, by simp only [same, Memory.raw_send, if_neg (other _)]⟩
  subst own
  have behind : attenuator.simulator bench = _ :=
    (congrArg bench.simulator (wired.simulatorId_of found)).trans same
  rw [if_pos rfl, Attenuator.response_simulator, answer, Attenuator.raw, serves.offset,
    serves.channel]
  unfold Simulator.storedAfter
  rw [serves.step, behind]
  exact ⟨_, by simp only [Simulator.quantize, Memory.stored_send]; rfl⟩

/-- A built attenuator reads what its channel reads, and the levels stay. -/
theorem get_done (wired : Wired config start memory bench)
    (found : config.attenuator? start.nextSession address = some attenuator) :
    ∃ after, attenuator.get.run bench = (.done (memory.reading config address), after) ∧
      Wired config start memory after := by
  have serves := wired.serves found
  have behind := wired.simulatorId_of found
  have responsive : attenuator.index ∉ (attenuator.simulator bench).unresponsive := by
    rw [serves.responsive]
    exact List.not_mem_nil
  have answer : (attenuator.reply bench).answer = .ok (memory.raw address) :=
    Simulator.get_answers serves.takesGets responsive serves.stored
  have reaches : attenuator.reading bench = .reaches := by
    rw [Attenuator.reading, wired.session_of found]
    rfl
  have read : attenuator.get.run bench =
      (.done (memory.reading config address), attenuator.asked bench) := by
    unfold Memory.reading
    rw [Attenuator.run_get, reaches, answer, ← serves.offset]
    rfl
  refine ⟨attenuator.asked bench, read, wired.session, fun position descriptor described => ?_⟩
  obtain ⟨calls, same⟩ := wired.simulator position descriptor described
  rw [Attenuator.simulator_asked]
  by_cases own : start.nextSimulator + position = attenuator.simulatorId bench
  case neg => exact ⟨calls, by rw [if_neg own, same]⟩
  rw [if_pos own, Attenuator.reply_simulator, serves.takesGets, Attenuator.simulator, ← own, same]
  exact ⟨_, rfl⟩

end Wired

namespace Wired

variable {config : RackConfig} {start bench : Bench} {memory : Memory} {name : String}
  {value : Level}

/-- Members that all take a level are sent it, one after the other. -/
theorem commandFrom_done (group : Group) (finite : value.isFinite) (addresses : List Address)
    (accepted : ∀ address ∈ addresses, ¬ config.Refuses value address)
    (wired : Wired config start memory bench) {members : List Attenuator}
    (same : members.map some = addresses.map (config.attenuator? start.nextSession))
    (position : Nat) :
    ∃ after, (group.commandFrom value position members).run bench = (.done (), after) ∧
      Wired config start (memory.drive config value addresses) after := by
  induction addresses generalizing memory bench members position with
  | nil =>
    obtain rfl : members = [] := by simpa using same
    exact ⟨bench, rfl, wired⟩
  | cons address rest ih =>
    cases members with
    | nil => simp at same
    | cons member others =>
      rw [List.map_cons, List.map_cons, List.cons_eq_cons] at same
      obtain ⟨middle, ran, next⟩ :=
        wired.set_done same.1.symm finite (accepted address List.mem_cons_self)
      obtain ⟨after, later, last⟩ :=
        ih (fun other inside => accepted other (List.mem_cons_of_mem address inside)) next same.2
          (position + 1)
      refine ⟨after, ?_, last⟩
      rw [Group.commandFrom, Action.run_bind_done _ (Action.run_attempt_done ran)]
      exact later

/-- Members of which some channel refuses a level stop their group. -/
theorem commandFrom_fails (group : Group) (finite : value.isFinite) (addresses : List Address)
    (refused : ∃ address ∈ addresses, config.Refuses value address)
    (wired : Wired config start memory bench) {members : List Attenuator}
    (same : members.map some = addresses.map (config.attenuator? start.nextSession))
    (position : Nat) :
    ∃ stop after, (group.commandFrom value position members).run bench =
      (.failed stop, after) := by
  induction addresses generalizing memory bench members position with
  | nil =>
    obtain ⟨address, inside, -⟩ := refused
    exact absurd inside List.not_mem_nil
  | cons address rest ih =>
    cases members with
    | nil => simp at same
    | cons member others =>
      rw [List.map_cons, List.map_cons, List.cons_eq_cons] at same
      rw [Group.commandFrom]
      by_cases here : config.Refuses value address
      · obtain ⟨fault, middle, ran⟩ := wired.set_fails same.1.symm (.inr here)
        rw [Action.run_bind_done _ (Action.run_attempt_failed ran)]
        exact ⟨_, _, rfl⟩
      · obtain ⟨middle, ran, next⟩ := wired.set_done same.1.symm finite here
        have later : ∃ address ∈ rest, config.Refuses value address := by
          obtain ⟨other, inside, refuses⟩ := refused
          rcases List.mem_cons.mp inside with rfl | further
          · exact absurd refuses here
          · exact ⟨other, further, refuses⟩
        rw [Action.run_bind_done _ (Action.run_attempt_done ran)]
        exact ih later next same.2 (position + 1)

/-- Members are compared with a level by what their channels read. -/
theorem allRead_done (value : Level) (addresses : List Address)
    (wired : Wired config start memory bench) {members : List Attenuator}
    (same : members.map some = addresses.map (config.attenuator? start.nextSession)) :
    ∃ after, (Group.allRead value members).run bench =
        (.done (addresses.all fun address => memory.reading config address == value), after) ∧
      Wired config start memory after := by
  induction addresses generalizing bench members with
  | nil =>
    obtain rfl : members = [] := by simpa using same
    exact ⟨bench, rfl, wired⟩
  | cons address rest ih =>
    cases members with
    | nil => simp at same
    | cons member others =>
      rw [List.map_cons, List.map_cons, List.cons_eq_cons] at same
      obtain ⟨middle, ran, next⟩ := wired.get_done same.1.symm
      rw [Group.allRead, Action.run_bind_done _ ran, List.all_cons]
      by_cases equal : memory.reading config address == value
      · rw [if_pos equal, equal, Bool.true_and]
        exact ih next same.2
      · rw [if_neg equal, Bool.eq_false_iff.mpr equal, Bool.false_and]
        exact ⟨middle, rfl, next⟩

end Wired

end Attenuation
