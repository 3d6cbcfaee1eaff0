import Attenuation.Rack
import Attenuation.Proofs.Conduct
import Mathlib.Data.List.Forall2

/-!
# The assembly of a rack

A rack that is built has an instrument for every descriptor, on a session and with a simulated
instrument of its own, and an attenuator for every channel of it. `Rack.Equipped` says where every
part is and that nothing else on the bench moved. The groups are made of those attenuators, one
member for every reference, and no channel was commanded or read on the way.
-/

namespace Attenuation

namespace Bench

variable (bench : Bench) (driver : Driver)

/-- The bench after a driver is connected. -/
theorem connect_eq :
    bench.connect driver = (bench.nextSession,
      { bench with
        simulators := bench.simulators.put bench.nextSimulator (.ofConfig driver.instrument)
        sessions := bench.sessions.put bench.nextSession
          ⟨bench.nextSimulator, driver.trap, false⟩
        nextSimulator := bench.nextSimulator + 1
        nextSession := bench.nextSession + 1
        probes := if driver.probed then bench.probes ++ [bench.nextSimulator]
          else bench.probes }) := by
  unfold connect
  by_cases probed : driver.probed
  · simp only [probed, ↓reduceIte]
    rfl
  · simp only [probed]
    rfl

/-- A connected driver gets the next session. -/
@[simp] theorem connect_fst : (bench.connect driver).1 = bench.nextSession := by
  rw [connect_eq]

/-- The session of a connected driver reaches the next instrument and is free, and every other
session stays. -/
@[simp] theorem session_connect (id : SessionId) :
    (bench.connect driver).2.session id =
      if id = bench.nextSession then ⟨bench.nextSimulator, driver.trap, false⟩
      else bench.session id := by
  rw [connect_eq]
  exact Slots.get_put bench.sessions bench.nextSession id _

/-- The instrument of a connected driver is new, and every other instrument stays. -/
@[simp] theorem simulator_connect (id : SimulatorId) :
    (bench.connect driver).2.simulator id =
      if id = bench.nextSimulator then .ofConfig driver.instrument else bench.simulator id := by
  rw [connect_eq]
  exact Slots.get_put bench.simulators bench.nextSimulator id _

/-- A connected driver takes one session. -/
@[simp] theorem nextSession_connect :
    (bench.connect driver).2.nextSession = bench.nextSession + 1 := by
  rw [connect_eq]

/-- A connected driver brings one instrument. -/
@[simp] theorem nextSimulator_connect :
    (bench.connect driver).2.nextSimulator = bench.nextSimulator + 1 := by
  rw [connect_eq]

end Bench

/-- A list of actions gives the values that a function gives, and leaves the bench alone, when each
of them does so when it is done. -/
theorem Action.mapM_done {ε α β : Type} {action : α → Action ε β} {form : α → β} {bench : Bench}
    (each : ∀ item value after, (action item).run bench = (.done value, after) →
      value = form item ∧ after = bench)
    {items : List α} {values : List β} {after : Bench}
    (ran : (items.mapM action).run bench = (.done values, after)) :
    values = items.map form ∧ after = bench := by
  induction items generalizing values after with
  | nil =>
    rw [List.mapM_nil] at ran
    cases ran
    exact ⟨rfl, rfl⟩
  | cons item rest ih =>
    rw [List.mapM_cons] at ran
    obtain ⟨first, between, ranFirst, later⟩ := Action.run_bind_eq_done.mp ran
    obtain ⟨others, last, ranRest, ended⟩ := Action.run_bind_eq_done.mp later
    obtain ⟨rfl, rfl⟩ := each item first between ranFirst
    obtain ⟨rfl, rfl⟩ := ih ranRest
    cases ended
    exact ⟨rfl, rfl⟩

/-- The attenuator of a channel of a described instrument, on a session and with the model that its
driver reports. -/
def InstrumentConfig.attenuator (config : InstrumentConfig) (session : SessionId)
    (model : String) (index : Nat) : Attenuator :=
  ⟨session, model, index, config.offset index, config.path index⟩

/-- A described instrument that is connected on a session to a driver. -/
def InstrumentConfig.assembled (config : InstrumentConfig) (session : SessionId)
    (driver : Driver) : RackInstrument :=
  ⟨session, (List.range config.channelCount.toNat).map
    (config.attenuator session driver.instrument.model)⟩

namespace Rack

/-- An attenuator that is created is the one of its channel and has a finite offset, and nothing
is done. -/
theorem buildAttenuator_done {config : InstrumentConfig} {session : SessionId} {index : Nat}
    {bench after : Bench} {attenuator : Attenuator}
    (ran : (buildAttenuator config session index).run bench = (.done attenuator, after)) :
    attenuator = config.attenuator session
        (bench.simulator (bench.session session).simulator).model index ∧ after = bench := by
  unfold buildAttenuator at ran
  obtain ⟨created, between, ranCreate, ran⟩ := Action.run_bind_eq_done.mp ran
  rw [Action.run_mapFault_outcome, Attenuator.run_create] at ranCreate
  by_cases finite : (config.offset index).isFinite
  case neg => simp [finite, Outcome.mapFault] at ranCreate
  by_cases poisoned : (bench.session session).poisoned
  case pos => simp [finite, poisoned, Outcome.mapFault] at ranCreate
  by_cases missing : (bench.simulator (bench.session session).simulator).channelCount ≤ index
  case pos => simp [finite, poisoned, missing, Outcome.mapFault] at ranCreate
  simp only [finite, poisoned, missing, Bool.false_eq_true, ↓reduceIte, Outcome.mapFault,
    Prod.mk.injEq, Outcome.done.injEq] at ranCreate
  obtain ⟨rfl, rfl⟩ := ranCreate
  cases labelled : config.path index with
  | none =>
    simp only [labelled, Action.run_pure, Prod.mk.injEq, Outcome.done.injEq] at ran
    obtain ⟨rfl, rfl⟩ := ran
    simp [InstrumentConfig.attenuator, labelled]
  | some path =>
    simp only [labelled, Action.run_pure, Prod.mk.injEq, Outcome.done.injEq] at ran
    obtain ⟨rfl, rfl⟩ := ran
    simp [InstrumentConfig.attenuator, labelled, Attenuator.withPath]

/-- An instrument that is built is the assembled one on the next session, its driver has as many
channels as are configured, and the bench is the one with the driver connected. -/
theorem buildInstrument_done {catalog : Catalog} {config : InstrumentConfig}
    {bench after : Bench} {instrument : RackInstrument}
    (ran : (buildInstrument catalog config).run bench = (.done instrument, after)) :
    ∃ driver, catalog.create config = .ok driver ∧
      driver.instrument.channelCount = config.channelCount.toNat ∧
      instrument = config.assembled bench.nextSession driver ∧
      after = (bench.connect driver).2.record
        [.connected config.model config.transport config.channelCount.toNat] := by
  unfold buildInstrument Catalog.connect at ran
  obtain ⟨session, connected, ranConnect, ran⟩ := Action.run_bind_eq_done.mp ran
  obtain ⟨driver, here, ranCreate, ranConnect⟩ := Action.run_bind_eq_done.mp ranConnect
  obtain ⟨reported, counted, ranCount, ran⟩ := Action.run_bind_eq_done.mp ran
  cases made : catalog.create config with
  | error fault => simp [made, Outcome.ofExcept] at ranCreate
  | ok other =>
    simp only [made, Action.run_ofExcept, Outcome.ofExcept, Prod.mk.injEq,
      Outcome.done.injEq] at ranCreate
    obtain ⟨rfl, rfl⟩ := ranCreate
    simp only [Action.run_modifyGet, Prod.mk.injEq, Outcome.done.injEq,
      Bench.connect_fst] at ranConnect
    obtain ⟨rfl, rfl⟩ := ranConnect
    have count := Session.run_info_bind bench.nextSession InstrumentInfo.channelCount
      (bench.connect other).2
    rw [Action.run_mapFault_outcome, Session.channelCount, count] at ranCount
    simp only [Bench.session_connect, ↓reduceIte, Bool.false_eq_true, Bench.simulator_connect,
      Outcome.mapFault, Prod.mk.injEq, Outcome.done.injEq] at ranCount
    obtain ⟨rfl, rfl⟩ := ranCount
    by_cases matching : other.instrument.channelCount = config.channelCount.toNat
    case neg =>
      have unlike : (Simulator.ofConfig other.instrument).info.channelCount ≠
          config.channelCount.toNat := matching
      rw [if_neg unlike] at ran
      cases ran
    have alike : (Simulator.ofConfig other.instrument).info.channelCount =
        config.channelCount.toNat := matching
    rw [if_pos alike] at ran
    obtain ⟨attenuators, last, ranChannels, ran⟩ := Action.run_bind_eq_done.mp ran
    obtain ⟨same, rfl⟩ := Action.mapM_done (fun _ _ _ => buildAttenuator_done) ranChannels
    obtain ⟨_, _, ranEmit, ended⟩ := Action.run_bind_eq_done.mp ran
    cases ranEmit
    cases ended
    refine ⟨other, rfl, matching, ?_, rfl⟩
    rw [same]
    simp only [Bench.session_connect, ↓reduceIte, Bench.simulator_connect]
    rfl

/-- What connecting the drivers of descriptors leaves: the instrument of every descriptor at its
position, on the next free session and in front of the next free simulated instrument, and
everything that was on the bench as it was. -/
structure Equipped (catalog : Catalog) (bench : Bench) (descriptors : List InstrumentConfig)
    (instruments : List RackInstrument) (after : Bench) : Prop where
  /-- There is an instrument for every descriptor. -/
  length : instruments.length = descriptors.length
  /-- Every instrument takes one session. -/
  nextSession : after.nextSession = bench.nextSession + descriptors.length
  /-- Every instrument is a new one. -/
  nextSimulator : after.nextSimulator = bench.nextSimulator + descriptors.length
  /-- The instrument at a position. -/
  placed : ∀ position descriptor, descriptors[position]? = some descriptor →
    ∃ driver, catalog.create descriptor = .ok driver ∧
      driver.instrument.channelCount = descriptor.channelCount.toNat ∧
      instruments[position]? =
        some (descriptor.assembled (bench.nextSession + position) driver) ∧
      after.session (bench.nextSession + position) =
        ⟨bench.nextSimulator + position, driver.trap, false⟩ ∧
      after.simulator (bench.nextSimulator + position) = .ofConfig driver.instrument
  /-- The sessions that were open are as they were. -/
  sessions : ∀ session < bench.nextSession, after.session session = bench.session session
  /-- The instruments that were there are as they were. -/
  simulators : ∀ id < bench.nextSimulator, after.simulator id = bench.simulator id

/-- Where no instrument is described there is none. -/
theorem Equipped.missing {catalog : Catalog} {bench after : Bench}
    {descriptors : List InstrumentConfig} {instruments : List RackInstrument}
    (equipped : Equipped catalog bench descriptors instruments after) {position : Nat}
    (absent : descriptors[position]? = none) : instruments[position]? = none := by
  rw [List.getElem?_eq_none_iff] at absent ⊢
  rwa [equipped.length]

/-- Every instrument is described. -/
theorem Equipped.exists_descriptor {catalog : Catalog} {bench after : Bench}
    {descriptors : List InstrumentConfig} {instruments : List RackInstrument}
    (equipped : Equipped catalog bench descriptors instruments after) {position : Nat}
    {instrument : RackInstrument} (found : instruments[position]? = some instrument) :
    ∃ descriptor, descriptors[position]? = some descriptor := by
  cases described : descriptors[position]? with
  | some descriptor => exact ⟨descriptor, rfl⟩
  | none => cases (equipped.missing described).symm.trans found

/-- Without descriptors nothing is connected. -/
theorem Equipped.nil (catalog : Catalog) (bench : Bench) : Equipped catalog bench [] [] bench where
  length := rfl
  nextSession := rfl
  nextSimulator := rfl
  placed position descriptor found := by simp at found
  sessions _ _ := rfl
  simulators _ _ := rfl

/-- A connected driver in front of others. -/
theorem Equipped.cons {catalog : Catalog} {bench after : Bench} {descriptor : InstrumentConfig}
    {descriptors : List InstrumentConfig} {instruments : List RackInstrument} {driver : Driver}
    {events : List Event} (made : catalog.create descriptor = .ok driver)
    (matching : driver.instrument.channelCount = descriptor.channelCount.toNat)
    (rest : Equipped catalog ((bench.connect driver).2.record events) descriptors instruments
      after) :
    Equipped catalog bench (descriptor :: descriptors)
      (descriptor.assembled bench.nextSession driver :: instruments) after := by
  have session : ((bench.connect driver).2.record events).nextSession = bench.nextSession + 1 :=
    Bench.nextSession_connect bench driver
  have simulator : ((bench.connect driver).2.record events).nextSimulator =
      bench.nextSimulator + 1 := Bench.nextSimulator_connect bench driver
  obtain ⟨length, nextSession, nextSimulator, placed, sessions, simulators⟩ := rest
  rw [session] at nextSession sessions
  rw [simulator] at nextSimulator simulators
  rw [session, simulator] at placed
  have counted (start : Nat) :
      start + 1 + descriptors.length = start + (descriptor :: descriptors).length := by
    rw [List.length_cons]
    omega
  refine ⟨by simp [length], nextSession.trans (counted _), nextSimulator.trans (counted _),
    ?_, ?_, ?_⟩
  · intro position other found
    cases position with
    | zero =>
      obtain rfl : descriptor = other := by simpa using found
      refine ⟨driver, made, matching, rfl, ?_, ?_⟩
      · have kept := sessions bench.nextSession (Nat.lt_succ_self _)
        simpa using kept
      · have kept := simulators bench.nextSimulator (Nat.lt_succ_self _)
        simpa using kept
    | succ position =>
      obtain ⟨driver, made, matching, there, session, simulator⟩ := placed position other found
      have shift (start : Nat) : start + 1 + position = start + (position + 1) := by omega
      rw [shift] at there session
      rw [shift] at session simulator
      exact ⟨driver, made, matching, there, session, simulator⟩
  · intro session inside
    have kept := sessions session (Nat.lt_succ_of_lt inside)
    simpa [Nat.ne_of_lt inside] using kept
  · intro id inside
    have kept := simulators id (Nat.lt_succ_of_lt inside)
    simpa [Nat.ne_of_lt inside] using kept

/-- Instruments that are built equip the bench. -/
theorem equipped_of_done {catalog : Catalog} {descriptors : List InstrumentConfig}
    {bench after : Bench} {instruments : List RackInstrument}
    (ran : (descriptors.mapM (buildInstrument catalog)).run bench = (.done instruments, after)) :
    Equipped catalog bench descriptors instruments after := by
  induction descriptors generalizing bench instruments with
  | nil =>
    rw [List.mapM_nil] at ran
    cases ran
    exact .nil catalog after
  | cons descriptor rest ih =>
    rw [List.mapM_cons] at ran
    obtain ⟨first, between, ranFirst, later⟩ := Action.run_bind_eq_done.mp ran
    obtain ⟨others, last, ranRest, ended⟩ := Action.run_bind_eq_done.mp later
    obtain ⟨driver, made, matching, rfl, rfl⟩ := buildInstrument_done ranFirst
    cases ended
    exact .cons made matching (ih ranRest)

/-- A member that is added is the channel of its reference, behind the members that were there. -/
theorem addMember_done {instruments : List RackInstrument} {group result : Group}
    {reference : MemberRef} {bench after : Bench}
    (ran : (addMember instruments group reference).run bench = (.done result, after)) :
    ∃ attenuator, channelOf? instruments reference.instrument.toNat reference.index.toNat =
        some attenuator ∧
      result = { group with members := group.members ++ [attenuator] } ∧
      after = bench.record [group.additionEvent attenuator] := by
  unfold addMember at ran
  cases found : channelOf? instruments reference.instrument.toNat reference.index.toNat with
  | none =>
    rw [found] at ran
    cases ran
  | some attenuator =>
    rw [found] at ran
    cases ran
    exact ⟨attenuator, rfl, rfl, rfl⟩

/-- Members that are added are the channels of their references, in order. -/
theorem addMembers_done {instruments : List RackInstrument} {references : List MemberRef}
    {group result : Group} {bench after : Bench}
    (ran : (references.foldlM (addMember instruments) group).run bench = (.done result, after)) :
    ∃ added events, result = { group with members := group.members ++ added } ∧
      added.map some = references.map (fun reference =>
        channelOf? instruments reference.instrument.toNat reference.index.toNat) ∧
      after = bench.record events := by
  induction references generalizing group bench with
  | nil =>
    rw [List.foldlM_nil] at ran
    cases ran
    exact ⟨[], [], by simp, rfl, by simp⟩
  | cons reference rest ih =>
    rw [List.foldlM_cons] at ran
    obtain ⟨between, middle, ranFirst, ranRest⟩ := Action.run_bind_eq_done.mp ran
    obtain ⟨attenuator, found, rfl, rfl⟩ := addMember_done ranFirst
    obtain ⟨added, events, rfl, same, rfl⟩ := ih ranRest
    exact ⟨attenuator :: added, _, by simp, by simp [found, same], Bench.record_record _ _ _⟩

/-- What the group of a description is made of, among instruments: its name, no level commanded,
and for every reference the channel that it names. -/
structure Grouped (instruments : List RackInstrument) (config : GroupConfig) (group : Group) :
    Prop where
  /-- The group has the name of its description. -/
  name : group.name = config.name
  /-- No level was commanded yet. -/
  idle : group.lastCommanded = 0.0
  /-- The members are the channels of the references, in order. -/
  members : group.members.map some = config.members.map (fun reference =>
    channelOf? instruments reference.instrument.toNat reference.index.toNat)

/-- A group that is built is made of the channels that its description names, and only events are
recorded. -/
theorem buildGroup_done {instruments : List RackInstrument} {config : GroupConfig}
    {group : Group} {bench after : Bench}
    (ran : (buildGroup instruments config).run bench = (.done group, after)) :
    Grouped instruments config group ∧ ∃ events, after = bench.record events := by
  unfold buildGroup at ran
  obtain ⟨built, middle, ranMembers, later⟩ := Action.run_bind_eq_done.mp ran
  obtain ⟨added, events, rfl, same, rfl⟩ := addMembers_done ranMembers
  obtain ⟨_, _, ranEmit, ended⟩ := Action.run_bind_eq_done.mp later
  cases ranEmit
  cases ended
  exact ⟨⟨rfl, rfl, same⟩, _, Bench.record_record _ _ _⟩

/-- Groups that are built are made of the channels that their descriptions name, one group for
each description and in order. -/
theorem buildGroups_done {instruments : List RackInstrument} {configs : List GroupConfig}
    {groups : List Group} {bench after : Bench}
    (ran : (configs.mapM (buildGroup instruments)).run bench = (.done groups, after)) :
    List.Forall₂ (Grouped instruments) configs groups ∧ ∃ events, after = bench.record events := by
  induction configs generalizing bench groups with
  | nil =>
    rw [List.mapM_nil] at ran
    cases ran
    exact ⟨.nil, [], (Bench.record_nil after).symm⟩
  | cons config rest ih =>
    rw [List.mapM_cons] at ran
    obtain ⟨first, between, ranFirst, later⟩ := Action.run_bind_eq_done.mp ran
    obtain ⟨others, last, ranRest, ended⟩ := Action.run_bind_eq_done.mp later
    obtain ⟨grouped, events, rfl⟩ := buildGroup_done ranFirst
    cases ended
    obtain ⟨restGrouped, laterEvents, rfl⟩ := ih ranRest
    exact ⟨.cons grouped restGrouped, _, Bench.record_record _ _ _⟩

/-- A built rack: its bench is equipped, its groups are made of its channels, and building only
recorded events beyond that. -/
structure Assembled (config : RackConfig) (catalog : Catalog) (bench : Bench) (rack : Rack)
    (after : Bench) : Prop where
  /-- The instruments are connected. -/
  equipped : Equipped catalog bench config.instruments rack.instruments after
  /-- The groups are made of the channels. -/
  grouped : List.Forall₂ (Grouped rack.instruments) config.groups rack.groups

/-- A rack that is built is assembled. -/
theorem assembled_of_done {config : RackConfig} {catalog : Catalog} {bench after : Bench}
    {rack : Rack} (ran : (build config catalog).run bench = (.done rack, after)) :
    Assembled config catalog bench rack after := by
  unfold build at ran
  obtain ⟨_, checked, ranCheck, later⟩ := Action.run_bind_eq_done.mp ran
  obtain ⟨instruments, connected, ranInstruments, later⟩ := Action.run_bind_eq_done.mp later
  obtain ⟨groups, last, ranGroups, ended⟩ := Action.run_bind_eq_done.mp later
  obtain rfl : checked = bench := by
    rw [Action.run_mapFault_outcome, Action.run_ofExcept] at ranCheck
    exact (congrArg Prod.snd ranCheck).symm
  have equipped := equipped_of_done ranInstruments
  obtain ⟨grouped, events, rfl⟩ := buildGroups_done ranGroups
  cases ended
  obtain ⟨length, nextSession, nextSimulator, placed, sessions, simulators⟩ := equipped
  exact ⟨⟨length, nextSession, nextSimulator, placed, sessions, simulators⟩, grouped⟩

/-- What a descriptor becomes in a built rack: an instrument with an attenuator for every channel,
on a session and with a simulated instrument that were not there before, which its driver brought
along and which received no call. -/
structure Realized (descriptor : InstrumentConfig) (catalog : Catalog) (before after : Bench)
    (instrument : RackInstrument) : Prop where
  /-- There is an attenuator for every channel. -/
  size : instrument.attenuators.length = descriptor.channelCount.toNat
  /-- The attenuator of a channel shares the session of the instrument and has the model that the
  driver reports, the channel, and the offset and the path that are described for it. -/
  channel : ∀ index attenuator, instrument.attenuators[index]? = some attenuator →
    attenuator.session = instrument.session ∧
    attenuator.model =
      (after.simulator (after.session instrument.session).simulator).model ∧
    attenuator.index = index ∧
    attenuator.offset = descriptor.offset index ∧
    attenuator.path = descriptor.path index
  /-- The session is new and free. -/
  session : before.nextSession ≤ instrument.session ∧ instrument.session < after.nextSession ∧
    (after.session instrument.session).poisoned = false
  /-- The simulated instrument is new, and it is as the driver brought it along. -/
  brought : before.nextSimulator ≤ (after.session instrument.session).simulator ∧
    ∃ driver, catalog.create descriptor = .ok driver ∧
      after.simulator (after.session instrument.session).simulator = .ofConfig driver.instrument
  /-- No channel was commanded or read. -/
  calls : (after.simulator (after.session instrument.session).simulator).calls = []
  /-- Every channel holds what it held from the start. -/
  values : (after.simulator (after.session instrument.session).simulator).values =
    List.replicate descriptor.channelCount.toNat 0.0

/-- An instrument of an equipped bench is realized from its descriptor. -/
theorem Equipped.realized {catalog : Catalog} {bench after : Bench}
    {descriptors : List InstrumentConfig} {instruments : List RackInstrument}
    (equipped : Equipped catalog bench descriptors instruments after) {position : Nat}
    {descriptor : InstrumentConfig} {instrument : RackInstrument}
    (described : descriptors[position]? = some descriptor)
    (found : instruments[position]? = some instrument) :
    Realized descriptor catalog bench after instrument := by
  obtain ⟨driver, made, matching, placed, session, simulator⟩ :=
    equipped.placed position descriptor described
  obtain rfl : descriptor.assembled (bench.nextSession + position) driver = instrument :=
    Option.some.inj (placed.symm.trans found)
  have inside : position < descriptors.length := (List.getElem?_eq_some_iff.mp described).1
  have own : (descriptor.assembled (bench.nextSession + position) driver).session =
      bench.nextSession + position := rfl
  refine ⟨by simp [InstrumentConfig.assembled], ?_, ?_, ?_, ?_, ?_⟩
  · intro index attenuator present
    simp only [InstrumentConfig.assembled, List.getElem?_map, Option.map_eq_some_iff] at present
    obtain ⟨other, counted, rfl⟩ := present
    obtain rfl : other = index := by
      have := List.getElem?_eq_some_iff.mp counted
      simpa using this.2.symm
    rw [own, session, simulator]
    exact ⟨rfl, rfl, rfl, rfl, rfl⟩
  · rw [own, session, equipped.nextSession]
    exact ⟨Nat.le_add_right _ _, Nat.add_lt_add_left inside _, rfl⟩
  · rw [own, session]
    exact ⟨Nat.le_add_right _ _, driver, made, simulator⟩
  · rw [own, session, simulator]
    rfl
  · rw [own, session, simulator, ← matching]
    rfl

/-- Two instruments of an equipped bench share neither a session nor a simulated instrument. -/
theorem Equipped.apart {catalog : Catalog} {bench after : Bench}
    {descriptors : List InstrumentConfig} {instruments : List RackInstrument}
    (equipped : Equipped catalog bench descriptors instruments after) {first second : Nat}
    {one other : RackInstrument} (foundOne : instruments[first]? = some one)
    (foundOther : instruments[second]? = some other)
    (shared : one.session = other.session ∨
      (after.session one.session).simulator = (after.session other.session).simulator) :
    first = second := by
  have place (position : Nat) (instrument : RackInstrument)
      (found : instruments[position]? = some instrument) :
      instrument.session = bench.nextSession + position ∧
        (after.session instrument.session).simulator = bench.nextSimulator + position := by
    obtain ⟨descriptor, described⟩ := equipped.exists_descriptor found
    obtain ⟨driver, -, -, placed, session, -⟩ := equipped.placed position descriptor described
    obtain rfl := Option.some.inj (placed.symm.trans found)
    exact ⟨rfl, congrArg Session.simulator session⟩
  obtain ⟨sessionOne, simulatorOne⟩ := place first one foundOne
  obtain ⟨sessionOther, simulatorOther⟩ := place second other foundOther
  rcases shared with session | simulator
  · rw [sessionOne, sessionOther] at session
    exact Nat.add_left_cancel session
  · rw [simulatorOne, simulatorOther] at simulator
    exact Nat.add_left_cancel simulator

/-- **A built rack is the one that is described.** Every descriptor has its instrument, in order
and realized as described, and no two instruments share a session or a simulated instrument,
however much their descriptors are alike. Every group of the description has its group, in order,
with its name, no level commanded yet, and for every reference, in order, the very attenuator of
the rack that the reference names. What was on the bench before is as it was. -/
theorem build_complete {config : RackConfig} {catalog : Catalog} {bench after : Bench}
    {rack : Rack} (built : (build config catalog).run bench = (.done rack, after)) :
    (rack.instruments.length = config.instruments.length ∧
      ∀ (position : Nat) (descriptor : InstrumentConfig) (instrument : RackInstrument),
        config.instruments[position]? = some descriptor →
        rack.instruments[position]? = some instrument →
        Realized descriptor catalog bench after instrument) ∧
    (∀ (first second : Nat) (one other : RackInstrument), rack.instruments[first]? = some one →
      rack.instruments[second]? = some other →
      one.session = other.session ∨
        (after.session one.session).simulator = (after.session other.session).simulator →
      first = second) ∧
    (rack.groups.length = config.groups.length ∧
      ∀ (position : Nat) (description : GroupConfig) (group : Group),
        config.groups[position]? = some description →
        rack.groups[position]? = some group →
        group.name = description.name ∧ group.lastCommanded = 0.0 ∧
        group.members.map some = description.members.map fun reference =>
          rack.attenuator? reference.instrument.toNat reference.index.toNat) ∧
    (∀ session < bench.nextSession, after.session session = bench.session session) ∧
    ∀ id < bench.nextSimulator, after.simulator id = bench.simulator id := by
  obtain ⟨equipped, grouped⟩ := assembled_of_done built
  refine ⟨⟨equipped.length, fun _ _ _ => equipped.realized⟩, fun _ _ _ _ => equipped.apart,
    ⟨grouped.length_eq.symm, ?_⟩, equipped.sessions, equipped.simulators⟩
  intro position description group described found
  obtain ⟨inside, rfl⟩ := List.getElem?_eq_some_iff.mp described
  obtain ⟨present, rfl⟩ := List.getElem?_eq_some_iff.mp found
  obtain ⟨name, idle, members⟩ := grouped.get inside present
  exact ⟨name, idle, members⟩

/-- An instrument with two channels and longer lists. -/
def twin : InstrumentConfig where
  model := "SIM-2"
  transport := .simulated
  address := ""
  port := InstrumentConfig.defaultPort
  channelCount := 2
  offsets := some [0.5, 1.5, 2.5]
  paths := some ["left", "right", "spare"]
  maximum := some 60.0

/-- Two instruments that are described alike, one without channels, and a group that names a
channel of the first twice and one of the second. -/
def twins : RackConfig where
  instruments := [twin, twin, { twin with channelCount := 0 }]
  groups := [⟨"pair", [⟨0, 1⟩, ⟨1, 1⟩, ⟨0, 1⟩]⟩]

/-- The twins are built with sessions of their own, and the group has the members that it names. -/
theorem build_complete_twins :
    ∃ rack after, (build twins Catalog.empty).run Bench.empty = (.done rack, after) ∧
      rack.instruments.length = 3 ∧
      (∀ one other, rack.instruments[0]? = some one → rack.instruments[1]? = some other →
        one.session ≠ other.session) ∧
      ∀ group, rack.groups[0]? = some group → group.members.map some =
        [rack.attenuator? 0 1, rack.attenuator? 1 1, rack.attenuator? 0 1] := by
  have done : ((build twins Catalog.empty).run Bench.empty).1.isDone := by decide +kernel
  obtain ⟨rack, after, built⟩ := Action.exists_of_isDone done
  obtain ⟨⟨count, -⟩, apart, ⟨-, groups⟩, -⟩ := build_complete built
  refine ⟨rack, after, built, count, ?_, ?_⟩
  · intro one other first second same
    have equal := apart 0 1 one other first second (.inl same)
    omega
  · intro group found
    exact (groups 0 _ group rfl found).2.2

end Rack

end Attenuation
