import Attenuation.Proofs.Holdings

/-!
# Histories of operations

A laboratory is a bench together with everything that callers hold. `Operation` is everything that
callers can do with the library, each operation carried out by the functions of the library, and a
history is any sequence of operations, with faults and crashes along the way. An operation does
only what `Operation.Allows` says, and whatever the history was, every attenuator that is held
anywhere is calibrated.
-/

namespace Attenuation

/-- Why an operation was not done. -/
inductive LabFault where
  /-- It names something that does not exist. -/
  | noSuchObject
  /-- A session failed. -/
  | session (source : SessionFault)
  /-- An attenuator or a group failed. -/
  | operation (source : Fault)
  /-- A group command stopped. -/
  | stopped (source : GroupStop)
  /-- A rack failed. -/
  | rack (source : RackFault)
  /-- A command failed. -/
  | command (source : CommandFault)
  /-- A run of the program ended early. -/
  | program (source : RunFault)

/-- Everything that callers can do. -/
inductive Operation where
  /-- Make a simulated instrument. -/
  | addSimulator (config : SimulatorConfig)
  /-- Change an instrument from outside. -/
  | adjust (id : SimulatorId) (adjustment : Simulator.Adjustment)
  /-- Open a session to an instrument. -/
  | openSession (id : SimulatorId) (trap : Trap)
  /-- Ask for the properties of an instrument. -/
  | info (session : SessionId)
  /-- Command a channel past every attenuator. -/
  | setRaw (session : SessionId) (index : Nat) (value : Level)
  /-- Read a channel past every attenuator. -/
  | getRaw (session : SessionId) (index : Nat)
  /-- Hold a session over several calls. -/
  | batch (session : SessionId) (calls : List Call)
  /-- Crash behind several calls while a session is held, as a driver does in the middle of what it
  is asked, whether it reached its instrument or not. -/
  | abandon (session : SessionId) (calls : List Call)
  /-- Create an attenuator. -/
  | createAttenuator (session : SessionId) (index : Nat) (offset : Level)
  /-- Copy an attenuator. -/
  | copyAttenuator (place : AttenuatorPlace)
  /-- Change the offset of an attenuator on its own. -/
  | setOffset (position : Nat) (offset : Level)
  /-- Label the path of an attenuator on its own. -/
  | setPath (position : Nat) (path : String)
  /-- Command an attenuator. -/
  | setLevel (place : AttenuatorPlace) (value : Level)
  /-- Read an attenuator. -/
  | getLevel (place : AttenuatorPlace)
  /-- Ask for the maximum of an attenuator. -/
  | getMaximum (place : AttenuatorPlace)
  /-- Make a group. -/
  | newGroup (name : String)
  /-- Copy a group. -/
  | copyGroup (group : GroupPlace)
  /-- Append copies of attenuators to a group. -/
  | extendGroup (group : GroupPlace) (places : List AttenuatorPlace)
  /-- Append channels of an instrument to a group. -/
  | addFrom (group : GroupPlace) (session : SessionId) (selection : Selection)
  /-- Command a group. -/
  | setGroup (group : GroupPlace) (value : Level)
  /-- Command a group to its remembered level. -/
  | synchronize (group : GroupPlace)
  /-- Ask whether a group reads back its remembered level. -/
  | isSynchronized (group : GroupPlace)
  /-- Build a rack. -/
  | buildRack (config : RackConfig) (catalog : Catalog)
  /-- Take a snapshot of a rack. -/
  | rackStatus (rack : Nat)
  /-- Carry out a command on a rack. -/
  | command (rack : Nat) (order : Command)
  /-- Take a group out of a rack. -/
  | takeGroup (rack : Nat) (name : String)
  /-- Hand a group to an actor. -/
  | spawn (position : Nat) (buffer : Nat)
  /-- Send a request to an actor. -/
  | send (worker : Nat) (request : Request)
  /-- Let an actor take one step. -/
  | serve (worker : Nat)
  /-- Add a handle of an actor. -/
  | addHandle (worker : Nat)
  /-- Drop a handle of an actor. -/
  | dropHandle (worker : Nat)
  /-- Take the group of an actor that has stopped. -/
  | join (worker : Nat)
  /-- Run the program. -/
  | program (config : RackConfig) (commands : List Command)

/-- What calls through a session that is held may do. -/
def Deed.IsAmong (session : SessionId) (calls : List Call) (deed : Deed) : Prop :=
  deed.IsQuiet ∨ (∃ index value, .set index value ∈ calls ∧ deed = .setRaw session index value) ∨
    ∃ index, .get index ∈ calls ∧ deed = .get session index

namespace Operation

/-- What exists, or the fault that it does not. -/
def require {α : Type} : Option α → Action LabFault α
  | some value => pure value
  | none => Action.fail .noSuchObject

/-- Do something if what it needs is on the bench. -/
def whenPresent (present : Bench → Prop) [DecidablePred present] {α : Type}
    (action : Action LabFault α) : Action LabFault α := do
  if present (← Action.bench) then action else Action.fail .noSuchObject

/-- Carry out an operation. What callers hold afterwards is given back. -/
def act (held : Holdings) : Operation → Action LabFault Holdings
  | .addSimulator config => do
    let _ ← Action.modifyGet fun bench => bench.addSimulator config
    return held
  | .adjust id adjustment => whenPresent (fun bench => id < bench.nextSimulator) do
    Action.modifyGet fun bench =>
      (held, bench.changeSimulator id fun simulator => simulator.adjust adjustment)
  | .openSession id trap => whenPresent (fun bench => id < bench.nextSimulator) do
    let _ ← Action.modifyGet fun bench => bench.openSession id trap
    return held
  | .info session => whenPresent (fun bench => bench.IsOpen session) do
    let _ ← (Session.info session).mapFault .session
    return held
  | .setRaw session index value => whenPresent (fun bench => bench.IsOpen session) do
    (Session.setRaw session index value).mapFault .session
    return held
  | .getRaw session index => whenPresent (fun bench => bench.IsOpen session) do
    let _ ← (Session.getRaw session index).mapFault .session
    return held
  | .batch session calls => whenPresent (fun bench => bench.IsOpen session) do
    let _ ← (Session.batch session calls).mapFault .session
    return held
  | .abandon session calls => whenPresent (fun bench => bench.IsOpen session) do
    (Session.abandon session calls).mapFault .session
    return held
  | .createAttenuator session index offset => whenPresent (fun bench => bench.IsOpen session) do
    let attenuator ← (Attenuator.create session index offset).mapFault .operation
    return { held with attenuators := held.attenuators ++ [attenuator] }
  | .copyAttenuator place => do
    let attenuator ← require (held.attenuator? place)
    return { held with attenuators := held.attenuators ++ [attenuator] }
  | .setOffset position offset => do
    let attenuator ← require held.attenuators[position]?
    let changed ← (Action.ofExcept (attenuator.setOffset offset)).mapFault .operation
    return { held with attenuators := held.attenuators.set position changed }
  | .setPath position path => do
    let attenuator ← require held.attenuators[position]?
    return { held with attenuators := held.attenuators.set position (attenuator.withPath path) }
  | .setLevel place value => do
    let attenuator ← require (held.attenuator? place)
    (attenuator.set value).mapFault .operation
    return held
  | .getLevel place => do
    let attenuator ← require (held.attenuator? place)
    let _ ← attenuator.get.mapFault .operation
    return held
  | .getMaximum place => do
    let attenuator ← require (held.attenuator? place)
    let _ ← attenuator.maximum.mapFault .operation
    return held
  | .newGroup name => return { held with groups := held.groups ++ [Group.empty name] }
  | .copyGroup place => do
    let group ← require (held.group? place)
    return { held with groups := held.groups ++ [group] }
  | .extendGroup place places => do
    let group ← require (held.group? place)
    let attenuators ← require (places.mapM held.attenuator?)
    return held.putGroup place (← group.extend attenuators)
  | .addFrom place session selection => whenPresent (fun bench => bench.IsOpen session) do
    let group ← require (held.group? place)
    return held.putGroup place (← (group.addFrom session selection).mapFault .operation)
  | .setGroup place value => do
    let group ← require (held.group? place)
    return held.putGroup place (← (group.set value).mapFault .stopped)
  | .synchronize place => do
    let group ← require (held.group? place)
    return held.putGroup place (← group.synchronize.mapFault .stopped)
  | .isSynchronized place => do
    let group ← require (held.group? place)
    let _ ← group.isSynchronized.mapFault .operation
    return held
  | .buildRack config catalog => do
    let rack ← (Rack.build config catalog).mapFault .rack
    return { held with racks := held.racks ++ [rack] }
  | .rackStatus position => do
    let rack ← require held.racks[position]?
    let _ ← rack.status.mapFault .rack
    return held
  | .command position order => do
    let rack ← require held.racks[position]?
    let (_, after) ← (order.run rack).mapFault .command
    return { held with racks := held.racks.set position after }
  | .takeGroup position name => do
    let rack ← require held.racks[position]?
    let (group, after) ← require (rack.takeGroup? name)
    return { held with groups := held.groups ++ [group], racks := held.racks.set position after }
  | .spawn position buffer => do
    let group ← require held.groups[position]?
    let actor ← Actor.spawn group buffer
    return {
      held with
      groups := held.groups.eraseIdx position
      workers := held.workers ++ [⟨actor, false⟩] }
  | .send position request => do
    let worker ← require held.workers[position]?
    let sent := { worker with actor := (worker.actor.send request).2 }
    return { held with workers := held.workers.set position sent }
  | .serve position => do
    let worker ← require held.workers[position]?
    let actor ← worker.actor.serve
    return { held with workers := held.workers.set position { worker with actor } }
  | .addHandle position => do
    let worker ← require held.workers[position]?
    let more := { worker with actor := worker.actor.addHandle }
    return { held with workers := held.workers.set position more }
  | .dropHandle position => do
    let worker ← require held.workers[position]?
    let fewer := { worker with actor := worker.actor.dropHandle }
    return { held with workers := held.workers.set position fewer }
  | .join position => do
    let worker ← require held.workers[position]?
    match worker.joined, worker.actor.phase with
    | false, .stopped group =>
      return {
        held with
        groups := held.groups ++ [group]
        workers := held.workers.set position { worker with joined := true } }
    | _, _ => Action.fail .noSuchObject
  | .program config commands => do
    let _ ← (CommandLine.operate config commands).mapFault .program
    return held

/-- The attenuators that an operation asks for a level. -/
def Asks (held : Holdings) (operation : Operation) (attenuator : Attenuator) (value : Level) :
    Prop :=
  match operation with
  | .setLevel place level => held.attenuator? place = some attenuator ∧ value = level
  | .setGroup place level => ∃ group, held.group? place = some group ∧
      attenuator ∈ group.members ∧ value = level
  | .synchronize place => ∃ group, held.group? place = some group ∧
      attenuator ∈ group.members ∧ value = group.lastCommanded
  | .command position order => ∃ rack, held.racks[position]? = some rack ∧
      order.Asks rack attenuator value
  | .serve position => ∃ worker, held.workers[position]? = some worker ∧
      worker.actor.Asks attenuator value
  | .program config commands => CommandLine.Asks config commands attenuator value
  | _ => False

/-- The channels that an operation reads through a session. -/
def Reads (held : Holdings) (operation : Operation) (session : SessionId) (index : Nat) : Prop :=
  match operation with
  | .getRaw source channel => source = session ∧ channel = index
  | .batch source calls => source = session ∧ .get index ∈ calls
  | .abandon source calls => source = session ∧ .get index ∈ calls
  | .getLevel place => ∃ attenuator, held.attenuator? place = some attenuator ∧
      attenuator.session = session ∧ attenuator.index = index
  | .isSynchronized place => ∃ group, held.group? place = some group ∧
      ∃ member ∈ group.members, member.session = session ∧ member.index = index
  | .command position order => ∃ rack, held.racks[position]? = some rack ∧
      order.Reads rack session index
  | .serve position => ∃ worker, held.workers[position]? = some worker ∧
      worker.actor.footprint.reads session index
  | .program _ _ => True
  | _ => False

/-- Whether an operation connects drivers. -/
def Connects : Operation → Prop
  | .addSimulator _ => True
  | .openSession _ _ => True
  | .buildRack _ _ => True
  | .program _ _ => True
  | _ => False

/-- What an operation may do through attenuators. -/
def footprint (held : Holdings) (operation : Operation) : Footprint where
  asks := operation.Asks held
  reads := operation.Reads held
  connects := operation.Connects

/-- The deeds that an operation may do. -/
def Allows (held : Holdings) (operation : Operation) (deed : Deed) : Prop :=
  match operation with
  | .adjust id adjustment => deed = .adjust id adjustment
  | .setRaw session index value => deed.IsQuiet ∨ deed = .setRaw session index value
  | .batch session calls => deed.IsAmong session calls
  | .abandon session calls => deed.IsAmong session calls
  | operation => (operation.footprint held).Allows deed

variable {allowed : Deed → Prop} {bench : Bench}

/-- What exists is given, and nothing is done. -/
theorem require_yields {α : Type} (option : Option α) :
    (require option).Yields (Bench.Evolves allowed) bench fun value after =>
      after = bench ∧ option = some value := by
  cases option with
  | none => exact .fail _ _
  | some value => exact .pure ⟨rfl, rfl⟩

/-- An action is carried out only where what it needs is on the bench. -/
theorem whenPresent_yields {present : Bench → Prop} [DecidablePred present] {α : Type}
    {action : Action LabFault α} {property : α → Bench → Prop}
    (contract : present bench → action.Yields (Bench.Evolves allowed) bench property) :
    (whenPresent present action).Yields (Bench.Evolves allowed) bench property := by
  refine Action.Yields.bench_self.bind fun here between _ => ?_
  rintro ⟨same, still⟩
  rw [same, still]
  by_cases there : present bench
  · rw [if_pos there]
    exact contract there
  · rw [if_neg there]
    exact .fail _ _

/-- What goes on with a value that exists. -/
theorem require_bind_yields {α β : Type} {option : Option α} {next : α → Action LabFault β}
    {property : β → Bench → Prop}
    (rest : ∀ value, option = some value →
      (next value).Yields (Bench.Evolves allowed) bench property) :
    (require option >>= next).Yields (Bench.Evolves allowed) bench property := by
  refine (require_yields option).bind fun value here _ => ?_
  rintro ⟨rfl, found⟩
  exact rest value found

/-- One deed that is possible, whatever its value is. -/
theorem deed_yields {α : Type} {change : Bench → α × Bench} (deed : Deed) (sort : allowed deed)
    (possible : deed.Possible bench) (same : (change bench).2 = deed.perform bench) :
    (Action.modifyGet change : Action LabFault α).Yields (Bench.Evolves allowed) bench
      fun value _ => value = (change bench).1 := by
  refine .modifyGet ?_ rfl
  rw [same]
  exact .single deed sort possible

/-- Where only the bench changes, everything that is held stays calibrated. -/
theorem unchanged {α : Type} {held : Holdings} {action : Action LabFault α}
    {property : α → Bench → Prop} (all : held.All bench.Calibrated)
    (contract : action.Yields (Bench.Evolves allowed) bench property) :
    (do let _ ← action; return held).Yields (Bench.Evolves allowed) bench
      fun held after => held.All after.Calibrated :=
  contract.bind fun _ _ evolved _ => .pure (all.imp fun _ known => evolved.calibrated known)

/-- A command to a group that is held asks its members, which stay as they are. -/
theorem commandGroup_yields (quiet : ∀ deed, deed.IsQuiet → allowed deed) {held : Holdings}
    (all : held.All bench.Calibrated) {place : GroupPlace} {group : Group} {value : Level}
    (found : held.group? place = some group)
    (sort : ∀ member ∈ group.members, allowed (.set member value)) :
    (do return held.putGroup place (← (group.set value).mapFault LabFault.stopped)).Yields
      (Bench.Evolves allowed) bench fun held after => held.All after.Calibrated := by
  have commanded := Group.set_yields quiet (all.group? found) sort
  refine (commanded.mapFault LabFault.stopped).bind fun result after evolved => ?_
  rintro ⟨-, rfl⟩
  have lasting := all.imp fun _ known => evolved.calibrated known
  have members := lasting.group? found
  exact .pure (lasting.putGroup place fun member inside => members member inside)

/-- An operation does only what it may do, and leaves every attenuator that is held calibrated. -/
def Conforms (held : Holdings) (bench : Bench) (operation : Operation) : Prop :=
  (operation.act held).Yields (Bench.Evolves (operation.Allows held)) bench
    fun held after => held.All after.Calibrated

section Conforms

variable {held : Holdings}

/-- Making an instrument conforms. -/
theorem addSimulator_conforms (all : held.All bench.Calibrated) (config : SimulatorConfig) :
    Conforms held bench (.addSimulator config) :=
  unchanged all (deed_yields (.addSimulator config) trivial trivial rfl)

/-- Changing an instrument from outside conforms. -/
theorem adjust_conforms (all : held.All bench.Calibrated) (id : SimulatorId)
    (adjustment : Simulator.Adjustment) : Conforms held bench (.adjust id adjustment) := by
  refine whenPresent_yields fun present => ?_
  have evolved : bench.Evolves (Allows held (.adjust id adjustment))
      ((Deed.adjust id adjustment).perform bench) :=
    .single (.adjust id adjustment) rfl present
  exact .modifyGet evolved (all.imp fun _ known => evolved.calibrated known)

/-- Opening a session conforms. -/
theorem openSession_conforms (all : held.All bench.Calibrated) (id : SimulatorId) (trap : Trap) :
    Conforms held bench (.openSession id trap) := by
  refine whenPresent_yields fun present => ?_
  exact unchanged all (deed_yields (.openSession id trap) trivial present rfl)

/-- Asking for the properties of an instrument conforms. -/
theorem info_conforms (all : held.All bench.Calibrated) (session : SessionId) :
    Conforms held bench (.info session) := by
  refine whenPresent_yields fun present => ?_
  exact unchanged all ((Session.info_yields session).mapFault _)

/-- A raw command conforms. -/
theorem setRaw_conforms (all : held.All bench.Calibrated) (session : SessionId) (index : Nat)
    (value : Level) : Conforms held bench (.setRaw session index value) := by
  refine whenPresent_yields fun present => ?_
  exact unchanged all ((Session.setRaw_keeps (fun _ quiet => .inl quiet) (.inr rfl)).mapFault _)

/-- A raw read conforms. -/
theorem getRaw_conforms (all : held.All bench.Calibrated) (session : SessionId) (index : Nat) :
    Conforms held bench (.getRaw session index) := by
  refine whenPresent_yields fun present => ?_
  have quiet := (footprint held (.getRaw session index)).allows_quiet
  exact unchanged all ((Session.getRaw_keeps quiet ⟨rfl, rfl⟩).mapFault _)

/-- Several calls while a session is held conform. -/
theorem batch_conforms (all : held.All bench.Calibrated) (session : SessionId)
    (calls : List Call) : Conforms held bench (.batch session calls) := by
  refine whenPresent_yields fun present => ?_
  exact unchanged all ((Session.batch_keeps (fun _ quiet => .inl quiet)
    (fun index value inside => .inr (.inl ⟨index, value, inside, rfl⟩))
    fun index inside => .inr (.inr ⟨index, inside, rfl⟩)).mapFault _)

/-- A crash behind several calls conforms. -/
theorem abandon_conforms (all : held.All bench.Calibrated) (session : SessionId)
    (calls : List Call) : Conforms held bench (.abandon session calls) := by
  refine whenPresent_yields fun present => ?_
  exact unchanged all ((Session.abandon_keeps (fun _ quiet => .inl quiet)
    (fun index value inside => .inr (.inl ⟨index, value, inside, rfl⟩))
    fun index inside => .inr (.inr ⟨index, inside, rfl⟩)).mapFault _)

/-- Creating an attenuator conforms. -/
theorem createAttenuator_conforms (all : held.All bench.Calibrated) (session : SessionId)
    (index : Nat) (offset : Level) :
    Conforms held bench (.createAttenuator session index offset) := by
  refine whenPresent_yields fun opened => ?_
  refine ((Attenuator.create_yields opened index offset).mapFault _).bind
    fun attenuator after evolved => ?_
  rintro ⟨rfl, calibrated⟩
  exact .pure (all.addAttenuator calibrated)

/-- Copying an attenuator conforms. -/
theorem copyAttenuator_conforms (all : held.All bench.Calibrated) (place : AttenuatorPlace) :
    Conforms held bench (.copyAttenuator place) :=
  require_bind_yields fun _ found => .pure (all.addAttenuator (all.attenuator? found))

/-- Changing the offset of an attenuator conforms. -/
theorem setOffset_conforms (all : held.All bench.Calibrated) (position : Nat) (offset : Level) :
    Conforms held bench (.setOffset position offset) := by
  refine require_bind_yields fun attenuator found => ?_
  have known := all.attenuators attenuator (List.mem_of_getElem? found)
  refine ((Action.Yields.ofExcept (fun changed after =>
    after = bench ∧ bench.Calibrated changed) fun changed done => ⟨rfl, ?_⟩).mapFault _).bind
    fun changed after _ => ?_
  · obtain ⟨finite, rfl⟩ := Attenuator.setOffset_ok done
    exact ⟨known.isOpen, known.channel, finite⟩
  · rintro ⟨rfl, calibrated⟩
    exact .pure (all.setAttenuator position calibrated)

/-- Labelling the path of an attenuator conforms. -/
theorem setPath_conforms (all : held.All bench.Calibrated) (position : Nat) (path : String) :
    Conforms held bench (.setPath position path) := by
  refine require_bind_yields fun attenuator found => ?_
  have known := all.attenuators attenuator (List.mem_of_getElem? found)
  exact .pure (all.setAttenuator position ⟨known.isOpen, known.channel, known.offset⟩)

/-- Commanding an attenuator conforms. -/
theorem setLevel_conforms (all : held.All bench.Calibrated) (place : AttenuatorPlace)
    (value : Level) : Conforms held bench (.setLevel place value) := by
  refine require_bind_yields fun attenuator found => ?_
  have quiet := (footprint held (.setLevel place value)).allows_quiet
  exact unchanged all ((Attenuator.set_keeps quiet (all.attenuator? found)
    ⟨found, rfl⟩).mapFault _)

/-- Reading an attenuator conforms. -/
theorem getLevel_conforms (all : held.All bench.Calibrated) (place : AttenuatorPlace) :
    Conforms held bench (.getLevel place) := by
  refine require_bind_yields fun attenuator found => ?_
  have quiet := (footprint held (.getLevel place)).allows_quiet
  exact unchanged all ((Attenuator.get_keeps quiet ⟨attenuator, found, rfl, rfl⟩).mapFault _)

/-- Asking for the maximum of an attenuator conforms. -/
theorem getMaximum_conforms (all : held.All bench.Calibrated) (place : AttenuatorPlace) :
    Conforms held bench (.getMaximum place) := by
  refine require_bind_yields fun attenuator found => ?_
  exact unchanged all ((Attenuator.maximum_keeps attenuator).mapFault _)

/-- Making a group conforms. -/
theorem newGroup_conforms (all : held.All bench.Calibrated) (name : String) :
    Conforms held bench (.newGroup name) :=
  .pure (all.addGroup fun _ inside => absurd inside List.not_mem_nil)

/-- Copying a group conforms. -/
theorem copyGroup_conforms (all : held.All bench.Calibrated) (place : GroupPlace) :
    Conforms held bench (.copyGroup place) :=
  require_bind_yields fun _ found => .pure (all.addGroup (all.group? found))

/-- Appending copies of attenuators to a group conforms. -/
theorem extendGroup_conforms (all : held.All bench.Calibrated) (place : GroupPlace)
    (places : List AttenuatorPlace) : Conforms held bench (.extendGroup place places) := by
  refine require_bind_yields fun group found => ?_
  refine require_bind_yields fun attenuators copied => ?_
  refine (Group.extend_yields Footprint.allows_quiet group attenuators).bind
    fun result after evolved => ?_
  rintro rfl
  have lasting := all.imp fun _ known => evolved.calibrated known
  refine .pure (lasting.putGroup place fun member inside => ?_)
  rcases List.mem_append.mp inside with earlier | last
  · exact lasting.group? found member earlier
  · exact lasting.attenuators? copied member last

/-- Appending channels of an instrument to a group conforms. -/
theorem addFrom_conforms (all : held.All bench.Calibrated) (place : GroupPlace)
    (session : SessionId) (selection : Selection) :
    Conforms held bench (.addFrom place session selection) := by
  refine whenPresent_yields fun opened => ?_
  refine require_bind_yields fun group found => ?_
  refine ((Group.addFrom_yields Footprint.allows_quiet group opened selection).mapFault _).bind
    fun result after evolved => ?_
  rintro ⟨created, rfl, calibrated⟩
  have lasting := all.imp fun _ known => evolved.calibrated known
  refine .pure (lasting.putGroup place fun member inside => ?_)
  rcases List.mem_append.mp inside with earlier | last
  · exact evolved.calibrated (all.group? found member earlier)
  · exact calibrated member last

/-- Commanding a group conforms. -/
theorem setGroup_conforms (all : held.All bench.Calibrated) (place : GroupPlace) (value : Level) :
    Conforms held bench (.setGroup place value) := by
  refine require_bind_yields fun group found => ?_
  exact commandGroup_yields Footprint.allows_quiet all found fun member inside =>
    ⟨group, found, inside, rfl⟩

/-- Commanding a group to its remembered level conforms. -/
theorem synchronize_conforms (all : held.All bench.Calibrated) (place : GroupPlace) :
    Conforms held bench (.synchronize place) := by
  refine require_bind_yields fun group found => ?_
  exact commandGroup_yields Footprint.allows_quiet all found fun member inside =>
    ⟨group, found, inside, rfl⟩

/-- Asking whether a group reads back its remembered level conforms. -/
theorem isSynchronized_conforms (all : held.All bench.Calibrated) (place : GroupPlace) :
    Conforms held bench (.isSynchronized place) := by
  refine require_bind_yields fun group found => ?_
  have quiet := (footprint held (.isSynchronized place)).allows_quiet
  exact unchanged all ((Group.isSynchronized_keeps quiet fun member inside =>
    ⟨group, found, member, inside, rfl, rfl⟩).mapFault _)

/-- Building a rack conforms. -/
theorem buildRack_conforms (all : held.All bench.Calibrated) (config : RackConfig)
    (catalog : Catalog) : Conforms held bench (.buildRack config catalog) := by
  refine ((Rack.build_yields Footprint.allows_quiet (Footprint.allows_connection _ trivial) config
    catalog).mapFault _).bind fun rack after evolved built => ?_
  have lasting := all.imp fun _ known => evolved.calibrated known
  exact .pure (lasting.addRack built.all)

/-- Taking a snapshot of a rack conforms. -/
theorem rackStatus_conforms (all : held.All bench.Calibrated) (position : Nat) :
    Conforms held bench (.rackStatus position) := by
  refine require_bind_yields fun rack found => ?_
  exact unchanged all (rack.status_keeps.mapFault _)

/-- A command on a rack conforms. -/
theorem command_conforms (all : held.All bench.Calibrated) (position : Nat) (order : Command) :
    Conforms held bench (.command position order) := by
  refine require_bind_yields fun rack found => ?_
  have known := all.racks rack (List.mem_of_getElem? found)
  have within : (order.footprint rack).Within (footprint held (.command position order)) :=
    ⟨fun _ _ asked => ⟨rack, found, asked⟩, fun _ _ read => ⟨rack, found, read⟩, id⟩
  have ran := within.yields (Command.run_yields known order)
  refine (ran.mapFault LabFault.command).bind fun answer after evolved left => ?_
  obtain ⟨text, next⟩ := answer
  cases left
  have lasting := all.imp fun _ known => evolved.calibrated known
  exact .pure (lasting.setRack position
    ((lasting.racks rack (List.mem_of_getElem? found)).rackAfter order))

/-- Taking a group out of a rack conforms. -/
theorem takeGroup_conforms (all : held.All bench.Calibrated) (position : Nat) (name : String) :
    Conforms held bench (.takeGroup position name) := by
  refine require_bind_yields fun rack found => ?_
  refine require_bind_yields fun taken present => ?_
  obtain ⟨group, after⟩ := taken
  obtain ⟨members, rest⟩ := (all.racks rack (List.mem_of_getElem? found)).takeGroup? present
  exact .pure ((all.addGroup members).setRack position rest)

/-- Handing a group to an actor conforms. -/
theorem spawn_conforms (all : held.All bench.Calibrated) (position buffer : Nat) :
    Conforms held bench (.spawn position buffer) := by
  refine require_bind_yields fun group found => ?_
  refine (Actor.spawn_yields Footprint.allows_quiet group buffer).bind
    fun actor after evolved serving => ?_
  have lasting := all.imp fun _ known => evolved.calibrated known
  refine .pure ((lasting.eraseGroup position).addWorker fun own present => ?_)
  rw [serving] at present
  cases present
  exact lasting.groups group (List.mem_of_getElem? found)

/-- Sending a request to an actor conforms. -/
theorem send_conforms (all : held.All bench.Calibrated) (position : Nat) (request : Request) :
    Conforms held bench (.send position request) := by
  refine require_bind_yields fun worker found => ?_
  refine .pure (all.setWorker position fun own present => ?_)
  rw [Actor.phase_send] at present
  exact all.workers worker (List.mem_of_getElem? found) own present

/-- A step of an actor conforms. -/
theorem serve_conforms (all : held.All bench.Calibrated) (position : Nat) :
    Conforms held bench (.serve position) := by
  refine require_bind_yields fun worker found => ?_
  have known := all.workers worker (List.mem_of_getElem? found)
  have within : worker.actor.footprint.Within (footprint held (.serve position)) :=
    ⟨fun _ _ asked => ⟨worker, found, asked⟩, fun _ _ read => ⟨worker, found, read⟩, id⟩
  refine (within.yields (Actor.serve_yields known)).bind fun actor after evolved left => ?_
  have lasting := all.imp fun _ known => evolved.calibrated known
  exact .pure (lasting.setWorker position left)

/-- Adding a handle of an actor conforms. -/
theorem addHandle_conforms (all : held.All bench.Calibrated) (position : Nat) :
    Conforms held bench (.addHandle position) :=
  require_bind_yields fun worker found =>
    .pure (all.setWorker position (all.workers worker (List.mem_of_getElem? found)))

/-- Dropping a handle of an actor conforms. -/
theorem dropHandle_conforms (all : held.All bench.Calibrated) (position : Nat) :
    Conforms held bench (.dropHandle position) :=
  require_bind_yields fun worker found =>
    .pure (all.setWorker position (all.workers worker (List.mem_of_getElem? found)))

/-- Taking the group of an actor that has stopped conforms. -/
theorem join_conforms (all : held.All bench.Calibrated) (position : Nat) :
    Conforms held bench (.join position) := by
  refine require_bind_yields fun worker found => ?_
  have known := all.workers worker (List.mem_of_getElem? found)
  cases joined : worker.joined with
  | true => exact .fail _ _
  | false =>
    cases phase : worker.actor.phase with
    | serving group => exact .fail _ _
    | crashed => exact .fail _ _
    | stopped group =>
      exact .pure ((all.addGroup (known group (by rw [phase]; rfl))).setWorker position known)

/-- Running the program conforms. -/
theorem program_conforms (all : held.All bench.Calibrated) (config : RackConfig)
    (commands : List Command) : Conforms held bench (.program config commands) :=
  unchanged all ((CommandLine.operate_keeps config commands).mapFault _)

end Conforms

/-- Every operation conforms. -/
theorem act_yields {held : Holdings} (all : held.All bench.Calibrated) (operation : Operation) :
    Conforms held bench operation := by
  cases operation with
  | addSimulator config => exact addSimulator_conforms all config
  | adjust id adjustment => exact adjust_conforms all id adjustment
  | openSession id trap => exact openSession_conforms all id trap
  | info session => exact info_conforms all session
  | setRaw session index value => exact setRaw_conforms all session index value
  | getRaw session index => exact getRaw_conforms all session index
  | batch session calls => exact batch_conforms all session calls
  | abandon session calls => exact abandon_conforms all session calls
  | createAttenuator session index offset => exact createAttenuator_conforms all session index offset
  | copyAttenuator place => exact copyAttenuator_conforms all place
  | setOffset position offset => exact setOffset_conforms all position offset
  | setPath position path => exact setPath_conforms all position path
  | setLevel place value => exact setLevel_conforms all place value
  | getLevel place => exact getLevel_conforms all place
  | getMaximum place => exact getMaximum_conforms all place
  | newGroup name => exact newGroup_conforms all name
  | copyGroup place => exact copyGroup_conforms all place
  | extendGroup place places => exact extendGroup_conforms all place places
  | addFrom place session selection => exact addFrom_conforms all place session selection
  | setGroup place value => exact setGroup_conforms all place value
  | synchronize place => exact synchronize_conforms all place
  | isSynchronized place => exact isSynchronized_conforms all place
  | buildRack config catalog => exact buildRack_conforms all config catalog
  | rackStatus position => exact rackStatus_conforms all position
  | command position order => exact command_conforms all position order
  | takeGroup position name => exact takeGroup_conforms all position name
  | spawn position buffer => exact spawn_conforms all position buffer
  | send position request => exact send_conforms all position request
  | serve position => exact serve_conforms all position
  | addHandle position => exact addHandle_conforms all position
  | dropHandle position => exact dropHandle_conforms all position
  | join position => exact join_conforms all position
  | program config commands => exact program_conforms all config commands

end Operation

/-- A bench and what callers hold. -/
structure Lab where
  /-- The bench. -/
  bench : Bench
  /-- What callers hold. -/
  held : Holdings

namespace Lab

/-- A laboratory in which nothing was done yet. -/
def empty : Lab := ⟨Bench.empty, Holdings.empty⟩

/-- The laboratory after an operation. One that is not done changes nothing of what is held. -/
def perform (lab : Lab) (operation : Operation) : Lab :=
  match (operation.act lab.held).run lab.bench with
  | (.done held, bench) => ⟨bench, held⟩
  | (.failed _, bench) => ⟨bench, lab.held⟩
  | (.crashed, bench) => ⟨bench, lab.held⟩

/-- The laboratory after a history of operations. -/
def after (history : List Operation) : Lab := history.foldl perform empty

/-- An operation changes the bench by deeds that it may do, and leaves every attenuator that is held
calibrated. -/
theorem perform_evolves {lab : Lab} (all : lab.held.All lab.bench.Calibrated)
    (operation : Operation) :
    lab.bench.Evolves (operation.Allows lab.held) (lab.perform operation).bench ∧
      (lab.perform operation).held.All (lab.perform operation).bench.Calibrated := by
  obtain ⟨evolved, left⟩ := operation.act_yields all
  unfold perform
  cases ended : (operation.act lab.held).run lab.bench with
  | mk outcome bench =>
    rw [ended] at evolved left
    have lasting := all.imp fun _ known => evolved.calibrated known
    cases outcome with
    | done held => exact ⟨evolved, left held rfl⟩
    | failed fault => exact ⟨evolved, lasting⟩
    | crashed => exact ⟨evolved, lasting⟩

/-- Whatever was done, every attenuator that is held anywhere is calibrated. -/
theorem after_calibrated (history : List Operation) :
    (after history).held.All (after history).bench.Calibrated := by
  have start : empty.held.All empty.bench.Calibrated := Holdings.All.empty
  refine List.foldlRecOn (motive := fun lab => lab.held.All lab.bench.Calibrated) history perform
    start fun lab all operation _ => ?_
  exact (perform_evolves all operation).2

end Lab

end Attenuation
