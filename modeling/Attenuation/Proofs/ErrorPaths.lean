import Attenuation.Proofs.Poisoning
import Attenuation.Proofs.Route

/-!
# What an operation leaves when it fails

Everything that callers can do with the library and with the program, and every way in which it can
report a fault: the operation itself fails, a request is answered by a fault, or a command of the
program fails. Whichever it is and wherever the operation had come, callers hold what they held, and
of the instruments only those on the route of the operation may have a longer log, with as many
refusals used up. A channel holds another level only if a group was commanded and a member in front
of the position that the fault reports addresses the channel.
-/

namespace Attenuation

/-- An action that fails leaves its route intact up to the position of its fault. -/
abbrev Action.FailsOn {ε α : Type} (position : ε → Nat) (route : Route) (action : Action ε α)
    (bench : Bench) : Prop :=
  action.Ends bench (fun _ _ => True) fun fault => bench.IntactBut route (position fault)

namespace Action.FailsOn

variable {ε ε' α β : Type} {position : ε → Nat} {route : Route} {bench : Bench}

/-- An action that stops on its route fails there. -/
theorem of_stopsOn {action : Action ε α} (stops : action.StopsOn position route bench) :
    action.FailsOn position route bench :=
  Action.Ends.weaken stops (fun _ _ _ => trivial) fun _ _ => id

/-- An action that leaves every channel alone when it fails leaves its route intact. -/
theorem of_called {action : Action ε α} {whenDone : α → Bench → Prop}
    (ends : action.Ends bench whenDone
      fun _ => bench.Intact (· ∈ route.called) fun _ _ => False) :
    action.FailsOn position route bench :=
  Action.Ends.weaken ends (fun _ _ _ => trivial) fun _ _ kept => .of_called kept _

/-- An action that leaves every channel alone leaves its route intact. -/
theorem of_leaves {action : Action ε α}
    (leaves : action.Leaves (Bench.Intact (· ∈ route.called) fun _ _ => False) bench) :
    action.FailsOn position route bench :=
  of_called leaves

/-- A change of the bench does not fail. -/
theorem modifyGet (change : Bench → α × Bench) :
    (Action.modifyGet change : Action ε α).FailsOn position route bench :=
  Action.Ends.of_done (Action.run_modifyGet change bench) trivial

/-- A result leaves the bench alone. -/
theorem ofExcept (result : Except ε α) :
    (Action.ofExcept result).FailsOn position route bench :=
  of_leaves (.ofExcept result)

/-- An action whose fault has another form fails at the same position. -/
theorem mapFault {action : Action ε α} {form : ε → ε'} {position : ε' → Nat}
    (fails : action.FailsOn (fun fault => position (form fault)) route bench) :
    (action.mapFault form).FailsOn position route bench :=
  Action.Ends.mapFault fails

/-- What is done with the value of an action that leaves its route intact and does not fail. -/
theorem bind_pure {action : Action ε α} (fails : action.FailsOn position route bench)
    (form : α → β) : (action >>= fun value => pure (form value)).FailsOn position route bench :=
  Action.Ends.bind fails fun _ _ _ _ => .pure trivial

end Action.FailsOn

variable {bench : Bench}

/-- What is done while a session is held leaves its route intact when it does so by itself. -/
theorem Session.hold_bind_failsOn {α : Type} {id : SessionId}
    {next : Session → Action SessionFault α} {position : SessionFault → Nat} {route : Route}
    (rest : (next (bench.session id)).Ends bench (fun _ _ => True)
      fun _ => bench.Intact (· ∈ route.called) fun _ _ => False) :
    (hold id >>= next).FailsOn position route bench :=
  .of_called (hold_bind_ends rest)

namespace Operation

/-- Where an operation goes. -/
def route (operation : Operation) (held : Holdings) (bench : Bench) : Route :=
  match operation with
  | .setRaw session _ _ => ⟨[(bench.session session).simulator], []⟩
  | .getRaw session _ => ⟨[(bench.session session).simulator], []⟩
  | .batch session _ => ⟨[(bench.session session).simulator], []⟩
  | .setLevel place _ => .behind bench (held.attenuator? place).toList
  | .getLevel place => .behind bench (held.attenuator? place).toList
  | .setGroup place _ => .along (held.group? place)
  | .synchronize place => .along (held.group? place)
  | .isSynchronized place => .behind bench ((held.group? place).elim [] Group.members)
  | .command position order =>
    held.racks[position]?.elim .nowhere fun rack => order.route rack bench
  | .serve position =>
    held.workers[position]?.elim .nowhere fun worker => worker.actor.route bench
  | _ => .nowhere

/-- What goes on with a value that exists fails as the rest does. -/
theorem require_bind_failsOn {α β : Type} {option : Option α} {next : α → Action LabFault β}
    {route : Route} (rest : ∀ value, option = some value →
      (next value).FailsOn LabFault.position route bench) :
    (require option >>= next).FailsOn LabFault.position route bench := by
  cases option with
  | none => exact .of_failed rfl (.refl bench _)
  | some value => exact rest value rfl

/-- An action that is carried out only where what it needs is on the bench fails as it does. -/
theorem whenPresent_failsOn {present : Bench → Prop} [DecidablePred present] {α : Type}
    {action : Action LabFault α} {route : Route}
    (fails : action.FailsOn LabFault.position route bench) :
    (whenPresent present action).FailsOn LabFault.position route bench := by
  have looked : (Action.bench : Action LabFault Bench).Ends bench
      (fun here after => here = bench ∧ after = bench)
      fun fault => bench.IntactBut route fault.position := .of_done rfl ⟨rfl, rfl⟩
  refine looked.bind fun here after _ => ?_
  rintro ⟨same, still⟩
  rw [same, still]
  by_cases there : present bench
  · rw [if_pos there]
    exact fails
  · rw [if_neg there]
    exact .fail (.refl bench _)

/-- An operation that fails leaves its route intact up to the position that its fault reports. -/
def StaysOnRoute (held : Holdings) (bench : Bench) (operation : Operation) : Prop :=
  (operation.act held).FailsOn LabFault.position (operation.route held bench) bench

section StaysOnRoute

variable (held : Holdings)

/-- Making an instrument does not fail. -/
theorem addSimulator_staysOnRoute (config : SimulatorConfig) :
    StaysOnRoute held bench (.addSimulator config) := .bind_pure (.modifyGet _) _

/-- Changing an instrument from outside fails only where it is missing. -/
theorem adjust_staysOnRoute (id : SimulatorId) (adjustment : Simulator.Adjustment) :
    StaysOnRoute held bench (.adjust id adjustment) := whenPresent_failsOn (.modifyGet _)

/-- Opening a session fails only where the instrument is missing. -/
theorem openSession_staysOnRoute (id : SimulatorId) (trap : Trap) :
    StaysOnRoute held bench (.openSession id trap) :=
  whenPresent_failsOn (.bind_pure (.modifyGet _) _)

/-- Asking for the properties of an instrument leaves it alone. -/
theorem info_staysOnRoute (session : SessionId) : StaysOnRoute held bench (.info session) :=
  whenPresent_failsOn (.bind_pure (.mapFault (.of_leaves (Session.info_leaves session))) _)

/-- A raw command that fails changes no channel. -/
theorem setRaw_staysOnRoute (session : SessionId) (index : Nat) (value : Level) :
    StaysOnRoute held bench (.setRaw session index value) := by
  refine whenPresent_failsOn (.bind_pure (.mapFault ?_) _)
  have ends : (Session.setRaw session index value).Ends bench
      (fun _ => bench.Intact (· ∈ [(bench.session session).simulator]) fun _ _ => True)
      fun _ => bench.Intact (· ∈ [(bench.session session).simulator]) fun _ _ => False :=
    Session.setRaw_ends (List.mem_singleton_self _) trivial value
  exact .of_called ends

/-- A raw read changes no channel. -/
theorem getRaw_staysOnRoute (session : SessionId) (index : Nat) :
    StaysOnRoute held bench (.getRaw session index) :=
  whenPresent_failsOn (.bind_pure (.mapFault (.of_leaves
    (Session.getRaw_leaves (List.mem_singleton_self _) index))) _)

/-- Several calls through a session that is held do not fail: the fault of each is an answer. -/
theorem performCalls_ends (id : SessionId) (session : Session) (calls : List Call) :
    (Session.performCalls id session calls).Ends bench (fun _ _ => True) fun _ _ => False :=
  .mapM (fun _ => True) (fun _ _ _ => .attempt ⟨fun _ _ _ => trivial, fun _ _ _ => trivial⟩)
    calls trivial

/-- Several calls fail only where the session cannot be held. -/
theorem batch_staysOnRoute (session : SessionId) (calls : List Call) :
    StaysOnRoute held bench (.batch session calls) := by
  refine whenPresent_failsOn (.bind_pure (.mapFault (Session.hold_bind_failsOn ?_)) _)
  exact (performCalls_ends session _ calls).weaken (fun _ _ => id) fun _ _ never => never.elim

/-- A crash behind several calls fails only where the session cannot be held. -/
theorem abandon_staysOnRoute (session : SessionId) (calls : List Call) :
    StaysOnRoute held bench (.abandon session calls) := by
  refine whenPresent_failsOn (.bind_pure (.mapFault (Session.hold_bind_failsOn ?_)) _)
  have performed : (Session.performCalls session (bench.session session) calls).Ends bench
      (fun _ _ => True) fun _ => bench.Intact (· ∈ Route.nowhere.called) fun _ _ => False :=
    (performCalls_ends session _ calls).weaken (fun _ _ => id) fun _ _ never => never.elim
  exact performed.bind fun _ between _ _ => .of_crashed (Session.run_crash session between)

/-- Creating an attenuator leaves every channel alone. -/
theorem createAttenuator_staysOnRoute (session : SessionId) (index : Nat) (offset : Level) :
    StaysOnRoute held bench (.createAttenuator session index offset) :=
  whenPresent_failsOn (.bind_pure (.mapFault (.of_leaves
    (Attenuator.create_leaves session index offset))) _)

/-- Changing the offset of an attenuator leaves the bench alone. -/
theorem setOffset_staysOnRoute (position : Nat) (offset : Level) :
    StaysOnRoute held bench (.setOffset position offset) :=
  require_bind_failsOn fun _ _ => .bind_pure (.mapFault (.ofExcept _)) _

/-- Commanding an attenuator goes to its channel. -/
theorem setLevel_staysOnRoute (place : AttenuatorPlace) (value : Level) :
    StaysOnRoute held bench (.setLevel place value) := by
  refine require_bind_failsOn fun attenuator found => .bind_pure (.mapFault ?_) _
  rw [show (Operation.setLevel place value).route held bench = .behind bench [attenuator] by
    simp [route, found]]
  exact .of_stopsOn (attenuator.set_stopsOn value)

/-- Reading an attenuator goes to its channel. -/
theorem getLevel_staysOnRoute (place : AttenuatorPlace) :
    StaysOnRoute held bench (.getLevel place) := by
  refine require_bind_failsOn fun attenuator found => .bind_pure (.mapFault ?_) _
  rw [show (Operation.getLevel place).route held bench = .behind bench [attenuator] by
    simp [route, found]]
  exact .of_stopsOn attenuator.get_stopsOn

/-- Asking for the maximum of an attenuator leaves every channel alone. -/
theorem getMaximum_staysOnRoute (place : AttenuatorPlace) :
    StaysOnRoute held bench (.getMaximum place) :=
  require_bind_failsOn fun attenuator _ =>
    .bind_pure (.mapFault (.of_leaves attenuator.maximum_leaves)) _

/-- Appending copies of attenuators to a group leaves every channel alone. -/
theorem extendGroup_staysOnRoute (place : GroupPlace) (places : List AttenuatorPlace) :
    StaysOnRoute held bench (.extendGroup place places) := by
  refine require_bind_failsOn fun group _ => require_bind_failsOn fun attenuators _ => ?_
  exact .bind_pure (.of_done (group.run_extend attenuators bench) trivial) _

/-- Appending channels of an instrument to a group leaves every channel alone. -/
theorem addFrom_staysOnRoute (place : GroupPlace) (session : SessionId) (selection : Selection) :
    StaysOnRoute held bench (.addFrom place session selection) :=
  whenPresent_failsOn (require_bind_failsOn fun group _ => .bind_pure (.mapFault
    (.of_leaves (group.addFrom_leaves session selection))) _)

/-- Commanding a group goes along its members. -/
theorem setGroup_staysOnRoute (place : GroupPlace) (value : Level) :
    StaysOnRoute held bench (.setGroup place value) := by
  refine require_bind_failsOn fun group found => .bind_pure (.mapFault ?_) _
  rw [show (Operation.setGroup place value).route held bench = .along (some group) from
    congrArg Route.along found]
  exact .of_stopsOn (group.set_stopsOn value)

/-- Commanding a group to its remembered level goes along its members. -/
theorem synchronize_staysOnRoute (place : GroupPlace) :
    StaysOnRoute held bench (.synchronize place) := by
  refine require_bind_failsOn fun group found => .bind_pure (.mapFault ?_) _
  rw [show (Operation.synchronize place).route held bench = .along (some group) from
    congrArg Route.along found]
  exact .of_stopsOn (group.set_stopsOn group.lastCommanded)

/-- Reading a group goes to the channels of its members. -/
theorem isSynchronized_staysOnRoute (place : GroupPlace) :
    StaysOnRoute held bench (.isSynchronized place) := by
  refine require_bind_failsOn fun group found => .bind_pure (.mapFault ?_) _
  rw [show (Operation.isSynchronized place).route held bench = .behind bench group.members by
    simp [route, found]]
  exact .of_stopsOn group.isSynchronized_stopsOn

/-- Building a rack leaves every channel alone. -/
theorem buildRack_staysOnRoute (config : RackConfig) (catalog : Catalog) :
    StaysOnRoute held bench (.buildRack config catalog) :=
  .bind_pure (.mapFault (.of_leaves (Rack.build_leaves config catalog))) _

/-- A snapshot of a rack leaves every channel alone. -/
theorem rackStatus_staysOnRoute (position : Nat) :
    StaysOnRoute held bench (.rackStatus position) :=
  require_bind_failsOn fun rack _ => .bind_pure (.mapFault (.of_leaves rack.status_leaves)) _

/-- A command on a rack goes where the command goes. -/
theorem command_staysOnRoute (position : Nat) (order : Command) :
    StaysOnRoute held bench (.command position order) := by
  refine require_bind_failsOn fun rack found => .bind_pure (.mapFault ?_)
    fun answer : String × Rack => { held with racks := held.racks.set position answer.2 }
  rw [show (Operation.command position order).route held bench = order.route rack bench by
    simp [route, found]]
  exact .of_stopsOn (order.run_stopsOn rack)

/-- Handing a group to an actor leaves the instruments alone. -/
theorem spawn_staysOnRoute (position buffer : Nat) :
    StaysOnRoute held bench (.spawn position buffer) :=
  require_bind_failsOn fun _ _ =>
    .bind_pure (.bind_pure (.of_done (Action.run_emit _ bench) trivial) _) _

/-- A step of an actor does not fail: it answers a request by the fault. -/
theorem serve_staysOnRoute (position : Nat) : StaysOnRoute held bench (.serve position) := by
  refine require_bind_failsOn fun worker _ => .bind_pure ?_ _
  have served : (worker.actor.serve : Action LabFault Actor).Ends bench _ _ :=
    worker.actor.serve_ends
  exact served.weaken (fun _ _ _ => trivial) fun _ _ never => never.elim

/-- Taking the group of an actor leaves the bench alone. -/
theorem join_staysOnRoute (position : Nat) : StaysOnRoute held bench (.join position) := by
  refine require_bind_failsOn fun worker _ => ?_
  cases worker.joined with
  | true => exact .fail (.refl bench _)
  | false =>
    cases worker.actor.phase with
    | serving group => exact .fail (.refl bench _)
    | crashed => exact .fail (.refl bench _)
    | stopped group => exact .pure trivial

/-- Running the program changes no channel when it fails. -/
theorem program_staysOnRoute (config : RackConfig) (commands : List Command) :
    StaysOnRoute held bench (.program config commands) :=
  .bind_pure (.mapFault (.of_called (CommandLine.operate_ends config commands))) _

/-- Every operation stays on its route. What changes only what callers hold does so by itself. -/
theorem act_failsOn (operation : Operation) : StaysOnRoute held bench operation := by
  cases operation with
  | addSimulator config => exact addSimulator_staysOnRoute held config
  | adjust id adjustment => exact adjust_staysOnRoute held id adjustment
  | openSession id trap => exact openSession_staysOnRoute held id trap
  | info session => exact info_staysOnRoute held session
  | setRaw session index value => exact setRaw_staysOnRoute held session index value
  | getRaw session index => exact getRaw_staysOnRoute held session index
  | batch session calls => exact batch_staysOnRoute held session calls
  | abandon session calls => exact abandon_staysOnRoute held session calls
  | createAttenuator session index offset =>
    exact createAttenuator_staysOnRoute held session index offset
  | copyAttenuator place => exact require_bind_failsOn fun _ _ => .pure trivial
  | setOffset position offset => exact setOffset_staysOnRoute held position offset
  | setPath position path => exact require_bind_failsOn fun _ _ => .pure trivial
  | setLevel place value => exact setLevel_staysOnRoute held place value
  | getLevel place => exact getLevel_staysOnRoute held place
  | getMaximum place => exact getMaximum_staysOnRoute held place
  | newGroup name => exact .pure trivial
  | copyGroup place => exact require_bind_failsOn fun _ _ => .pure trivial
  | extendGroup place places => exact extendGroup_staysOnRoute held place places
  | addFrom place session selection => exact addFrom_staysOnRoute held place session selection
  | setGroup place value => exact setGroup_staysOnRoute held place value
  | synchronize place => exact synchronize_staysOnRoute held place
  | isSynchronized place => exact isSynchronized_staysOnRoute held place
  | buildRack config catalog => exact buildRack_staysOnRoute held config catalog
  | rackStatus position => exact rackStatus_staysOnRoute held position
  | command position order => exact command_staysOnRoute held position order
  | takeGroup position name =>
    exact require_bind_failsOn fun _ _ => require_bind_failsOn fun _ _ => .pure trivial
  | spawn position buffer => exact spawn_staysOnRoute held position buffer
  | send position request => exact require_bind_failsOn fun _ _ => .pure trivial
  | serve position => exact serve_staysOnRoute held position
  | addHandle position => exact require_bind_failsOn fun _ _ => .pure trivial
  | dropHandle position => exact require_bind_failsOn fun _ _ => .pure trivial
  | join position => exact join_staysOnRoute held position
  | program config commands => exact program_staysOnRoute held config commands

end StaysOnRoute

end Operation

/-- A laboratory with the driver catalogs that callers hold. -/
structure Workspace extends Lab where
  /-- The driver catalogs. -/
  catalogs : List Catalog

/-- Everything that callers can do with the library and with the parts of the program. -/
inductive Errand where
  /-- Carry out an operation. -/
  | operate (operation : Operation)
  /-- Call the driver of a session while the session is held. -/
  | call (session : SessionId) (request : Call)
  /-- Call an instrument past every session. -/
  | drive (id : SimulatorId) (request : Call)
  /-- Make a catalog without entries. -/
  | newCatalog
  /-- Make the catalog of the simulated models. -/
  | simulatedCatalog
  /-- Register a driver in a catalog. -/
  | register (catalog : Nat) (model : String) (transport : Transport) (factory : DriverFactory)
  /-- Connect the driver that a catalog has for a descriptor. -/
  | connect (catalog : Nat) (config : InstrumentConfig)
  /-- Build a rack with a catalog. -/
  | build (catalog : Nat) (config : RackConfig)
  /-- Look for a group of a rack. -/
  | findGroup (rack : Nat) (name : String)
  /-- Check a description. -/
  | validate (config : RackConfig)
  /-- Load a description from the contents of a file. -/
  | load (contents : Except FileFault ByteArray)
  /-- Read the arguments of the program. -/
  | read (arguments : List String)

namespace Errand

open Operation (require whenPresent)

/-- Call an instrument past every session. -/
def driven (id : SimulatorId) : Call → Action SessionFault (Option Level)
  | .set index value => do
    Session.exchange id fun simulator => simulator.set index value
    return none
  | .get index => do return some (← Session.exchange id fun simulator => simulator.get index)

/-- Carry out an errand. What callers hold afterwards is given back. -/
def act (workspace : Workspace) : Errand → Action LabFault (Holdings × List Catalog)
  | .operate operation => do
    let held ← operation.act workspace.held
    return (held, workspace.catalogs)
  | .call session request => whenPresent (fun bench => bench.IsOpen session) do
    let _ ← (Session.hold session >>= fun held =>
      Session.performCall session held request).mapFault .session
    return (workspace.held, workspace.catalogs)
  | .drive id request => whenPresent (fun bench => id < bench.nextSimulator) do
    let _ ← (driven id request).mapFault .session
    return (workspace.held, workspace.catalogs)
  | .newCatalog => return (workspace.held, workspace.catalogs ++ [Catalog.empty])
  | .simulatedCatalog => do
    let catalog ← Catalog.simulated
    return (workspace.held, workspace.catalogs ++ [catalog])
  | .register position model transport factory => do
    let catalog ← require workspace.catalogs[position]?
    let changed ← catalog.register model transport factory
    return (workspace.held, workspace.catalogs.set position changed)
  | .connect position config => do
    let catalog ← require workspace.catalogs[position]?
    let _ ← (catalog.connect config).mapFault .rack
    return (workspace.held, workspace.catalogs)
  | .build position config => do
    let catalog ← require workspace.catalogs[position]?
    let rack ← (Rack.build config catalog).mapFault .rack
    return ({ workspace.held with racks := workspace.held.racks ++ [rack] }, workspace.catalogs)
  | .findGroup position name => do
    let rack ← require workspace.held.racks[position]?
    let _ ← (Action.ofExcept (rack.requireGroup name)).mapFault .rack
    return (workspace.held, workspace.catalogs)
  | .validate config => do
    (Action.ofExcept config.validate).mapFault fun source => .rack (.config source)
    return (workspace.held, workspace.catalogs)
  | .load contents => do
    let _ ← (Action.ofExcept (CommandLine.load contents)).mapFault .rack
    return (workspace.held, workspace.catalogs)
  | .read arguments => do
    let _ ← (Action.ofExcept (CommandLine.plan arguments)).mapFault .program
    return (workspace.held, workspace.catalogs)

/-- Where an errand goes. -/
def route (errand : Errand) (workspace : Workspace) : Route :=
  match errand with
  | .operate operation => operation.route workspace.held workspace.bench
  | .call session _ => ⟨[(workspace.bench.session session).simulator], []⟩
  | .drive id _ => ⟨[id], []⟩
  | _ => .nowhere

/-- A call of an instrument past every session leaves every channel alone when it fails. -/
theorem driven_ends (id : SimulatorId) (request : Call) :
    (driven id request).Ends bench (fun _ _ => True)
      fun _ => bench.Intact (· ∈ [id]) fun _ _ => False := by
  cases request with
  | set index value =>
    have ends : (Session.exchange id fun simulator => simulator.set index value).Ends bench
        (fun _ => bench.Intact (· ∈ [id]) fun _ _ => True)
        fun _ => bench.Intact (· ∈ [id]) fun _ _ => False :=
      Session.exchange_ends (List.mem_singleton_self id) (.set _ trivial value)
        fun _ => .set_refused
    exact ends.bind fun _ _ _ _ => .pure trivial
  | get index =>
    have ends : (Session.exchange id fun simulator => simulator.get index).Ends bench
        (fun _ => bench.Intact (· ∈ [id]) fun _ _ => True)
        fun _ => bench.Intact (· ∈ [id]) fun _ _ => False :=
      Session.exchange_ends (List.mem_singleton_self id) (.get _ index) fun _ _ => .get _ index
    exact ends.bind fun _ _ _ _ => .pure trivial

/-- A call while a session is held leaves every channel alone when it fails. -/
theorem performCall_ends {id : SessionId} {session : Session} (request : Call) :
    (Session.performCall id session request).Ends bench (fun _ _ => True)
      fun _ => bench.Intact (· ∈ [session.simulator]) fun _ _ => False := by
  cases request with
  | set index value =>
    have ends : (Session.command id session index value).Ends bench
        (fun _ => bench.Intact (· ∈ [session.simulator]) fun _ _ => True)
        fun _ => bench.Intact (· ∈ [session.simulator]) fun _ _ => False :=
      Session.command_ends (List.mem_singleton_self _) trivial value
    exact ends.bind fun _ _ _ _ => .pure trivial
  | get index =>
    have ends : (Session.read id session index).Leaves
        (Bench.Intact (· ∈ [session.simulator]) fun _ _ => False) bench :=
      Session.read_leaves (List.mem_singleton_self _) index
    exact Action.Ends.bind ends fun _ _ _ _ => .pure trivial

/-- An errand that fails leaves its route intact up to the position that its fault reports. -/
theorem act_failsOn (workspace : Workspace) (errand : Errand) :
    (errand.act workspace).FailsOn LabFault.position (errand.route workspace)
      workspace.bench := by
  cases errand with
  | operate operation => exact .bind_pure (operation.act_failsOn workspace.held) _
  | call session request =>
    exact Operation.whenPresent_failsOn (.bind_pure (.mapFault
      (Session.hold_bind_failsOn (performCall_ends request))) _)
  | drive id request =>
    exact Operation.whenPresent_failsOn (.bind_pure (.mapFault
      (.of_called (driven_ends id request))) _)
  | newCatalog => exact .pure trivial
  | simulatedCatalog => exact .bind_pure (.of_leaves CommandLine.simulated_leaves) _
  | register position model transport factory =>
    exact Operation.require_bind_failsOn fun catalog _ =>
      .bind_pure (.bind_pure (.of_done (Action.run_emit _ workspace.bench) trivial) _) _
  | connect position config =>
    exact Operation.require_bind_failsOn fun catalog _ => .bind_pure (.mapFault
      (.of_leaves (Rack.connect_leaves catalog config))) _
  | build position config =>
    exact Operation.require_bind_failsOn fun catalog _ => .bind_pure (.mapFault
      (.of_leaves (Rack.build_leaves config catalog))) _
  | findGroup position name =>
    exact Operation.require_bind_failsOn fun rack _ => .bind_pure (.mapFault (.ofExcept _)) _
  | validate config => exact .bind_pure (.mapFault (.ofExcept _)) _
  | load contents => exact .bind_pure (.mapFault (.ofExcept _)) _
  | read arguments => exact .bind_pure (.mapFault (.ofExcept _)) _

end Errand

namespace Workspace

/-- The workspace after an errand. One that is not done changes nothing of what is held. -/
def perform (workspace : Workspace) (errand : Errand) : Workspace :=
  match (errand.act workspace).run workspace.bench with
  | (.done (held, catalogs), bench) => ⟨⟨bench, held⟩, catalogs⟩
  | (.failed _, bench) => ⟨⟨bench, workspace.held⟩, workspace.catalogs⟩
  | (.crashed, bench) => ⟨⟨bench, workspace.held⟩, workspace.catalogs⟩

/-- A caller is told of a fault in an errand, and no driver crashes: the errand itself fails, a
request is answered by a fault when it is sent or when an actor takes a step, or a command of the
program fails. -/
inductive Errs (workspace : Workspace) : Errand → LabFault → Prop where
  /-- The errand fails. -/
  | failed {errand : Errand} {fault : LabFault}
      (failed : ((errand.act workspace).run workspace.bench).1 = .failed fault) :
      Errs workspace errand fault
  /-- A request is answered by a fault when it is sent. -/
  | sent {position ticket : Nat} {worker : Worker} {request : Request} {fault : RackFault}
      (found : workspace.held.workers[position]? = some worker)
      (answered : (ticket, .error fault) ∈
        worker.actor.newAnswers (worker.actor.send request).2) :
      Errs workspace (.operate (.send position request)) (.rack fault)
  /-- A request is answered by a fault in a step of its actor, which does not crash. -/
  | served {position ticket : Nat} {worker : Worker} {next : Actor} {fault : RackFault}
      (found : workspace.held.workers[position]? = some worker)
      (ran : ((worker.actor.serve : Action LabFault Actor).run workspace.bench).1 = .done next)
      (alive : next.phase ≠ .crashed)
      (answered : (ticket, .error fault) ∈ worker.actor.newAnswers next) :
      Errs workspace (.operate (.serve position)) (.rack fault)
  /-- A command of the program fails. -/
  | ended {config : RackConfig} {commands : List Command} {transcript : Command.Transcript}
      {fault : CommandFault}
      (ran : ((CommandLine.operate config commands).run workspace.bench).1 = .done transcript)
      (failed : transcript.ending = .failed fault) :
      Errs workspace (.operate (.program config commands)) (.command fault)

end Workspace

/-- An actor is intact, and its group was not given back in the meantime. -/
structure Worker.Intact (before after : Worker) : Prop where
  /-- The actor has its group. -/
  actor : before.actor.Intact after.actor
  /-- The group was given back as often. -/
  joined : after.joined = before.joined

/-- An actor that does nothing is intact. -/
theorem Worker.Intact.refl (worker : Worker) : worker.Intact worker := ⟨.refl worker.actor, rfl⟩

/-- Actors of which one is replaced by what it left intact are intact. -/
theorem Worker.intact_set {workers : List Worker} {position : Nat} {worker next : Worker}
    (found : workers[position]? = some worker) (intact : worker.Intact next) :
    List.Forall₂ Worker.Intact workers (workers.set position next) := by
  induction workers generalizing position with
  | nil => simp at found
  | cons first rest ih =>
    cases position with
    | zero =>
      obtain rfl : first = worker := by simpa using found
      exact .cons intact (List.forall₂_same.mpr fun other _ => .refl other)
    | succ position => exact .cons (.refl first) (ih (by simpa using found))

/-- A workspace is left intact by an errand that stopped at a position of its route: callers hold
what they held, and so is the bench. -/
structure Workspace.IntactBut (route : Route) (position : Nat) (before after : Workspace) :
    Prop where
  /-- The bench is intact but for the route up to the position. -/
  bench : before.bench.IntactBut route position after.bench
  /-- The attenuators are the same, with their offsets and paths. -/
  attenuators : after.held.attenuators = before.held.attenuators
  /-- The groups are the same, with their members and the levels that they remember. -/
  groups : after.held.groups = before.held.groups
  /-- The racks are the same. -/
  racks : after.held.racks = before.held.racks
  /-- The actors have their groups. -/
  workers : List.Forall₂ Worker.Intact before.held.workers after.held.workers
  /-- The driver catalogs are the same. -/
  catalogs : after.catalogs = before.catalogs

/-- Where no member in front of the position is commanded, every channel holds what it held. -/
theorem Bench.IntactBut.values {route : Route} {position : Nat} {after : Bench}
    (intact : bench.IntactBut route position after)
    (untouched : route.commanded.take position = []) {id : SimulatorId}
    (inside : id < bench.nextSimulator) :
    (after.simulator id).values = (bench.simulator id).values := by
  refine List.ext_getElem? fun index => (intact.kept id inside).values index ?_
  rw [untouched]
  rintro ⟨attenuator, member, -⟩
  exact absurd member List.not_mem_nil

namespace Workspace

variable {workspace : Workspace} {route : Route} {position : Nat} {after : Bench}

/-- Where only the bench changed, the workspace is as intact as the bench. -/
theorem IntactBut.of_bench (kept : workspace.bench.IntactBut route position after) :
    workspace.IntactBut route position ⟨⟨after, workspace.held⟩, workspace.catalogs⟩ :=
  ⟨kept, rfl, rfl, rfl, List.forall₂_same.mpr fun worker _ => .refl worker, rfl⟩

/-- Where only the bench and one actor changed, the workspace is as intact as they are. -/
theorem IntactBut.of_worker (kept : workspace.bench.IntactBut route position after)
    {place : Nat} {worker : Worker} {next : Actor}
    (found : workspace.held.workers[place]? = some worker) (intact : worker.actor.Intact next) :
    workspace.IntactBut route position
      ⟨⟨after, { workspace.held with
        workers := workspace.held.workers.set place { worker with actor := next } }⟩,
        workspace.catalogs⟩ :=
  ⟨kept, rfl, rfl, rfl, Worker.intact_set found ⟨intact, rfl⟩, rfl⟩

/-- The workspace after an operation that is done. -/
theorem perform_operate {operation : Operation} {held : Holdings}
    (ran : (operation.act workspace.held).run workspace.bench = (.done held, after)) :
    workspace.perform (.operate operation) = ⟨⟨after, held⟩, workspace.catalogs⟩ := by
  have whole : ((Errand.operate operation).act workspace).run workspace.bench =
      (.done (held, workspace.catalogs), after) := Action.run_bind_done _ ran
  unfold perform
  rw [whole]

/-- The workspace after a run of the program that carried out commands. -/
theorem perform_program {config : RackConfig} {commands : List Command}
    {transcript : Command.Transcript}
    (ran : (CommandLine.operate config commands).run workspace.bench = (.done transcript, after)) :
    workspace.perform (.operate (.program config commands)) =
      ⟨⟨after, workspace.held⟩, workspace.catalogs⟩ := by
  have renamed : ((CommandLine.operate config commands).mapFault LabFault.program).run
      workspace.bench = (.done transcript, after) := by
    rw [Action.run_mapFault_outcome, ran]
    rfl
  exact perform_operate (Action.run_bind_done _ renamed)

/-- A run of the program that ends early does not do so with the fault of a command. -/
theorem program_failed {config : RackConfig} {commands : List Command} {fault : LabFault}
    (failed : (((Errand.operate (.program config commands)).act workspace).run
      workspace.bench).1 = .failed fault) : ∃ source, fault = .program source := by
  have operated : ((CommandLine.operate config commands).mapFault LabFault.program).Ends
      workspace.bench (fun _ _ => True) fun fault _ => ∃ source, fault = .program source :=
    .mapFault ⟨fun _ _ _ => trivial, fun source _ _ => ⟨source, rfl⟩⟩
  have acted : ((Operation.program config commands).act workspace.held).Ends workspace.bench
      (fun _ _ => True) fun fault _ => ∃ source, fault = .program source :=
    Action.Ends.bind operated fun _ _ _ _ => .pure trivial
  have ends : ((Errand.operate (.program config commands)).act workspace).Ends workspace.bench
      (fun _ _ => True) fun fault _ => ∃ source, fault = .program source :=
    Action.Ends.bind acted fun _ _ _ _ => .pure trivial
  exact ends.failed fault _ (Prod.ext failed rfl)

/-- What is found is given, and nothing is done. -/
theorem run_require {α : Type} {option : Option α} {value : α} (found : option = some value)
    (bench : Bench) : (Operation.require option).run bench = (.done value, bench) := by
  rw [found]
  rfl

/-- Whatever fault a caller is told of, the workspace is intact but for the route of the errand up
to the position that the fault reports. -/
theorem Errs.intactBut {errand : Errand} {fault : LabFault} (errs : workspace.Errs errand fault) :
    workspace.IntactBut (errand.route workspace) fault.position (workspace.perform errand) := by
  cases errs with
  | failed failed =>
    have ran : (errand.act workspace).run workspace.bench =
        (.failed fault, ((errand.act workspace).run workspace.bench).2) := Prod.ext failed rfl
    have kept := (errand.act_failsOn workspace).failed fault _ ran
    unfold perform
    rw [ran]
    exact .of_bench kept
  | @sent place ticket worker request source found answered =>
    have ran : ((Operation.send place request).act workspace.held).run workspace.bench = _ :=
      Action.run_bind_done _ (run_require found workspace.bench)
    rw [perform_operate ran]
    exact .of_worker (.refl workspace.bench _) found (worker.actor.intact_send request)
  | @served place ticket worker next source found ran alive answered =>
    have served : (worker.actor.serve : Action LabFault Actor).run workspace.bench =
        (.done next, ((worker.actor.serve : Action LabFault Actor).run workspace.bench).2) :=
      Prod.ext ran rfl
    obtain ⟨intact, kept⟩ :=
      worker.actor.serve_ends.done next _ served alive ticket source answered
    have whole : ((Operation.serve place).act workspace.held).run workspace.bench = _ :=
      (Action.run_bind_done _ (run_require found workspace.bench)).trans
        (Action.run_bind_done _ served)
    rw [perform_operate whole]
    have way : (Errand.operate (.serve place)).route workspace =
        worker.actor.route workspace.bench := by
      simp [Errand.route, Operation.route, found]
    rw [way]
    exact .of_worker kept found intact
  | @ended config commands transcript source ran failed =>
    have operated : (CommandLine.operate config commands).run workspace.bench =
        (.done transcript, ((CommandLine.operate config commands).run workspace.bench).2) :=
      Prod.ext ran rfl
    have ends : (CommandLine.operate config commands).Ends workspace.bench _ fun _ =>
        workspace.bench.Intact (· ∈ Route.nowhere.called) fun _ _ => False :=
      CommandLine.operate_ends config commands
    have kept := ends.done transcript _ operated (by simp [failed])
    rw [perform_program operated]
    exact .of_bench (.of_called kept _)

/-- **A fault leaves everything intact but what the operation came by.** Whatever a caller does, in
whatever state, and whichever fault is reported without a crash: callers hold the attenuators,
groups, racks and catalogs that they held, and actors have their groups. An instrument that is not
on the route of the errand up to the position of the fault is what it was, and one that is has the
maximum, the step, the failing channels and the stored levels that it had, but for the levels of
channels that members of a commanded group in front of the position address; only calls were added
to its log, and each used up a refusal of its sort. Where no member was commanded in front of the
position, as in everything but a command to a group that is not empty, no stored level changed. When
a command of the program fails, the commands in front of it were carried out, and the same holds of
it from there. -/
theorem errs_leaves_intact (workspace : Workspace) {errand : Errand} {fault : LabFault}
    (errs : workspace.Errs errand fault) :
    workspace.IntactBut (errand.route workspace) fault.position (workspace.perform errand) ∧
    ((errand.route workspace).commanded.take fault.position = [] →
      ∀ id < workspace.bench.nextSimulator,
        ((workspace.perform errand).bench.simulator id).values =
          (workspace.bench.simulator id).values) ∧
    ∀ config commands source, errand = .operate (.program config commands) →
      fault = .command source →
      ∃ front command rest transcript between, commands = front ++ command :: rest ∧
        (CommandLine.operate config front).run workspace.bench = (.done transcript, between) ∧
        transcript.ending = .completed ∧
        between.IntactBut (command.route transcript.rack between) source.position
          (workspace.perform errand).bench := by
  refine ⟨errs.intactBut, fun untouched id inside => errs.intactBut.bench.values untouched inside,
    fun config commands source errand fault => ?_⟩
  subst errand fault
  cases errs with
  | failed failed =>
    obtain ⟨source, same⟩ := program_failed failed
    cases same
  | @ended _ _ transcript _ ran failed =>
    have operated : (CommandLine.operate config commands).run workspace.bench =
        (.done transcript, ((CommandLine.operate config commands).run workspace.bench).2) :=
      Prod.ext ran rfl
    obtain ⟨front, command, rest, between, split, carried, kept⟩ :=
      CommandLine.operate_failed operated failed
    rw [perform_program operated]
    exact ⟨front, command, rest, _, between, split, carried, rfl, kept⟩

/-- A workspace with a group of two channels of an instrument, the second of which does not
respond. -/
def halting : Workspace where
  toLab := .after [.addSimulator .standard, .openSession 0 Trap.none, .createAttenuator 0 0 0.0,
    .createAttenuator 0 1 0.0, .newGroup "pair", .extendGroup (.own 0) [.own 0, .own 1],
    .adjust 0 (.silence 1)]
  catalogs := []

/-- The command to the group stops at its second member, and the channel of that member holds what
it held. -/
theorem errs_leaves_intact_halting :
    ∃ fault, halting.Errs (.operate (.setGroup (.own 0) 10.0)) fault ∧ fault.position = 1 ∧
      (halting.perform (.operate (.setGroup (.own 0) 10.0))).held.groups = halting.held.groups ∧
      ((halting.perform (.operate (.setGroup (.own 0) 10.0))).bench.simulator 0).values[1]? =
        (halting.bench.simulator 0).values[1]? := by
  let errand : Errand := .operate (.setGroup (.own 0) 10.0)
  have stopped : ((errand.act halting).run halting.bench).1.fault?.map LabFault.position =
      some 1 := by decide +kernel
  obtain ⟨fault, found, position⟩ := Option.map_eq_some_iff.mp stopped
  have errs : halting.Errs errand fault := .failed (Outcome.eq_failed found)
  obtain ⟨intact, -⟩ := errs_leaves_intact halting errs
  have present : 0 < halting.bench.nextSimulator := by decide +kernel
  refine ⟨fault, errs, position, intact.groups, (intact.bench.kept 0 present).values 1 ?_⟩
  rw [position]
  have first : ((errand.route halting).commanded.take 1).map (·.index) = [0] := by
    decide +kernel
  rintro ⟨attenuator, member, -, channel⟩
  have inside : attenuator.index ∈ ((errand.route halting).commanded.take 1).map (·.index) :=
    List.mem_map_of_mem member
  rw [first, channel] at inside
  exact absurd inside (by decide)

end Workspace

end Attenuation
