import Attenuation.Proofs.ActorEnd
import Attenuation.Proofs.CommandMemory
import Attenuation.Proofs.Intact

/-!
# Where an operation goes

`Route` names the instruments that an operation calls and the members of the group that it
commands, in order; the fault names the position at which a group stopped. What an operation leaves
when it fails is then one statement, `Bench.IntactBut`: only the instruments on the route up to that
position have longer logs, and only the channels of the members in front of it may hold other
levels. It holds of attenuators, groups and commands, of the requests that an actor carries out, and
of a run of the program, which leaves everything alone that was on the bench before it.
-/

namespace Attenuation

/-- The position of the member at which a group stopped. Any other fault is in front of every
member. -/
def Fault.position : Fault → Nat
  | .groupStopped _ member _ _ => member
  | _ => 0

/-- The position of the member at which a group stopped. -/
def RackFault.position : RackFault → Nat
  | .operation source => source.position
  | _ => 0

/-- The position of the member at which a group stopped. -/
def CommandFault.position : CommandFault → Nat
  | .operation source => source.position
  | _ => 0

/-- The position of the member at which a group stopped. -/
def LabFault.position : LabFault → Nat
  | .stopped source => source.member
  | .rack source => source.position
  | .command source => source.position
  | _ => 0

/-- Where an operation goes: the instruments that it calls on its own or reads, and the members of
the group that it commands, in order. -/
structure Route where
  /-- The instruments that are called on their own or read. -/
  called : List SimulatorId
  /-- The members that are commanded. -/
  commanded : List Attenuator

namespace Route

/-- The route of an operation that calls no instrument. -/
def nowhere : Route := ⟨[], []⟩

/-- The route to the instruments behind attenuators. -/
def behind (bench : Bench) (attenuators : List Attenuator) : Route :=
  ⟨attenuators.map fun attenuator => attenuator.simulatorId bench, []⟩

/-- The route of a command to a group. -/
def along (group? : Option Group) : Route := ⟨[], group?.elim [] Group.members⟩

/-- An instrument is on a route. -/
def Visits (route : Route) (bench : Bench) (id : SimulatorId) : Prop :=
  id ∈ route.called ∨ bench.Behind route.commanded id

end Route

/-- What was on a bench is left intact by an operation that stopped at a position of its route: an
instrument may have been called if it is on the route up to that position, and a channel may hold
another level if a member in front of the position addresses it. -/
def Bench.IntactBut (route : Route) (position : Nat) (before after : Bench) : Prop :=
  before.Intact
    (fun id => id ∈ route.called ∨ before.Behind (route.commanded.take (position + 1)) id)
    (before.Addresses (route.commanded.take position)) after

namespace Bench.IntactBut

variable {route : Route} {bench after : Bench}

/-- A bench on which nothing is done is intact. -/
theorem refl (bench : Bench) (position : Nat) : bench.IntactBut route position bench :=
  Bench.Intact.refl bench

/-- Where every channel is left alone, the position does not matter. -/
theorem of_called (intact : bench.Intact (· ∈ route.called) (fun _ _ => False) after)
    (position : Nat) : bench.IntactBut route position after :=
  intact.mono (fun _ => .inl) fun _ _ changed => changed.elim

/-- A group command stops on its route. -/
theorem of_group {group : Group} {position : Nat}
    (intact : bench.Intact (bench.Behind (group.members.take (position + 1)))
      (bench.Addresses (group.members.take position)) after) :
    bench.IntactBut (.along (some group)) position after :=
  intact.mono (fun _ => .inr) fun _ _ => id

end Bench.IntactBut

/-- An action leaves its route intact up to the position of its fault. -/
abbrev Action.StopsOn {ε α : Type} (position : ε → Nat) (route : Route) (action : Action ε α)
    (bench : Bench) : Prop :=
  action.Ends bench (fun _ => bench.Intact (route.Visits bench) fun _ _ => True)
    fun fault => bench.IntactBut route (position fault)

namespace Action.StopsOn

variable {ε ε' α β : Type} {position : ε → Nat} {route : Route} {bench : Bench}

/-- An action that leaves every channel alone leaves its route intact. -/
theorem of_leaves {action : Action ε α}
    (leaves : action.Leaves (Bench.Intact (· ∈ route.called) fun _ _ => False) bench) :
    action.StopsOn position route bench :=
  Action.Ends.weaken leaves
    (fun _ _ kept => kept.mono (fun _ => .inl) fun _ _ changed => changed.elim)
    fun _ _ kept => .of_called kept _

/-- An action whose fault has another form stops at the same position. -/
theorem mapFault {action : Action ε α} {form : ε → ε'} {position : ε' → Nat}
    (stops : action.StopsOn (fun fault => position (form fault)) route bench) :
    (action.mapFault form).StopsOn position route bench :=
  Action.Ends.mapFault stops

/-- An attempt gives the fault by which the action stops. -/
theorem attempt {action : Action ε α} (stops : action.StopsOn position route bench) :
    (action.attempt : Action ε' (Except ε α)).Ends bench
      (fun result after => ∀ fault, result = .error fault →
        bench.IntactBut route (position fault) after)
      fun _ _ => False := by
  refine .attempt (stops.weaken (fun _ _ _ _ same => ?_) fun fault after kept other same => ?_)
  · cases same
  · cases same
    exact kept

/-- A value that is made of the one of an action changes nothing of where the action stops. -/
theorem map {action : Action ε α} (stops : action.StopsOn position route bench) (form : α → β) :
    (action >>= fun value => pure (form value)).StopsOn position route bench :=
  Action.Ends.bind stops fun _ _ _ kept => .pure kept

end Action.StopsOn

variable {bench : Bench}

/-- A command to an attenuator that fails leaves its route intact. -/
theorem Attenuator.set_stopsOn {position : Fault → Nat} (attenuator : Attenuator)
    (value : Level) :
    (attenuator.set value).StopsOn position (.behind bench [attenuator]) bench := by
  have own : attenuator.simulatorId bench ∈ (Route.behind bench [attenuator]).called :=
    List.mem_singleton_self _
  have ends : (attenuator.set value).Ends bench
      (fun _ => bench.Intact (· ∈ (Route.behind bench [attenuator]).called) fun _ _ => True)
      fun _ => bench.Intact (· ∈ (Route.behind bench [attenuator]).called) fun _ _ => False :=
    Attenuator.set_ends own trivial value
  exact ends.weaken (fun _ _ kept => kept.mono (fun _ => .inl) fun _ _ => id)
    fun _ _ kept => .of_called kept _

/-- A read of an attenuator leaves its route intact. -/
theorem Attenuator.get_stopsOn {position : Fault → Nat} (attenuator : Attenuator) :
    attenuator.get.StopsOn position (.behind bench [attenuator]) bench :=
  .of_leaves (Attenuator.get_leaves (List.mem_singleton_self _))

namespace Group

/-- A group command that fails leaves its route intact up to the position that it reports. -/
theorem set_stopsOn (group : Group) (value : Level) :
    (group.set value).StopsOn GroupStop.member (.along (some group)) bench :=
  (group.set_ends value).weaken
    (fun _ _ kept => kept.mono (fun _ => .inr) fun _ _ _ => trivial)
    fun _ _ kept => .of_group kept

/-- Asking whether a group is synchronized leaves its route intact. -/
theorem isSynchronized_stopsOn {position : Fault → Nat} (group : Group) :
    group.isSynchronized.StopsOn position (.behind bench group.members) bench :=
  .of_leaves (Group.allRead_leaves group.lastCommanded fun _ inside =>
    List.mem_map_of_mem inside)

end Group

namespace Command

/-- Where a command goes. -/
def route (command : Command) (rack : Rack) (bench : Bench) : Route :=
  match command with
  | .set name _ => .along (rack.group? name)
  | .sync name => .along (rack.group? name)
  | .check name => .behind bench ((rack.group? name).elim [] Group.members)
  | .getChannel instrument index => .behind bench (rack.attenuator? instrument index).toList
  | .setChannel instrument index _ => .behind bench (rack.attenuator? instrument index).toList
  | _ => .nowhere

/-- What is done with a group that a command names is done when the rack has it. -/
theorem group_bind_ends {α : Type} {rack : Rack} {name : String}
    {next : Group → Action CommandFault α} {whenDone : α → Bench → Prop}
    {whenFailed : CommandFault → Bench → Prop}
    (missing : whenFailed (.rack (.groupNotFound name)) bench)
    (rest : ∀ group, rack.group? name = some group →
      (next group).Ends bench whenDone whenFailed) :
    (group rack name >>= next).Ends bench whenDone whenFailed := by
  unfold group Rack.requireGroup
  cases found : rack.group? name with
  | none => exact .of_failed rfl missing
  | some group => exact rest group found

/-- What is done with a channel that a command names is done when the rack has it. -/
theorem channel_bind_ends {α : Type} {rack : Rack} {instrument index : Nat}
    {next : Attenuator → Action CommandFault α} {whenDone : α → Bench → Prop}
    {whenFailed : CommandFault → Bench → Prop}
    (missing : whenFailed (.noAttenuator instrument index) bench)
    (rest : ∀ attenuator, rack.attenuator? instrument index = some attenuator →
      (next attenuator).Ends bench whenDone whenFailed) :
    (channel rack instrument index >>= next).Ends bench whenDone whenFailed := by
  unfold channel
  cases found : rack.attenuator? instrument index with
  | none => exact .of_failed rfl missing
  | some attenuator => exact rest attenuator found

/-- A command that fails leaves its route intact up to the position that it reports. -/
theorem run_stopsOn (command : Command) (rack : Rack) :
    (command.run rack).StopsOn CommandFault.position (command.route rack bench) bench := by
  have commanded (group : Group) (value : Level) : ((group.set value).mapFault stopped).StopsOn
      CommandFault.position (.along (some group)) bench := .mapFault (group.set_stopsOn value)
  cases command with
  | list => exact .of_done (Action.run_bind_done _ (rack.run_listing bench)) (.refl bench)
  | status =>
    exact .of_leaves (Action.Leaves.bind (Action.Leaves.mapFault rack.status_leaves)
      fun _ _ _ => .pure _)
  | get name =>
    exact group_bind_ends (.refl bench _) fun group _ => .pure (.refl bench)
  | set name value =>
    refine group_bind_ends (.refl bench _) fun group found => ?_
    rw [show (Command.set name value).route rack bench = .along (some group) from
      congrArg Route.along found]
    exact (commanded group value).map _
  | sync name =>
    refine group_bind_ends (.refl bench _) fun group found => ?_
    rw [show (Command.sync name).route rack bench = .along (some group) from
      congrArg Route.along found]
    exact (commanded group group.lastCommanded).map _
  | check name =>
    refine group_bind_ends (.refl bench _) fun group found => ?_
    rw [show (Command.check name).route rack bench = .behind bench group.members by
      simp [route, found]]
    exact (Action.StopsOn.mapFault group.isSynchronized_stopsOn).map _
  | getChannel instrument index =>
    refine channel_bind_ends (.refl bench _) fun attenuator found => ?_
    rw [show (Command.getChannel instrument index).route rack bench =
      .behind bench [attenuator] by simp [route, found]]
    exact (Action.StopsOn.mapFault attenuator.get_stopsOn).map _
  | setChannel instrument index value =>
    refine channel_bind_ends (.refl bench _) fun attenuator found => ?_
    rw [show (Command.setChannel instrument index value).route rack bench =
      .behind bench [attenuator] by simp [route, found]]
    exact (Action.StopsOn.mapFault (attenuator.set_stopsOn value)).map _

/-- The instruments that a command visits are behind attenuators of its rack. -/
theorem visits_rack {property : SimulatorId → Prop} {rack : Rack}
    (all : rack.All fun attenuator => property (attenuator.simulatorId bench))
    (command : Command) {id : SimulatorId} (visited : (command.route rack bench).Visits bench id) :
    property id := by
  have members {name : String} {member : Attenuator}
      (inside : member ∈ (rack.group? name).elim [] Group.members) :
      property (member.simulatorId bench) := by
    cases found : rack.group? name with
    | none =>
      rw [found] at inside
      exact absurd inside List.not_mem_nil
    | some group =>
      rw [found] at inside
      exact all.groups group (Rack.group?_mem found) member inside
  have channel {instrument index : Nat} {attenuator : Attenuator}
      (inside : attenuator ∈ (rack.attenuator? instrument index).toList) :
      property (attenuator.simulatorId bench) :=
    all.instruments attenuator (Rack.attenuator?_mem (Option.mem_toList.mp inside))
  cases command with
  | set name value | sync name =>
    rcases visited with called | ⟨member, inside, rfl⟩
    · exact absurd called List.not_mem_nil
    · exact members inside
  | check name =>
    rcases visited with called | ⟨member, inside, -⟩
    · obtain ⟨member, inside, rfl⟩ := List.mem_map.mp called
      exact members inside
    · exact absurd inside List.not_mem_nil
  | getChannel instrument index | setChannel instrument index value =>
    rcases visited with called | ⟨attenuator, inside, -⟩
    · obtain ⟨attenuator, inside, rfl⟩ := List.mem_map.mp called
      exact channel inside
    · exact absurd inside List.not_mem_nil
  | list | status | get name =>
    rcases visited with called | ⟨attenuator, inside, -⟩
    · exact absurd called List.not_mem_nil
    · exact absurd inside List.not_mem_nil

/-- Commands that end in a failed one are the commands in front of it, which are carried out, and
then that one, which fails on what they left. -/
theorem runAll_failed {ε : Type} {rack : Rack} {commands : List Command}
    {transcript : Transcript} {fault : CommandFault} {after : Bench}
    (ran : (runAll rack commands : Action ε Transcript).run bench = (.done transcript, after))
    (ended : transcript.ending = .failed fault) :
    ∃ front command rest between, commands = front ++ command :: rest ∧
      (runAll rack front : Action ε Transcript).run bench =
        (.done { transcript with ending := .completed }, between) ∧
      (command.run transcript.rack).run between = (.failed fault, after) := by
  induction commands generalizing rack transcript bench with
  | nil =>
    cases ran
    cases ended
  | cons command rest ih =>
    rw [runAll, Action.run_bind_done _ (Action.run_observe _ bench)] at ran
    cases first : (command.run rack).run bench with
    | mk outcome middle =>
      rw [first] at ran
      cases outcome with
      | failed found =>
        cases ran
        cases ended
        exact ⟨[], command, rest, bench, rfl, rfl, first⟩
      | crashed =>
        cases ran
        cases ended
      | done answer =>
        obtain ⟨output, following⟩ := answer
        obtain ⟨later, last, followed, given⟩ := Action.run_bind_eq_done.mp ran
        cases given
        obtain ⟨front, stopping, others, between, split, started, stopped⟩ := ih followed ended
        refine ⟨command :: front, stopping, others, between, by rw [split, List.cons_append], ?_,
          stopped⟩
        rw [runAll, Action.run_bind_done _ (Action.run_observe _ bench), first]
        exact Action.run_bind_done _ started

/-- Commands on a rack whose attenuators go to instruments from some point on leave everything in
front of that point alone, unless one of them crashes. -/
theorem runAll_ends {ε : Type} {limit : SimulatorId} {rack : Rack}
    (far : rack.All fun attenuator => bench.Calibrated attenuator ∧
      limit ≤ attenuator.simulatorId bench) (commands : List Command) :
    (runAll rack commands : Action ε Transcript).Ends bench
      (fun transcript after => transcript.ending ≠ .crashed →
        bench.Intact (limit ≤ ·) (fun _ _ => True) after)
      fun _ _ => False := by
  induction commands generalizing bench rack with
  | nil => exact .pure fun _ => .refl bench
  | cons command rest ih =>
    have observed : ((command.run rack).observe :
        Action ε (Outcome CommandFault (String × Rack))).Ends bench
        (fun outcome between => (command.run rack).run bench = (outcome, between))
        fun _ _ => False := .of_done (Action.run_observe _ bench) rfl
    have calibrated : rack.All bench.Calibrated := far.imp fun _ known => known.1
    have visited {id : SimulatorId} : (command.route rack bench).Visits bench id → limit ≤ id :=
      command.visits_rack (far.imp fun _ known => known.2)
    have stops : (command.run rack).StopsOn CommandFault.position _ bench :=
      command.run_stopsOn rack
    refine observed.bind fun outcome between _ ran => ?_
    cases outcome with
    | crashed => exact .pure fun alive => absurd rfl alive
    | failed fault =>
      refine .pure fun _ => (stops.failed fault between ran).mono (fun id called => ?_)
        fun _ _ _ => trivial
      exact visited (called.imp_right (Bench.Behind.mono (List.take_subset _ _) id))
    | done answer =>
      obtain ⟨output, following⟩ := answer
      have kept : bench.Intact (limit ≤ ·) (fun _ _ => True) between :=
        (stops.done _ between ran).mono (fun _ => visited) fun _ _ => id
      obtain ⟨evolved, left⟩ := Command.run_yields calibrated command
      rw [ran] at evolved left
      have same : following = command.rackAfter rack := left _ rfl
      subst same
      have still := (far.rackAfter command).imp fun attenuator known =>
        show between.Calibrated attenuator ∧ limit ≤ attenuator.simulatorId between from
          ⟨evolved.calibrated known.1,
            (evolved.grown.simulatorId known.1.isOpen).symm ▸ known.2⟩
      exact (ih still).bind fun transcript last _ later =>
        .pure fun alive => kept.trans (later alive)

end Command

/-- The attenuators of a built rack are calibrated and go to instruments that were not there
before. -/
theorem Rack.build_far {config : RackConfig} {catalog : Catalog} {after : Bench} {rack : Rack}
    (built : (build config catalog).run bench = (.done rack, after)) :
    rack.All fun attenuator => after.Calibrated attenuator ∧
      bench.nextSimulator ≤ attenuator.simulatorId after := by
  have yields : (build config catalog).Yields (Bench.Evolves fun _ => True) bench Built :=
    build_yields (fun _ _ => trivial) (fun _ _ => trivial) config catalog
  have known : rack.Built after := by
    have left := yields.2
    rw [built] at left
    exact left rack rfl
  have equipped := (assembled_of_done built).equipped
  have added (attenuator : Attenuator) (inside : attenuator ∈ rack.attenuators) :
      bench.nextSimulator ≤ attenuator.simulatorId after := by
    obtain ⟨instrument, present, own⟩ := List.mem_flatMap.mp inside
    obtain ⟨position, found⟩ := List.mem_iff_getElem?.mp present
    obtain ⟨index, here⟩ := List.mem_iff_getElem?.mp own
    obtain ⟨descriptor, described⟩ := equipped.exists_descriptor found
    have realized := equipped.realized described found
    obtain ⟨session, -⟩ := realized.channel index attenuator here
    unfold Attenuator.simulatorId
    rw [session]
    exact realized.brought.1
  refine ⟨fun attenuator inside => ?_, fun group present member inside => ?_⟩
  · exact ⟨known.calibrated attenuator inside, added attenuator inside⟩
  · have drawn := known.drawn group present member inside
    exact ⟨known.calibrated member drawn, added member drawn⟩

namespace CommandLine

variable {called : SimulatorId → Prop} {changed : SimulatorId → Nat → Prop}

/-- The catalog of the simulated models leaves the bench intact. -/
theorem simulated_leaves {ε : Type} :
    (Catalog.simulated : Action ε Catalog).Leaves (Bench.Intact called changed) bench :=
  Action.Leaves.foldlM _ (fun _ _ here =>
    Action.Leaves.bind (Action.Ends.emit (.record here _)) fun _ _ _ => .pure _) _

/-- A run of the program that is done has built its rack on instruments of its own. -/
theorem rackOf_ends (config : RackConfig) :
    (rackOf config).Ends bench
      (fun rack after => bench.Intact called changed after ∧
        rack.All fun attenuator => after.Calibrated attenuator ∧
          bench.nextSimulator ≤ attenuator.simulatorId after)
      fun _ => bench.Intact called changed := by
  have listed : (Catalog.simulated : Action RunFault Catalog).Leaves
      (Bench.Intact called changed) bench := simulated_leaves
  refine Action.Ends.bind listed fun catalog between _ kept => ?_
  have built : (Rack.build config catalog).Ends between
      (fun rack after => bench.Intact called changed after ∧
        rack.All fun attenuator => after.Calibrated attenuator ∧
          bench.nextSimulator ≤ attenuator.simulatorId after)
      fun _ => bench.Intact called changed := by
    refine ⟨fun rack after ran => ⟨?_, ?_⟩, fun fault after ran => ?_⟩
    · exact kept.trans ((Rack.build_leaves config catalog).done rack after ran)
    · exact (Rack.build_far ran).imp fun _ known =>
        ⟨known.1, Nat.le_trans kept.simulators known.2⟩
    · exact kept.trans ((Rack.build_leaves config catalog).failed fault after ran)
  exact Action.Ends.mapFault built

/-- A run of the program leaves everything intact that was on the bench before, unless a command
crashes. -/
theorem operate_ends (config : RackConfig) (commands : List Command) :
    (operate config commands).Ends bench
      (fun transcript after => transcript.ending ≠ .crashed → bench.Intact called changed after)
      fun _ => bench.Intact called changed := by
  rw [operate_eq]
  refine (rackOf_ends config).bind fun rack between _ built => ?_
  exact (Command.runAll_ends built.2 commands).weaken
    (fun _ _ later alive => built.1.beyond (later alive)) fun _ _ never => never.elim

/-- A run of the program whose commands fail has carried out the commands in front of the one that
failed, and that command leaves its route intact up to the position that it reports. -/
theorem operate_failed {config : RackConfig} {commands : List Command}
    {transcript : Command.Transcript} {fault : CommandFault} {after : Bench}
    (ran : (operate config commands).run bench = (.done transcript, after))
    (ended : transcript.ending = .failed fault) :
    ∃ front command rest between, commands = front ++ command :: rest ∧
      (operate config front).run bench =
        (.done { transcript with ending := .completed }, between) ∧
      between.IntactBut (command.route transcript.rack between) fault.position after := by
  rw [operate_eq] at ran
  obtain ⟨rack, equipped, built, ran⟩ := Action.run_bind_eq_done.mp ran
  obtain ⟨front, command, rest, between, split, carried, failed⟩ :=
    Command.runAll_failed ran ended
  refine ⟨front, command, rest, between, split, ?_, ?_⟩
  · rw [operate_eq]
    exact (Action.run_bind_done _ built).trans carried
  · exact (command.run_stopsOn transcript.rack).failed fault after failed

end CommandLine

/-- Where a request goes that a group carries out. -/
def Request.route (request : Request) (group : Group) (bench : Bench) : Route :=
  match request with
  | .set _ => .along (some group)
  | .synchronize => .along (some group)
  | .isSynchronized => .behind bench group.members
  | .get => .nowhere
  | .shutdown => .nowhere

/-- A request that a group answers by a fault leaves the group as it was, and its route intact up to
the position that the fault reports. -/
theorem Group.carryOut_ends {ε : Type} (group : Group) (request : Request) :
    (group.carryOut request : Action ε (Group × Answer)).Ends bench
      (fun result after => ∀ fault, result.2 = .error fault → result.1 = group ∧
        bench.IntactBut (request.route group bench) fault.position after)
      fun _ _ => False := by
  have commands (value : Level) (announced : Event) :
      (Action.emit announced >>= fun _ =>
        (group.set value).attempt >>= fun result => pure (group.commandAnswer result) :
        Action ε (Group × Answer)).Ends bench
        (fun result after => ∀ fault, result.2 = .error fault → result.1 = group ∧
          bench.IntactBut (.along (some group)) fault.position after)
        fun _ _ => False := by
    have announces : (Action.emit announced : Action ε Unit).Ends bench
        (fun _ after => after = bench.record [announced]) fun _ _ => False := .emit rfl
    refine announces.bind fun _ here _ same => ?_
    subst same
    refine Action.Ends.bind (group.set_stopsOn value).attempt fun result after _ stopped =>
      .pure fun fault same => ?_
    cases result with
    | ok changed => cases same
    | error stop =>
      cases same
      exact ⟨rfl, Bench.Intact.trans (.record bench _) (stopped stop rfl)⟩
  cases request with
  | set value =>
    rw [carryOut_set]
    exact commands value _
  | synchronize =>
    rw [carryOut_synchronize]
    exact commands group.lastCommanded _
  | get => exact .pure fun _ same => by cases same
  | shutdown => exact .pure fun _ same => by cases same
  | isSynchronized =>
    rw [carryOut_isSynchronized]
    have asked : group.isSynchronized.StopsOn Fault.position (.behind bench group.members) bench :=
      group.isSynchronized_stopsOn
    refine Action.Ends.bind asked.attempt fun result after _ stopped =>
      .pure fun fault same => ?_
    cases result with
    | ok value => cases same
    | error source =>
      cases same
      exact ⟨rfl, stopped source rfl⟩

namespace Actor

/-- Where the next step of an actor goes: where its oldest request does. -/
def route (actor : Actor) (bench : Bench) : Route :=
  match actor.phase, actor.mailbox with
  | .serving group, mail :: _ => mail.request.route group bench
  | _, _ => .nowhere

/-- An actor has its group and everything that it was made with, whatever became of its requests. -/
structure Intact (before after : Actor) : Prop where
  /-- The name of the group is the same. -/
  name : after.name = before.name
  /-- The mailbox holds as many requests. -/
  capacity : after.capacity = before.capacity
  /-- As many handles are left. -/
  handles : after.handles = before.handles
  /-- The group is the same, with its members and the level that it remembers. -/
  group : after.phase.group? = before.phase.group?
  /-- No answer is taken back. -/
  answers : before.answers <+: after.answers

/-- An actor that does nothing is intact. -/
theorem Intact.refl (actor : Actor) : actor.Intact actor :=
  ⟨rfl, rfl, rfl, rfl, List.prefix_rfl⟩

/-- An actor that is intact twice is intact. -/
theorem Intact.trans {before middle after : Actor} (early : before.Intact middle)
    (late : middle.Intact after) : before.Intact after where
  name := late.name.trans early.name
  capacity := late.capacity.trans early.capacity
  handles := late.handles.trans early.handles
  group := late.group.trans early.group
  answers := early.answers.trans late.answers

/-- The answers that were given after those that an actor had given before. -/
def newAnswers (before after : Actor) : List (Nat × Answer) :=
  after.answers.drop before.answers.length

/-- A request that is sent leaves the actor intact, however it is answered. -/
theorem intact_send (actor : Actor) (request : Request) :
    actor.Intact (actor.send request).2 := by
  obtain ⟨-, -, capacity, handles⟩ := actor.send_frame request
  refine ⟨?_, capacity, handles, by rw [phase_send], answers_prefix_send actor request⟩
  by_cases closed : actor.isClosed
  · rw [send_of_closed closed]
  · obtain ⟨group, serving⟩ := serving_of_not_isClosed closed
    rw [send_of_serving serving, refill_eq]

/-- A shutdown that reaches the mailbox is not answered by a fault. -/
theorem not_error_of_acknowledged {mails : List Mail} {ticket : Nat} {fault : RackFault}
    (inside : (ticket, .error fault) ∈ acknowledgements mails) : False := by
  obtain ⟨mail, present, same⟩ := List.mem_map.mp inside
  have done := closedAnswer_of_shutdown (List.mem_filter.mp present).2
  rw [done] at same
  cases same

/-- An actor that stops leaves the bench and its group intact. -/
theorem stop_ends {ε : Type} {actor : Actor} {group : Group}
    (serving : actor.phase = .serving group) (route : Route) :
    (actor.stop group : Action ε Actor).Ends bench
      (fun next after => actor.Intact next ∧ ∀ position, bench.IntactBut route position after)
      fun _ _ => False := by
  have announces : (Action.emit (.actorStopped group.name) : Action ε Unit).Ends bench
      (fun _ after => ∀ position, bench.IntactBut route position after) fun _ _ => False :=
    .emit fun _ => .record bench _
  refine announces.bind fun _ between _ kept => .pure ⟨?_, kept⟩
  rw [close_eq]
  exact ⟨rfl, rfl, rfl, by rw [serving]; rfl, List.prefix_append _ _⟩

/-- A request that is carried out gets one answer, and where this is a fault the actor is intact,
and the route of the request up to the position that the fault reports. -/
theorem serveMail_ends {ε : Type} {actor : Actor} {group : Group}
    (serving : actor.phase = .serving group) (mail : Mail) :
    (actor.serveMail group mail : Action ε Actor).Ends bench
      (fun next after => next.phase ≠ .crashed → ∃ value,
        next.answers = actor.answers ++ [(mail.ticket, value)] ∧
        ∀ fault, value = .error fault → actor.Intact next ∧
          bench.IntactBut (mail.request.route group bench) fault.position after)
      fun _ _ => False := by
  have carried : (group.carryOut mail.request : Action ε (Group × Answer)).Ends bench _ _ :=
    group.carryOut_ends mail.request
  have ran : (actor.serveMail group mail : Action ε Actor).run bench = _ :=
    run_serveMail actor group mail bench
  cases ended : (group.carryOut mail.request : Action ε (Group × Answer)).run bench with
  | mk outcome after =>
    rw [ended] at ran
    cases outcome with
    | failed fault => exact (carried.failed fault after ended).elim
    | crashed =>
      refine .of_done ran fun alive => absurd ?_ alive
      rw [close_eq]
    | done result =>
      obtain ⟨left, value⟩ := result
      refine .of_done ran fun _ => ⟨value, rfl, fun fault failed => ?_⟩
      obtain ⟨same, kept⟩ := carried.done _ after ended fault failed
      subst same
      refine ⟨⟨rfl, rfl, rfl, ?_, List.prefix_append _ _⟩, kept⟩
      rw [serving]
      rfl

/-- Whoever is told of a fault in a step of an actor that does not crash finds the actor intact, and
its route up to the position that the fault reports. -/
def IntactOnFault (actor : Actor) (bench : Bench) (next : Actor) (after : Bench) : Prop :=
  next.phase ≠ .crashed → ∀ ticket fault, (ticket, .error fault) ∈ actor.newAnswers next →
    actor.Intact next ∧ bench.IntactBut (actor.route bench) fault.position after

/-- A step of an actor leaves the actor and its route intact when it reports a fault. -/
theorem serve_ends {ε : Type} (actor : Actor) :
    (actor.serve : Action ε Actor).Ends bench (actor.IntactOnFault bench) fun _ _ => False := by
  have idle : (pure actor : Action ε Actor).Ends bench (actor.IntactOnFault bench)
      fun _ _ => False := .pure fun _ _ _ _ => ⟨.refl actor, .refl bench _⟩
  -- An actor that stops keeps its group, whatever became of its requests before.
  have stops {closing : Actor} {group : Group} (intact : actor.Intact closing)
      (serving : closing.phase = .serving group) :
      (closing.stop group : Action ε Actor).Ends bench (actor.IntactOnFault bench)
        fun _ _ => False :=
    (stop_ends serving (actor.route bench)).weaken
      (fun _ _ kept _ _ fault _ => ⟨intact.trans kept.1, kept.2 fault.position⟩) fun _ _ => id
  by_cases closed : actor.isClosed
  · rw [serve_of_closed closed]
    exact idle
  obtain ⟨group, serving⟩ := serving_of_not_isClosed closed
  cases mailbox : actor.mailbox with
  | nil =>
    rw [serve_of_idle serving mailbox]
    by_cases lost : actor.handles = 0
    · rw [if_pos lost]
      exact stops (.refl actor) serving
    · rw [if_neg lost]
      exact idle
  | cons mail rest =>
    rw [serve_of_mail serving mailbox]
    have taken : actor.Intact { actor with mailbox := rest }.refill := by
      rw [refill_eq]
      exact ⟨rfl, rfl, rfl, rfl, List.prefix_append _ _⟩
    have still : { actor with mailbox := rest }.refill.phase = .serving group := by
      rw [refill_eq]
      exact serving
    by_cases shutdown : isShutdown mail
    · rw [if_pos shutdown]
      exact stops taken still
    rw [if_neg shutdown]
    have way : actor.route bench = mail.request.route group bench := by
      unfold route
      rw [serving, mailbox]
    refine (serveMail_ends still mail).weaken
      (fun next after carried alive ticket fault inside => ?_) fun _ _ => id
    obtain ⟨value, answers, kept⟩ := carried alive
    have given : (ticket, .error fault) ∈
        acknowledgements (actor.waiting.take (actor.capacity - rest.length)) ++
          [(mail.ticket, value)] := by
      rw [newAnswers, answers, refill_eq] at inside
      simpa [free] using inside
    rcases List.mem_append.mp given with acknowledged | last
    · exact (not_error_of_acknowledged acknowledged).elim
    · cases List.mem_singleton.mp last
      rw [way]
      exact ⟨taken.trans (kept fault rfl).1, (kept fault rfl).2⟩

end Actor

end Attenuation
