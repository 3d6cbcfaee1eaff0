import Attenuation.Proofs.RackConduct

/-!
# The conduct of commands

What a command asks of a rack, what it reads, and the rack that it leaves are functions of the
command and the rack. A run of the program builds a rack and asks only the attenuators of that
rack, and only for levels that its commands name or for the level that a new group remembers.
-/

namespace Attenuation

variable {bench : Bench}

namespace Rack

/-- A group that is found is one of the rack. -/
theorem group?_mem {rack : Rack} {name : String} {group : Group}
    (found : rack.group? name = some group) : group ∈ rack.groups :=
  List.mem_of_find?_eq_some found

/-- A group of a rack after one was replaced is the new one or an old one. -/
theorem mem_replaceFirst {name : String} {group other : Group} {groups : List Group}
    (member : other ∈ replaceFirst name group groups) : other = group ∨ other ∈ groups := by
  induction groups with
  | nil => exact absurd member List.not_mem_nil
  | cons first rest ih =>
    unfold replaceFirst at member
    by_cases here : first.name == name
    · rw [if_pos here] at member
      rcases List.mem_cons.mp member with same | inside
      · exact .inl same
      · exact .inr (List.mem_cons_of_mem first inside)
    · rw [if_neg here] at member
      rcases List.mem_cons.mp member with same | inside
      · exact .inr (same ▸ List.mem_cons_self)
      · exact (ih inside).imp_right (List.mem_cons_of_mem first)

/-- A group put in the place of itself changes nothing. -/
theorem replaceFirst_self {name : String} {group : Group} {groups : List Group}
    (found : (groups.find? fun group => group.name == name) = some group) :
    replaceFirst name group groups = groups := by
  induction groups with
  | nil => rfl
  | cons first rest ih =>
    unfold replaceFirst
    by_cases here : first.name == name
    · simp only [List.find?_cons, here, Option.some.injEq] at found
      rw [if_pos here, found]
    · simp only [List.find?_cons, here] at found
      rw [if_neg here, ih found]

/-- A rack keeps a property of its attenuators with a group whose members have it. -/
theorem All.putGroup {property : Attenuator → Prop} {rack : Rack} {group : Group}
    (all : rack.All property) (name : String) (members : group.All property) :
    (rack.putGroup name group).All property where
  instruments := all.instruments
  groups other present := by
    rcases mem_replaceFirst present with rfl | inside
    · exact members
    · exact all.groups other inside

/-- A group that is taken out of a rack and the rack that is left keep a property of their
attenuators. -/
theorem All.takeGroup? {property : Attenuator → Prop} {rack after : Rack} {name : String}
    {group : Group} (all : rack.All property)
    (taken : rack.takeGroup? name = some (group, after)) :
    group.All property ∧ after.All property := by
  obtain ⟨other, found, taken⟩ := Option.bind_eq_some_iff.mp taken
  cases taken
  refine ⟨all.groups group (group?_mem found), all.instruments, fun rest present => ?_⟩
  exact all.groups rest (List.mem_of_mem_eraseP present)

/-- The attenuator of a channel is one of the rack. -/
theorem attenuator?_mem {rack : Rack} {instrument index : Nat} {attenuator : Attenuator}
    (found : rack.attenuator? instrument index = some attenuator) :
    attenuator ∈ rack.attenuators := by
  obtain ⟨source, present, own⟩ := channelOf?_mem found
  exact List.mem_flatMap.mpr ⟨source, present, own⟩

/-- A property of the attenuators of a rack that follows from another one. -/
theorem All.imp {property weaker : Attenuator → Prop} {rack : Rack} (all : rack.All property)
    (follows : ∀ attenuator, property attenuator → weaker attenuator) : rack.All weaker where
  instruments attenuator member := follows attenuator (all.instruments attenuator member)
  groups group present member inside := follows member (all.groups group present member inside)

end Rack

namespace Command

/-- The attenuators that a command asks for a level. -/
def Asks (command : Command) (rack : Rack) (attenuator : Attenuator) (value : Level) : Prop :=
  match command with
  | .set name level => ∃ group, rack.group? name = some group ∧
      attenuator ∈ group.members ∧ value = level
  | .sync name => ∃ group, rack.group? name = some group ∧
      attenuator ∈ group.members ∧ value = group.lastCommanded
  | .setChannel instrument index level =>
      rack.attenuator? instrument index = some attenuator ∧ value = level
  | _ => False

/-- The channels that a command reads. -/
def Reads (command : Command) (rack : Rack) (session : SessionId) (index : Nat) : Prop :=
  match command with
  | .check name => ∃ group, rack.group? name = some group ∧
      ∃ member ∈ group.members, member.session = session ∧ member.index = index
  | .getChannel instrument channel => ∃ attenuator,
      rack.attenuator? instrument channel = some attenuator ∧
      attenuator.session = session ∧ attenuator.index = index
  | _ => False

/-- What a command may do. -/
def footprint (command : Command) (rack : Rack) : Footprint where
  asks := command.Asks rack
  reads := command.Reads rack
  connects := False

/-- The rack after a command that was carried out. -/
def rackAfter (command : Command) (rack : Rack) : Rack :=
  match command with
  | .set name level =>
    match rack.group? name with
    | some group => rack.putGroup name { group with lastCommanded := level }
    | none => rack
  | _ => rack

end Command

/-- A command leaves the attenuators of its rack as they are. -/
theorem Rack.All.rackAfter {property : Attenuator → Prop} {rack : Rack}
    (all : rack.All property) (command : Command) : (command.rackAfter rack).All property := by
  cases command with
  | set name level =>
    simp only [Command.rackAfter]
    cases found : rack.group? name with
    | none => exact all
    | some group =>
      have members := all.groups group (group?_mem found)
      exact all.putGroup name fun member inside => members member inside
  | _ => exact all

namespace Command

section Related

variable {related : Bench → Bench → Prop} [IsPreorder Bench related]

/-- A group that a command names is found in the rack, and nothing is done. -/
theorem group_yields (rack : Rack) (name : String) :
    (group rack name).Yields related bench fun group after =>
      after = bench ∧ rack.group? name = some group := by
  unfold group
  refine (Action.Yields.ofExcept (fun group after =>
    after = bench ∧ rack.group? name = some group) fun group found => ⟨rfl, ?_⟩).mapFault _
  unfold Rack.requireGroup at found
  cases present : rack.group? name with
  | none => simp [present] at found
  | some other =>
    simp only [present, Except.ok.injEq] at found
    rw [found]

/-- A channel that a command names is found in the rack, and nothing is done. -/
theorem channel_yields (rack : Rack) (instrument index : Nat) :
    (channel rack instrument index).Yields related bench fun attenuator after =>
      after = bench ∧ rack.attenuator? instrument index = some attenuator := by
  unfold channel
  cases rack.attenuator? instrument index with
  | none => exact .fail _ _
  | some attenuator => exact .pure ⟨rfl, rfl⟩

/-- A command keeps what recording keeps and each command and each read of an attenuator that is
among its own, and if it is carried out it leaves its rack. -/
theorem run_yields_of (records : ∀ before events, related before (before.record events))
    {rack : Rack} (command : Command)
    (asks : ∀ (attenuator : Attenuator) (value : Level), command.Asks rack attenuator value →
      ∀ between, related bench between → (attenuator.set value).Keeps related between)
    (reads : ∀ attenuator : Attenuator, command.Reads rack attenuator.session attenuator.index →
      ∀ between, related bench between → attenuator.get.Keeps related between) :
    (command.run rack).Yields related bench fun answer _ => answer.2 = command.rackAfter rack := by
  cases command with
  | list => exact (rack.listing_keeps).bind fun _ _ _ _ => .pure rfl
  | status => exact ((rack.status_keeps).mapFault _).bind fun _ _ _ _ => .pure rfl
  | get name => exact (group_yields rack name).bind fun _ _ _ _ => .pure rfl
  | set name level =>
    refine (group_yields rack name).bind fun group here _ => ?_
    rintro ⟨rfl, found⟩
    refine ((Group.set_yields_of records fun member inside => asks member level
      ⟨group, found, inside, rfl⟩).mapFault stopped).bind fun result _ _ => ?_
    rintro ⟨-, rfl⟩
    exact .pure (by simp [rackAfter, found])
  | sync name =>
    refine (group_yields rack name).bind fun group here _ => ?_
    rintro ⟨rfl, found⟩
    refine ((Group.set_yields_of records fun member inside => asks member group.lastCommanded
      ⟨group, found, inside, rfl⟩).mapFault stopped).bind fun result _ _ => ?_
    rintro ⟨-, rfl⟩
    refine .pure ?_
    simp only [rackAfter, Rack.putGroup]
    rw [Rack.replaceFirst_self found]
  | check name =>
    refine (group_yields rack name).bind fun group here _ => ?_
    rintro ⟨rfl, found⟩
    exact ((Group.isSynchronized_keeps_of fun member inside => reads member
      ⟨group, found, member, inside, rfl, rfl⟩).mapFault _).bind fun _ _ _ _ => .pure rfl
  | getChannel instrument index =>
    refine (channel_yields rack instrument index).bind fun attenuator here kept => ?_
    rintro ⟨rfl, found⟩
    exact ((reads attenuator ⟨attenuator, found, rfl, rfl⟩ here kept).mapFault _).bind
      fun _ _ _ _ => .pure rfl
  | setChannel instrument index level =>
    refine (channel_yields rack instrument index).bind fun attenuator here kept => ?_
    rintro ⟨rfl, found⟩
    exact ((asks attenuator level ⟨found, rfl⟩ here kept).mapFault _).bind
      fun _ _ _ _ => .pure rfl

end Related

/-- The attenuators that a command asks for a level are attenuators of the rack or members of its
groups. -/
theorem Asks.holds {property : Attenuator → Prop} {rack : Rack} (all : rack.All property)
    {command : Command} {attenuator : Attenuator} {value : Level}
    (asked : command.Asks rack attenuator value) : property attenuator := by
  cases command with
  | set name level =>
    obtain ⟨group, found, inside, -⟩ := asked
    exact all.groups group (Rack.group?_mem found) attenuator inside
  | sync name =>
    obtain ⟨group, found, inside, -⟩ := asked
    exact all.groups group (Rack.group?_mem found) attenuator inside
  | setChannel instrument index level =>
    exact all.instruments attenuator (Rack.attenuator?_mem asked.1)
  | _ => exact asked.elim

/-- A command does nothing outside its footprint, and a command that is carried out leaves its
rack. -/
theorem run_yields {rack : Rack} (all : rack.All bench.Calibrated) (command : Command) :
    (command.run rack).Yields (Bench.Evolves (command.footprint rack).Allows) bench
      fun answer _ => answer.2 = command.rackAfter rack := by
  have quiet := (command.footprint rack).allows_quiet
  refine run_yields_of (fun before events => .record quiet before events) command
    (fun attenuator value asked between evolved => ?_) fun attenuator read _ _ => ?_
  · exact Attenuator.set_keeps quiet (evolved.calibrated (asked.holds all)) asked
  · exact Attenuator.get_keeps quiet read

/-- The level that a command names. -/
def level? : Command → Option Level
  | .set _ level => some level
  | .setChannel _ _ level => some level
  | _ => none

/-- The rack of a sequence of commands: its attenuators come from a source, and its groups remember
levels of a collection. -/
structure Supplied (source : Attenuator → Prop) (levels : Level → Prop) (rack : Rack) : Prop where
  /-- Every attenuator comes from the source. -/
  all : rack.All source
  /-- Every remembered level is one of the collection. -/
  remembered : ∀ group ∈ rack.groups, levels group.lastCommanded

variable {source : Attenuator → Prop} {levels : Level → Prop}

/-- A command asks the attenuators of its rack for a level that it names or that a group of the
rack remembers. -/
theorem Supplied.asks {rack : Rack} (supplied : Supplied source levels rack) {command : Command}
    (named : ∀ level, command.level? = some level → levels level) {attenuator : Attenuator}
    {value : Level} (asked : command.Asks rack attenuator value) :
    source attenuator ∧ levels value := by
  cases command with
  | set name level =>
    obtain ⟨group, found, inside, rfl⟩ := asked
    exact ⟨supplied.all.groups group (Rack.group?_mem found) attenuator inside, named _ rfl⟩
  | sync name =>
    obtain ⟨group, found, inside, rfl⟩ := asked
    have present := Rack.group?_mem found
    exact ⟨supplied.all.groups group present attenuator inside,
      supplied.remembered group present⟩
  | setChannel instrument index level =>
    obtain ⟨found, rfl⟩ := asked
    exact ⟨supplied.all.instruments attenuator (Rack.attenuator?_mem found), named _ rfl⟩
  | _ => exact asked.elim

/-- The rack after a command is supplied as the rack before. -/
theorem Supplied.rackAfter {rack : Rack} (supplied : Supplied source levels rack)
    {command : Command} (named : ∀ level, command.level? = some level → levels level) :
    Supplied source levels (command.rackAfter rack) := by
  refine ⟨supplied.all.rackAfter command, fun other inside => ?_⟩
  cases command with
  | set name level =>
    simp only [Command.rackAfter] at inside
    cases found : rack.group? name with
    | none =>
      rw [found] at inside
      exact supplied.remembered other inside
    | some group =>
      rw [found] at inside
      rcases Rack.mem_replaceFirst inside with rfl | earlier
      · exact named level rfl
      · exact supplied.remembered other earlier
  | _ => exact supplied.remembered other inside

/-- A sequence of commands asks the attenuators of its rack for levels that the commands name or
that the groups remembered at the start. -/
theorem runAll_keeps {ε : Type} {footprint : Footprint} {rack : Rack}
    (calibrated : rack.All bench.Calibrated) (supplied : Supplied source levels rack)
    (asks : ∀ attenuator value, source attenuator → levels value →
      footprint.asks attenuator value)
    (reads : ∀ session index, footprint.reads session index) (commands : List Command)
    (named : ∀ command ∈ commands, ∀ level, command.level? = some level → levels level) :
    (runAll rack commands : Action ε Transcript).Keeps (Bench.Evolves footprint.Allows)
      bench := by
  induction commands generalizing bench rack with
  | nil => exact .pure trivial
  | cons command rest ih =>
    have own := named command List.mem_cons_self
    have within : (command.footprint rack).Within footprint := by
      refine ⟨fun attenuator value asked => ?_, fun session index _ => reads session index,
        fun connects => connects.elim⟩
      obtain ⟨known, recalled⟩ := supplied.asks own asked
      exact asks attenuator value known recalled
    have first := within.yields (run_yields calibrated command)
    refine first.observe.bind fun outcome between evolved left => ?_
    cases outcome with
    | failed fault => exact .pure trivial
    | crashed => exact .pure trivial
    | done answer =>
      obtain ⟨output, after⟩ := answer
      have same : after = command.rackAfter rack := left _ rfl
      subst same
      have later := (calibrated.rackAfter command).imp fun _ known => evolved.calibrated known
      exact (ih later (supplied.rackAfter own) fun other member =>
        named other (List.mem_cons_of_mem command member)).bind fun _ _ _ _ => .pure trivial

end Command

namespace CommandLine

/-- What a run of the program asks: the attenuators of a rack that its description builds, for
levels that its commands name or for the level that a new group remembers. -/
def Asks (config : RackConfig) (commands : List Command) (attenuator : Attenuator)
    (value : Level) : Prop :=
  (∃ catalog before rack after, (Rack.build config catalog).run before = (.done rack, after) ∧
    attenuator ∈ rack.attenuators) ∧
  (value = 0.0 ∨ ∃ command ∈ commands, command.level? = some value)

/-- What a run of the program may do. -/
def footprint (config : RackConfig) (commands : List Command) : Footprint where
  asks := Asks config commands
  reads _ _ := True
  connects := True

/-- The catalog of the simulated models only records its registrations. -/
theorem simulated_keeps {ε : Type} {allowed : Deed → Prop}
    (quiet : ∀ deed, deed.IsQuiet → allowed deed) :
    (Catalog.simulated : Action ε Catalog).Keeps (Bench.Evolves allowed) bench := by
  refine Action.Yields.foldlM_keeps Catalog.simulatedPairs (fun pair _ catalog between _ => ?_)
    Catalog.empty
  exact (Action.emit_yields quiet _).bind fun _ _ _ _ => .pure trivial

/-- A run of the program does nothing outside its footprint. -/
theorem operate_keeps (config : RackConfig) (commands : List Command) :
    (operate config commands).Keeps (Bench.Evolves (footprint config commands).Allows) bench := by
  have quiet := (footprint config commands).allows_quiet
  refine (simulated_keeps quiet).bind fun catalog before _ _ => ?_
  have built : (Rack.build config catalog).Yields
      (Bench.Evolves (footprint config commands).Allows) before Rack.Built :=
    Rack.build_yields quiet (Footprint.allows_connection _ trivial) config catalog
  refine (built.ran.mapFault RunFault.notBuilt).bind fun rack after _ => ?_
  rintro ⟨ran, built⟩
  have supplied : Command.Supplied (· ∈ rack.attenuators)
      (fun value => value = 0.0 ∨ ∃ command ∈ commands, command.level? = some value) rack :=
    ⟨⟨fun _ member => member, built.drawn⟩, fun group present => .inl (built.idle group present)⟩
  refine Command.runAll_keeps built.all supplied (fun attenuator value member level => ?_)
    (fun _ _ => trivial) commands fun command member level same => .inr ⟨command, member, same⟩
  exact ⟨⟨catalog, before, rack, after, ran, member⟩, level⟩

end CommandLine

end Attenuation
