import Attenuation.Proofs.CommandConduct
import Attenuation.Proofs.Registrations
import Attenuation.Proofs.Wiring
import Mathlib.Data.Option.Basic

/-!
# What a run of commands remembers

A run of commands on a rack of simulated instruments is a memory. `Mirrors` ties the memory to the
bench and to the rack; the rack that a run builds remembers nothing at first, each command that is
carried out keeps the tie, and a command is carried out exactly when the memory says that it does
not fail.
-/

namespace Attenuation

/-- The group of a name is made of the channels that its description names, and remembers the
level of the memory. -/
structure Kept (config : RackConfig) (session : SessionId) (memory : Memory) (name : String)
    (group : Group) : Prop where
  /-- The group has the name. -/
  named : group.name = name
  /-- The group remembers the level that it was commanded to last. -/
  level : group.lastCommanded = memory.level name
  /-- The members are the channels, in order. -/
  members : group.members.map some = (config.members name).map (config.attenuator? session)

/-- A rack remembers: it has the attenuators of the described channels and the described groups. -/
structure Stocked (config : RackConfig) (session : SessionId) (memory : Memory) (rack : Rack) :
    Prop where
  /-- The instruments are those of the descriptors. -/
  instrument : ∀ instrument ∈ rack.instruments, ∃ (position : Nat) (descriptor : InstrumentConfig),
    config.instruments[position]? = some descriptor ∧ instrument.session = session + position
  /-- The attenuators are those of the channels. -/
  channel : ∀ instrument index,
    rack.attenuator? instrument index = config.attenuator? session (instrument, index)
  /-- The rack has the groups that are described. -/
  group : ∀ name, (rack.group? name).isSome = (config.group? name).isSome
  /-- A group of the rack is the described one. -/
  kept : ∀ name group, rack.group? name = some group → Kept config session memory name group

/-- A group that is put into a rack under its name is found there, and every other name finds what
it found. -/
theorem Rack.group?_putGroup {rack : Rack} {name : String} {old group : Group}
    (found : rack.group? name = some old) (named : group.name = name) (other : String) :
    (rack.putGroup name group).group? other =
      if other = name then some group else rack.group? other := by
  obtain ⟨instruments, groups⟩ := rack
  change groups.find? (fun group => group.name == name) = some old at found
  change (replaceFirst name group groups).find? (fun group => group.name == other) =
    if other = name then some group else groups.find? fun group => group.name == other
  induction groups with
  | nil => simp at found
  | cons first rest ih =>
    unfold replaceFirst
    by_cases here : first.name = name
    · rw [if_pos (by simp [here])]
      by_cases same : other = name
      · simp [same, named]
      · have apart : ¬ name = other := Ne.symm same
        simp [same, named, here, apart]
    · rw [if_neg (by simp [here])]
      rw [List.find?_cons_of_neg (by simp [here])] at found
      by_cases hit : first.name = other
      · have apart : ¬ other = name := fun same => here (hit.trans same)
        simp [hit, apart]
      · rw [List.find?_cons_of_neg (by simp [hit]), List.find?_cons_of_neg (by simp [hit])]
        exact ih found

namespace Stocked

variable {config : RackConfig} {session : SessionId} {memory : Memory} {rack : Rack}

/-- Levels that are sent to channels leave a rack as it is. -/
theorem drive (stocked : Stocked config session memory rack) (value : Level)
    (addresses : List Address) :
    Stocked config session (memory.drive config value addresses) rack where
  instrument := stocked.instrument
  channel := stocked.channel
  group := stocked.group
  kept name group found := by
    have kept := stocked.kept name group found
    have same : (memory.drive config value addresses).level name = memory.level name := by
      unfold Memory.level
      rw [Memory.commanded_drive]
    exact ⟨kept.named, kept.level.trans same.symm, kept.members⟩

/-- A group that is commanded to a level remembers it in the rack as in the memory. -/
theorem note (stocked : Stocked config session memory rack) {name : String} {group : Group}
    (found : rack.group? name = some group) (value : Level) :
    Stocked config session (memory.note name value)
      (rack.putGroup name { group with lastCommanded := value }) := by
  have own := stocked.kept name group found
  let commanded : Group := { group with lastCommanded := value }
  have named : commanded.name = name := own.named
  have put := Rack.group?_putGroup found named
  refine ⟨stocked.instrument, stocked.channel, fun other => ?_, fun other kept present => ?_⟩
  · rw [put, ← stocked.group other]
    by_cases same : other = name
    · rw [if_pos same, same, found]
      rfl
    · rw [if_neg same]
  · rw [put] at present
    by_cases same : other = name
    · subst same
      rw [if_pos rfl] at present
      cases present
      exact ⟨own.named, by simp [Memory.level_note, commanded], own.members⟩
    · rw [if_neg same] at present
      have before := stocked.kept other kept present
      refine ⟨before.named, ?_, before.members⟩
      rw [Memory.level_note, if_neg same]
      exact before.level

end Stocked

namespace Wired

variable {config : RackConfig} {start bench : Bench} {memory : Memory} {name : String}
  {value : Level}

/-- A group whose channels all take a finite level is commanded to it, and they are sent it in
order. -/
theorem set_group_done (wired : Wired config start memory bench) {group : Group}
    (kept : Kept config start.nextSession memory name group) (finite : value.isFinite)
    (accepted : ∀ address ∈ config.members name, ¬ config.Refuses value address) :
    ∃ after, (group.set value).run bench =
        (.done { group with lastCommanded := value }, after) ∧
      Wired config start (memory.drive config value (config.members name)) after := by
  obtain ⟨middle, ran, next⟩ :=
    wired.commandFrom_done group finite (config.members name) accepted kept.members 0
  refine ⟨middle.record [.groupSet group.name group.size value], ?_, next.session,
    next.simulator⟩
  rw [Group.set, if_pos finite, Action.run_bind_done _ ran]
  rfl

/-- A level that is not finite, or that some channel of a group refuses, stops the group. -/
theorem set_group_fails (wired : Wired config start memory bench) {group : Group}
    (kept : Kept config start.nextSession memory name group)
    (refused : value.isFinite = false ∨
      ∃ address ∈ config.members name, config.Refuses value address) :
    ∃ stop after, (group.set value).run bench = (.failed stop, after) := by
  rw [Group.set]
  by_cases finite : value.isFinite
  case neg => exact ⟨_, _, by rw [if_neg finite]; rfl⟩
  rw [if_pos finite]
  rcases refused with infinite | some
  · exact absurd finite (by simp [infinite])
  · obtain ⟨stop, after, ran⟩ :=
      wired.commandFrom_fails group finite (config.members name) some kept.members 0
    exact ⟨stop, after, Action.run_bind_failed _ ran⟩

end Wired

/-- A list of actions that are done with the values that a function gives, and leave the bench
alone, is done with these values and leaves the bench alone. -/
theorem Action.mapM_runs {ε α β : Type} {action : α → Action ε β} {form : α → β} {bench : Bench}
    {items : List α} (each : ∀ item ∈ items, (action item).run bench = (.done (form item), bench)) :
    (items.mapM action).run bench = (.done (items.map form), bench) := by
  induction items with
  | nil => rfl
  | cons item rest ih =>
    have first := each item List.mem_cons_self
    have later := ih fun other member => each other (List.mem_cons_of_mem item member)
    rw [List.mapM_cons, Action.run_bind_done _ first, Action.run_bind_done _ later]
    rfl

namespace Rack

/-- What a listing says of the maximum of an instrument on a bench. -/
def maximumOn (bench : Bench) (instrument : RackInstrument) : String :=
  if (bench.session instrument.session).poisoned then
    "unavailable (" ++ SessionFault.poisoned.message ++ ")"
  else
    match (bench.simulator (bench.session instrument.session).simulator).maximum with
    | some maximum => Level.text maximum ++ " dB"
    | none => "unknown"

/-- The lines of an instrument in a listing on a bench. -/
def linesOn (bench : Bench) (instrument : RackInstrument) (position : Nat) : String :=
  s!"instrument {position}: max {maximumOn bench instrument}\n" ++
    String.join (instrument.attenuators.map listedAttenuator)

/-- The maximum of an instrument is listed, and nothing is done. -/
theorem run_listedMaximum {ε : Type} (instrument : RackInstrument) (bench : Bench) :
    (listedMaximum instrument : Action ε String).run bench =
      (.done (maximumOn bench instrument), bench) := by
  unfold listedMaximum maximumOn
  rw [Action.run_bind, Action.run_attempt, Session.run_maximum]
  by_cases poisoned : (bench.session instrument.session).poisoned
  · simp only [poisoned, ↓reduceIte]
    rfl
  · simp only [poisoned, Bool.false_eq_true, ↓reduceIte]
    cases (bench.simulator (bench.session instrument.session).simulator).maximum with
    | none => rfl
    | some maximum => rfl

/-- An instrument is listed, and nothing is done. -/
theorem run_listedInstrument {ε : Type} (instrument : RackInstrument) (position : Nat)
    (bench : Bench) :
    (listedInstrument instrument position : Action ε String).run bench =
      (.done (linesOn bench instrument position), bench) := by
  unfold listedInstrument
  rw [Action.run_bind_done _ (run_listedMaximum instrument bench)]
  rfl

/-- A rack is listed, and nothing is done. -/
theorem run_listing {ε : Type} (rack : Rack) (bench : Bench) :
    (rack.listing : Action ε String).run bench =
      (.done (Text.dropTrailingBlanks
        (String.join (rack.instruments.zipIdx.map fun entry => linesOn bench entry.1 entry.2) ++
          String.join (rack.groups.map listedGroup))), bench) := by
  have lines := Action.mapM_runs fun (entry : RackInstrument × Nat)
    (_ : entry ∈ rack.instruments.zipIdx) =>
      (run_listedInstrument entry.1 entry.2 bench :
        (listedInstrument entry.1 entry.2 : Action ε String).run bench = _)
  unfold listing
  rw [Action.run_bind_done _ lines]
  rfl

/-- The properties that an instrument of a rack has on a bench. -/
def infoOn (bench : Bench) (instrument : RackInstrument) : InstrumentInfo :=
  (bench.simulator (bench.session instrument.session).simulator).info

/-- A snapshot of a rack without poisoned sessions is taken, and nothing is done. -/
theorem run_status_of_free {rack : Rack} {bench : Bench}
    (free : ∀ instrument ∈ rack.instruments, (bench.session instrument.session).poisoned = false) :
    rack.status.run bench =
      (.done ⟨rack.instruments.map (infoOn bench), rack.groups.map groupStatus⟩, bench) := by
  have info (instrument : RackInstrument) (member : instrument ∈ rack.instruments) :
      ((Session.info instrument.session).mapFault fun fault =>
        RackFault.operation (.session fault)).run bench =
          (.done (infoOn bench instrument), bench) := by
    rw [Action.run_mapFault_outcome, Session.run_info, free instrument member]
    rfl
  unfold status
  rw [Action.run_bind_done _ (Action.mapM_runs info)]
  rfl

end Rack

/-- A bench and a rack remember. -/
structure Mirrors (config : RackConfig) (start : Bench) (memory : Memory) (rack : Rack)
    (bench : Bench) : Prop where
  /-- The bench remembers the raw levels. -/
  wired : Wired config start memory bench
  /-- The rack remembers the levels of its groups. -/
  stocked : Stocked config start.nextSession memory rack

namespace Mirrors

variable {config : RackConfig} {start bench : Bench} {memory : Memory} {rack : Rack}

/-- A described group is found in the rack. -/
theorem run_group (mirrors : Mirrors config start memory rack bench) {name : String}
    (described : (config.group? name).isSome) :
    ∃ group, rack.group? name = some group ∧
      Kept config start.nextSession memory name group ∧
      (Command.group rack name).run bench = (.done group, bench) := by
  rw [← mirrors.stocked.group name] at described
  obtain ⟨group, found⟩ := Option.isSome_iff_exists.mp described
  refine ⟨group, found, mirrors.stocked.kept name group found, ?_⟩
  unfold Command.group Rack.requireGroup
  rw [found]
  rfl

/-- A group that is not described is not found in the rack. -/
theorem run_group_missing (mirrors : Mirrors config start memory rack bench) {name : String}
    (missing : ¬ (config.group? name).isSome) :
    ∃ fault, (Command.group rack name).run bench = (.failed fault, bench) := by
  rw [← mirrors.stocked.group name] at missing
  have absent : rack.group? name = none := by simpa using missing
  unfold Command.group Rack.requireGroup
  rw [absent]
  exact ⟨_, rfl⟩

/-- A described channel is found in the rack. -/
theorem run_channel (mirrors : Mirrors config start memory rack bench) {instrument index : Nat}
    (described : (config.channel? (instrument, index)).isSome) :
    ∃ attenuator, config.attenuator? start.nextSession (instrument, index) = some attenuator ∧
      attenuator.describe = config.label (instrument, index) ∧
      (Command.channel rack instrument index).run bench = (.done attenuator, bench) := by
  obtain ⟨descriptor, found⟩ := Option.isSome_iff_exists.mp described
  have built : config.attenuator? start.nextSession (instrument, index) =
      some (descriptor.attenuator (start.nextSession + instrument) descriptor.model index) := by
    simp [RackConfig.attenuator?, found]
  refine ⟨_, built, ?_, ?_⟩
  · unfold RackConfig.label Attenuator.describe
    rw [found]
    rfl
  · unfold Command.channel
    rw [mirrors.stocked.channel, built]
    rfl

/-- A channel that is not described is not found in the rack. -/
theorem run_channel_missing (mirrors : Mirrors config start memory rack bench)
    {instrument index : Nat} (missing : ¬ (config.channel? (instrument, index)).isSome) :
    ∃ fault, (Command.channel rack instrument index).run bench = (.failed fault, bench) := by
  have absent : config.channel? (instrument, index) = none := by simpa using missing
  unfold Command.channel
  rw [mirrors.stocked.channel, RackConfig.attenuator?, absent]
  exact ⟨_, rfl⟩

/-- A snapshot is taken, and nothing is done. -/
theorem run_status (mirrors : Mirrors config start memory rack bench) :
    ∃ status, rack.status.run bench = (.done status, bench) := by
  refine ⟨_, Rack.run_status_of_free fun instrument member => ?_⟩
  obtain ⟨position, descriptor, described, same⟩ := mirrors.stocked.instrument instrument member
  rw [same, mirrors.wired.session position descriptor described]

/-- A command that names a group or a channel that is not described is not carried out. -/
theorem run_unnamed (mirrors : Mirrors config start memory rack bench) {command : Command}
    (missing : ¬ command.Names config) :
    ∃ fault after, (command.run rack).run bench = (.failed fault, after) := by
  have group {name : String} {α : Type} (next : Group → Action CommandFault α)
      (missing : ¬ (config.group? name).isSome) :
      ∃ fault after, (Command.group rack name >>= next).run bench = (.failed fault, after) := by
    obtain ⟨fault, ran⟩ := mirrors.run_group_missing missing
    exact ⟨fault, bench, Action.run_bind_failed next ran⟩
  have channel {instrument index : Nat} {α : Type} (next : Attenuator → Action CommandFault α)
      (missing : ¬ (config.channel? (instrument, index)).isSome) :
      ∃ fault after, (Command.channel rack instrument index >>= next).run bench =
        (.failed fault, after) := by
    obtain ⟨fault, ran⟩ := mirrors.run_channel_missing missing
    exact ⟨fault, bench, Action.run_bind_failed next ran⟩
  cases command with
  | list => exact absurd trivial missing
  | status => exact absurd trivial missing
  | get name => exact group _ missing
  | set name value => exact group _ missing
  | sync name => exact group _ missing
  | check name => exact group _ missing
  | getChannel instrument index => exact channel _ missing
  | setChannel instrument index value => exact channel _ missing

/-- A command of a level that is not finite, or that some channel refuses, is not carried out. -/
theorem run_refused (mirrors : Mirrors config start memory rack bench) {command : Command}
    (named : command.Names config) {value : Level} (known : command.value? memory = some value)
    (refused : value.isFinite = false ∨
      ∃ address ∈ command.addressed config, config.Refuses value address) :
    ∃ fault after, (command.run rack).run bench = (.failed fault, after) := by
  have group {name : String} {group : Group} (next : Group → Action CommandFault (String × Rack))
      (kept : Kept config start.nextSession memory name group)
      (refused : value.isFinite = false ∨
        ∃ address ∈ config.members name, config.Refuses value address) :
      ∃ fault after, ((group.set value).mapFault Command.stopped >>= next).run bench =
        (.failed fault, after) := by
    obtain ⟨stop, after, ran⟩ := mirrors.wired.set_group_fails kept refused
    have renamed : ((group.set value).mapFault Command.stopped).run bench =
        (.failed (Command.stopped stop), after) := by
      rw [Action.run_mapFault_outcome, ran]
      rfl
    exact ⟨_, after, Action.run_bind_failed next renamed⟩
  cases command with
  | set name level =>
    obtain rfl : level = value := Option.some.inj known
    obtain ⟨found, -, kept, ran⟩ := mirrors.run_group named
    rw [Command.run, Action.run_bind_done _ ran]
    exact group _ kept refused
  | sync name =>
    obtain rfl : memory.level name = value := Option.some.inj known
    obtain ⟨found, -, kept, ran⟩ := mirrors.run_group named
    rw [Command.run, Action.run_bind_done _ ran, Group.synchronize, kept.level]
    exact group _ kept refused
  | setChannel instrument index level =>
    obtain rfl : level = value := Option.some.inj known
    obtain ⟨attenuator, built, -, ran⟩ := mirrors.run_channel named
    have own : level.isFinite = false ∨ config.Refuses level (instrument, index) :=
      refused.imp_right fun ⟨address, inside, refuses⟩ => List.mem_singleton.mp inside ▸ refuses
    obtain ⟨fault, after, failed⟩ := mirrors.wired.set_fails built own
    have renamed : ((attenuator.set level).mapFault CommandFault.operation).run bench =
        (.failed (.operation fault), after) := by
      rw [Action.run_mapFault_outcome, failed]
      rfl
    rw [Command.run, Action.run_bind_done _ ran]
    exact ⟨_, after, Action.run_bind_failed _ renamed⟩
  | list => cases known
  | status => cases known
  | get name => cases known
  | check name => cases known
  | getChannel instrument index => cases known

/-- A command that fails by its description and the memory is not carried out. -/
theorem run_fails (mirrors : Mirrors config start memory rack bench) {command : Command}
    (fails : command.Fails config memory) :
    ∃ fault after, (command.run rack).run bench = (.failed fault, after) := by
  by_cases named : command.Names config
  case neg => exact mirrors.run_unnamed named
  rcases fails with missing | ⟨value, known, refused⟩
  · exact absurd named missing
  · exact mirrors.run_refused named known refused

/-- What holds of a command that does not fail by its description and the memory. -/
structure Passes (config : RackConfig) (memory : Memory) (command : Command) : Prop where
  /-- What it names is described. -/
  named : command.Names config
  /-- The level that it commands is finite. -/
  finite : ∀ value, command.value? memory = some value → value.isFinite
  /-- No channel that it commands refuses the level. -/
  accepted : ∀ value, command.value? memory = some value →
    ∀ address ∈ command.addressed config, ¬ config.Refuses value address

/-- A command passes when it does not fail. -/
theorem Passes.of_not_fails {command : Command} (sound : ¬ command.Fails config memory) :
    Passes config memory command where
  named := by
    by_contra missing
    exact sound (.inl missing)
  finite value known := by
    by_contra infinite
    exact sound (.inr ⟨value, known, .inl (Bool.eq_false_iff.mpr infinite)⟩)
  accepted value known address inside refuses :=
    sound (.inr ⟨value, known, .inr ⟨address, inside, refuses⟩⟩)

/-- A command is carried out, prints what the memory says, and leaves what the memory says. -/
def Performs (config : RackConfig) (start : Bench) (memory : Memory) (rack : Rack) (bench : Bench)
    (command : Command) : Prop :=
  ∃ output next after, (command.run rack).run bench = (.done (output, next), after) ∧
    (∀ text, command.answer? config memory = some text → output = text) ∧
    Mirrors config start (memory.step config command) next after

/-- A listing is printed, and nothing is done. -/
theorem list_performs (mirrors : Mirrors config start memory rack bench) :
    Performs config start memory rack bench .list :=
  ⟨_, rack, bench, Action.run_bind_done _ (Rack.run_listing rack bench), by simp [Command.answer?],
    mirrors⟩

/-- A snapshot is printed, and nothing is done. -/
theorem status_performs (mirrors : Mirrors config start memory rack bench) :
    Performs config start memory rack bench .status := by
  obtain ⟨status, ran⟩ := mirrors.run_status
  have renamed : (rack.status.mapFault CommandFault.rack).run bench = (.done status, bench) := by
    rw [Action.run_mapFault_outcome, ran]
    rfl
  exact ⟨status.text, rack, bench, Action.run_bind_done _ renamed, by simp [Command.answer?],
    mirrors⟩

/-- The remembered level of a group is printed, and nothing is done. -/
theorem get_performs (mirrors : Mirrors config start memory rack bench) {name : String}
    (passes : Passes config memory (.get name)) :
    Performs config start memory rack bench (.get name) := by
  obtain ⟨group, -, kept, ran⟩ := mirrors.run_group passes.named
  have carried : (Command.run rack (.get name)).run bench =
      (.done (name ++ ": " ++ Level.text (memory.level name) ++ " dB", rack), bench) := by
    rw [Command.run, Action.run_bind_done _ ran, kept.named, kept.level]
    rfl
  exact ⟨_, rack, bench, carried, fun text same => Option.some.inj same, mirrors⟩

/-- A group is set: its channels are driven, and the level is noted. -/
theorem set_performs (mirrors : Mirrors config start memory rack bench) {name : String}
    {value : Level} (passes : Passes config memory (.set name value)) :
    Performs config start memory rack bench (.set name value) := by
  obtain ⟨group, found, kept, ran⟩ := mirrors.run_group passes.named
  obtain ⟨after, commanded, wired⟩ :=
    mirrors.wired.set_group_done kept (passes.finite value rfl) (passes.accepted value rfl)
  have carried : (Command.run rack (.set name value)).run bench =
      (.done (name ++ ": set to " ++ Level.text value ++ " dB",
        rack.putGroup name { group with lastCommanded := value }), after) := by
    rw [Command.run, Action.run_bind_done _ ran]
    rw [Action.run_bind, Action.run_mapFault_outcome, commanded, ← kept.named]
    rfl
  exact ⟨_, _, after, carried, fun text same => Option.some.inj same,
    ⟨wired.session, wired.simulator⟩,
    (mirrors.stocked.drive value (config.members name)).note found value⟩

/-- A group is commanded again: its channels are driven, and it remembers what it did. -/
theorem sync_performs (mirrors : Mirrors config start memory rack bench) {name : String}
    (passes : Passes config memory (.sync name)) :
    Performs config start memory rack bench (.sync name) := by
  obtain ⟨group, found, kept, ran⟩ := mirrors.run_group passes.named
  obtain ⟨after, commanded, wired⟩ :=
    mirrors.wired.set_group_done kept (passes.finite _ rfl) (passes.accepted _ rfl)
  have unchanged : rack.putGroup name group = rack := by
    unfold Rack.putGroup
    rw [Rack.replaceFirst_self found]
  have own : { group with lastCommanded := memory.level name } = group := by rw [← kept.level]
  rw [own] at commanded
  have carried : (Command.run rack (.sync name)).run bench =
      (.done (name ++ ": re-commanded " ++ Level.text (memory.level name) ++ " dB", rack),
        after) := by
    rw [Command.run, Action.run_bind_done _ ran, Group.synchronize, kept.level]
    rw [Action.run_bind, Action.run_mapFault_outcome, commanded]
    change (Outcome.done (group.name ++ ": re-commanded " ++ Level.text group.lastCommanded ++
      " dB", rack.putGroup name group), after) = _
    rw [unchanged, kept.named, kept.level]
  exact ⟨_, rack, after, carried, fun text same => Option.some.inj same, wired,
    mirrors.stocked.drive (memory.level name) (config.members name)⟩

/-- The channels of a group are compared with its remembered level. -/
theorem check_performs (mirrors : Mirrors config start memory rack bench) {name : String}
    (passes : Passes config memory (.check name)) :
    Performs config start memory rack bench (.check name) := by
  obtain ⟨group, -, kept, ran⟩ := mirrors.run_group passes.named
  obtain ⟨after, compared, wired⟩ :=
    mirrors.wired.allRead_done (memory.level name) (config.members name) kept.members
  have carried : (Command.run rack (.check name)).run bench =
      (.done (name ++ ": " ++ (if memory.agrees config name then "synchronized"
        else "NOT synchronized"), rack), after) := by
    rw [Command.run, Action.run_bind_done _ ran, Group.isSynchronized, kept.level]
    rw [Action.run_bind, Action.run_mapFault_outcome, compared, kept.named]
    rfl
  exact ⟨_, rack, after, carried, fun text same => Option.some.inj same, wired, mirrors.stocked⟩

/-- The level of a channel is read. -/
theorem getChannel_performs (mirrors : Mirrors config start memory rack bench)
    {instrument index : Nat} (passes : Passes config memory (.getChannel instrument index)) :
    Performs config start memory rack bench (.getChannel instrument index) := by
  obtain ⟨attenuator, built, label, ran⟩ := mirrors.run_channel passes.named
  obtain ⟨after, read, wired⟩ := mirrors.wired.get_done built
  have carried : (Command.run rack (.getChannel instrument index)).run bench =
      (.done (config.label (instrument, index) ++ ": " ++
        Level.text (memory.reading config (instrument, index)) ++ " dB", rack), after) := by
    rw [Command.run, Action.run_bind_done _ ran]
    rw [Action.run_bind, Action.run_mapFault_outcome, read, label]
    rfl
  exact ⟨_, rack, after, carried, fun text same => Option.some.inj same, wired, mirrors.stocked⟩

/-- A channel is set: it is driven, and no level of a group is noted. -/
theorem setChannel_performs (mirrors : Mirrors config start memory rack bench)
    {instrument index : Nat} {value : Level}
    (passes : Passes config memory (.setChannel instrument index value)) :
    Performs config start memory rack bench (.setChannel instrument index value) := by
  obtain ⟨attenuator, built, label, ran⟩ := mirrors.run_channel passes.named
  obtain ⟨after, commanded, wired⟩ := mirrors.wired.set_done built (passes.finite value rfl)
    (passes.accepted value rfl _ List.mem_cons_self)
  have carried : (Command.run rack (.setChannel instrument index value)).run bench =
      (.done (config.label (instrument, index) ++ ": set to " ++ Level.text value ++ " dB",
        rack), after) := by
    rw [Command.run, Action.run_bind_done _ ran]
    rw [Action.run_bind, Action.run_mapFault_outcome, commanded, label]
    rfl
  exact ⟨_, rack, after, carried, fun text same => Option.some.inj same, wired,
    mirrors.stocked.drive value [(instrument, index)]⟩

/-- A command that does not fail by its description and the memory is carried out, prints what the
memory says, and leaves what the memory says. -/
theorem run_done (mirrors : Mirrors config start memory rack bench) {command : Command}
    (sound : ¬ command.Fails config memory) :
    Performs config start memory rack bench command := by
  have passes := Passes.of_not_fails sound
  cases command with
  | list => exact mirrors.list_performs
  | status => exact mirrors.status_performs
  | get name => exact mirrors.get_performs passes
  | set name value => exact mirrors.set_performs passes
  | sync name => exact mirrors.sync_performs passes
  | check name => exact mirrors.check_performs passes
  | getChannel instrument index => exact mirrors.getChannel_performs passes
  | setChannel instrument index value => exact mirrors.setChannel_performs passes

end Mirrors

namespace Catalog

/-- Every driver of a catalog is the one of a simulated instrument. -/
def Simulates (catalog : Catalog) : Prop :=
  ∀ model transport factory, catalog.resolve model transport = some factory →
    factory = simulatedDriver

/-- A catalog that simulates makes the simulated instrument of a descriptor. -/
theorem Simulates.create {catalog : Catalog} (simulates : catalog.Simulates)
    {descriptor : InstrumentConfig} {driver : Driver}
    (made : catalog.create descriptor = .ok driver) :
    driver = ⟨descriptor.simulatorConfig, Trap.none, false⟩ := by
  unfold Catalog.create at made
  cases found : catalog.resolve descriptor.model descriptor.transport with
  | none =>
    rw [found] at made
    by_cases simulated : descriptor.transport = .simulated
    · rw [if_pos simulated] at made
      exact (Except.ok.inj made).symm
    · rw [if_neg simulated] at made
      cases made
  | some factory =>
    rw [found, simulates _ _ factory found] at made
    exact (Except.ok.inj made).symm

/-- The catalog of the simulated models simulates. -/
theorem simulated_done {ε : Type} (bench : Bench) :
    ∃ catalog after, (Catalog.simulated : Action ε Catalog).run bench = (.done catalog, after) ∧
      catalog.Simulates := by
  obtain ⟨catalog, after, ran, remembers⟩ := run_simulated (ε := ε) bench
  refine ⟨catalog, after, ran, fun model transport factory found => ?_⟩
  obtain ⟨earlier, later, split, -⟩ := (remembers.latest ⟨model, transport⟩ factory).mp found
  have inside : ⟨⟨model, transport⟩, factory⟩ ∈ Origin.simulated.registered := by
    rw [split]
    exact List.mem_append_right _ List.mem_cons_self
  obtain ⟨pair, -, same⟩ := List.mem_map.mp inside
  cases same
  rfl

end Catalog

namespace Rack

variable {config : RackConfig} {catalog : Catalog} {bench after : Bench} {rack : Rack}

/-- The groups of a rack are found under the names of their descriptions. -/
theorem find_grouped {instruments : List RackInstrument} {descriptions : List GroupConfig}
    {groups : List Group} (grouped : List.Forall₂ (Grouped instruments) descriptions groups)
    (name : String) :
    Option.Rel (Grouped instruments) (descriptions.find? fun group => group.name == name)
      (groups.find? fun group => group.name == name) := by
  induction grouped with
  | nil => exact .none
  | cons first rest ih =>
    rw [List.find?_cons, List.find?_cons, first.name]
    split
    · exact .some first
    · exact ih

/-- The attenuators of an assembled rack are those of the described channels. -/
theorem Assembled.channel (assembled : Assembled config catalog bench rack after)
    (simulates : catalog.Simulates) (instrument index : Nat) :
    rack.attenuator? instrument index =
      config.attenuator? bench.nextSession (instrument, index) := by
  unfold attenuator? channelOf? RackConfig.attenuator? RackConfig.channel?
  cases described : config.instruments[instrument]? with
  | none =>
    rw [assembled.equipped.missing described]
    rfl
  | some descriptor =>
    obtain ⟨driver, made, -, placed, -⟩ :=
      assembled.equipped.placed instrument descriptor described
    rw [placed, simulates.create made]
    by_cases inside : index < descriptor.channelCount.toNat
    · simp [InstrumentConfig.assembled, inside, InstrumentConfig.simulatorConfig]
    · simp [InstrumentConfig.assembled, inside, Nat.le_of_not_lt inside]

/-- A rack that was just built of simulated instruments remembers nothing. -/
theorem Assembled.mirrors (assembled : Assembled config catalog bench rack after)
    (simulates : catalog.Simulates) : Mirrors config bench Memory.empty rack after := by
  refine ⟨⟨?_, ?_⟩, ?_, assembled.channel simulates, ?_, ?_⟩
  · intro position descriptor described
    obtain ⟨driver, made, -, -, session, -⟩ :=
      assembled.equipped.placed position descriptor described
    rw [session, simulates.create made]
  · intro position descriptor described
    obtain ⟨driver, made, -, -, -, simulator⟩ :=
      assembled.equipped.placed position descriptor described
    refine ⟨[], ?_⟩
    rw [simulator, simulates.create made]
    simp [Simulator.ofConfig, InstrumentConfig.simulatorConfig, Memory.raw, Memory.empty]
  · intro instrument member
    obtain ⟨position, found⟩ := List.mem_iff_getElem?.mp member
    obtain ⟨descriptor, described⟩ := assembled.equipped.exists_descriptor found
    obtain ⟨driver, made, -, placed, -⟩ :=
      assembled.equipped.placed position descriptor described
    refine ⟨position, descriptor, described, ?_⟩
    rw [Option.some.inj (found.symm.trans placed)]
    rfl
  · intro name
    have related : Option.Rel (Grouped rack.instruments) (config.group? name)
      (rack.group? name) := find_grouped assembled.grouped name
    generalize config.group? name = described at related ⊢
    generalize rack.group? name = found at related ⊢
    cases related with
    | none => rfl
    | some grouped => rfl
  · intro name group found
    have named : group.name = name := by
      have := List.find?_some found
      simpa using this
    have related : Option.Rel (Grouped rack.instruments) (config.group? name)
      (rack.group? name) := find_grouped assembled.grouped name
    rw [found] at related
    cases described : config.group? name with
    | none =>
      rw [described] at related
      cases related
    | some description =>
      rw [described] at related
      cases related with
      | some grouped =>
        refine ⟨named, grouped.idle, ?_⟩
        rw [grouped.members, RackConfig.members, described, Option.map_some, Option.getD_some,
          List.map_map]
        exact List.map_congr_left fun reference _ => assembled.channel simulates _ _

end Rack

namespace CommandLine

/-- The rack on which a run of the program carries out its commands. -/
def rackOf (config : RackConfig) : Action RunFault Rack := do
  let catalog ← Catalog.simulated
  (Rack.build config catalog).mapFault .notBuilt

/-- A run of the program builds its rack and carries out its commands on it. -/
theorem operate_eq (config : RackConfig) (commands : List Command) :
    operate config commands = rackOf config >>= fun rack => Command.runAll rack commands := by
  unfold operate rackOf
  rw [Action.bind_bind]

/-- The rack of a run of the program remembers nothing at first. -/
theorem rackOf_mirrors {config : RackConfig} {bench after : Bench} {rack : Rack}
    (built : (rackOf config).run bench = (.done rack, after)) :
    ∃ start, Mirrors config start Memory.empty rack after := by
  unfold rackOf at built
  obtain ⟨catalog, start, listed, built⟩ := Action.run_bind_eq_done.mp built
  obtain ⟨other, registered, ran, simulates⟩ := Catalog.simulated_done (ε := RunFault) bench
  obtain ⟨rfl, rfl⟩ : other = catalog ∧ registered = start := by
    have same := ran.symm.trans listed
    simpa using same
  rw [Action.run_mapFault_outcome] at built
  have built : (Rack.build config other).run registered = (.done rack, after) := by
    cases ended : (Rack.build config other).run registered with
    | mk outcome last =>
      rw [ended] at built
      cases outcome with
      | done value =>
        cases built
        rfl
      | failed fault => cases built
      | crashed => cases built
  exact ⟨registered, (Rack.assembled_of_done built).mirrors simulates⟩

end CommandLine

namespace Command

/-- What carrying out commands on a rack that remembers gives. -/
structure Transcript.Follows (transcript : Transcript) (config : RackConfig) (memory : Memory)
    (commands : List Command) : Prop where
  /-- There are no more outputs than commands. -/
  length : transcript.outputs.length ≤ commands.length
  /-- A command that has an output did not fail, and its output is what the memory that the
  commands in front of it left says. -/
  output : ∀ (position : Nat) (command : Command) (output : String),
    commands[position]? = some command → transcript.outputs[position]? = some output →
    ¬ command.Fails config (memory.after config (commands.take position)) ∧
      ∀ text, command.answer? config (memory.after config (commands.take position)) = some text →
        output = text
  /-- Either every command has an output, or the first one without an output fails. -/
  ending : (transcript.outputs.length = commands.length ∧ transcript.ending = .completed) ∨
    ∃ command fault, commands[transcript.outputs.length]? = some command ∧
      transcript.ending = .failed fault ∧
      command.Fails config (memory.after config (commands.take transcript.outputs.length))

variable {config : RackConfig} {start bench : Bench} {memory : Memory} {rack : Rack}

/-- Commands that are carried out on a rack that remembers follow the memory. -/
theorem runAll_follows {ε : Type} (mirrors : Mirrors config start memory rack bench)
    (commands : List Command) :
    ∃ transcript after, (runAll rack commands : Action ε Transcript).run bench =
        (.done transcript, after) ∧ transcript.Follows config memory commands := by
  induction commands generalizing memory rack bench with
  | nil =>
    exact ⟨⟨[], rack, .completed⟩, bench, rfl, Nat.le_refl 0, by simp, .inl ⟨rfl, rfl⟩⟩
  | cons command rest ih =>
    by_cases fails : command.Fails config memory
    · obtain ⟨fault, after, ran⟩ := mirrors.run_fails fails
      have observed : ((command.run rack).observe : Action ε _).run bench = _ :=
        Action.run_observe (command.run rack) bench
      rw [ran] at observed
      refine ⟨⟨[], rack, .failed fault⟩, after, ?_, by simp, by simp, .inr ⟨command, fault, rfl,
        rfl, fails⟩⟩
      rw [runAll, Action.run_bind_done _ observed]
      rfl
    · obtain ⟨output, next, middle, ran, said, mirrored⟩ := mirrors.run_done fails
      have observed : ((command.run rack).observe : Action ε _).run bench = _ :=
        Action.run_observe (command.run rack) bench
      rw [ran] at observed
      obtain ⟨later, after, ranLater, follows⟩ := ih mirrored
      refine ⟨{ later with outputs := output :: later.outputs }, after, ?_, ?_, ?_, ?_⟩
      · rw [runAll, Action.run_bind_done _ observed]
        exact Action.run_bind_done _ ranLater
      · simpa using follows.length
      · intro position other text found present
        cases position with
        | zero =>
          obtain rfl : command = other := by simpa using found
          obtain rfl : output = text := by simpa using present
          exact ⟨fails, said⟩
        | succ position => exact follows.output position other text found present
      · rcases follows.ending with ⟨length, completed⟩ | ⟨other, fault, found, failed, fails⟩
        · exact .inl ⟨by simpa using length, completed⟩
        · exact .inr ⟨other, fault, found, failed, fails⟩

end Command

namespace Command

end Command

namespace CommandLine

end CommandLine

end Attenuation
