import Attenuation.Proofs.Assembly
import Attenuation.Proofs.CommandConduct
import Attenuation.Proofs.Consistency
import Attenuation.Proofs.SimulatorHistory

/-!
# The history of a rack

A rack that was built is changed by the commands that are carried out on it and by the groups that
are taken out, while the bench changes under it by whatever else is done there. All of its history
leaves it as it was described: the instruments are the ones of the description, in order, and the
groups are the ones that were not taken, in order, with the members that are described and with a
finite level remembered.
-/

namespace Attenuation

namespace RackConfig

/-- The groups of a description that is checked have distinct names. -/
theorem nodup_of_validate {config : RackConfig} (checked : config.validate = .ok ()) :
    (config.groups.map GroupConfig.name).Nodup :=
  List.pairwise_map.mpr (consistent_of_validate checked).names

/-- The groups of a description but for those that were taken. -/
def remaining (config : RackConfig) (taken : List String) : List GroupConfig :=
  config.groups.filter fun description => description.name ∉ taken

/-- The groups that remain of a description have distinct names where all of its groups do. -/
theorem nodup_remaining {config : RackConfig}
    (distinct : (config.groups.map GroupConfig.name).Nodup) (taken : List String) :
    ((config.remaining taken).map GroupConfig.name).Nodup :=
  (List.filter_sublist.map GroupConfig.name).nodup distinct

end RackConfig

namespace Command

/-- The rack that a caller has after a command: the one that the command leaves when it is carried
out, and the one that it had otherwise. -/
def rackLeft (command : Command) (rack : Rack) (bench : Bench) : Rack :=
  match ((command.run rack).run bench).1 with
  | .done (_, after) => after
  | .failed _ => rack
  | .crashed => rack

/-- A group is set in the rack only to a finite level. -/
theorem set_yields {rack : Rack} {bench : Bench} (all : rack.All bench.Calibrated) (name : String)
    (level : Level) :
    ((Command.set name level).run rack).Yields
      (Bench.Evolves ((Command.set name level).footprint rack).Allows) bench fun answer _ =>
        ∃ group, rack.group? name = some group ∧ level.isFinite ∧
          answer.2 = rack.putGroup name { group with lastCommanded := level } := by
  refine (group_yields rack name).bind fun group here _ => ?_
  rintro ⟨rfl, found⟩
  have members := all.groups group (Rack.group?_mem found)
  have sort (member : Attenuator) (inside : member ∈ group.members) :
      ((Command.set name level).footprint rack).Allows (.set member level) :=
    ⟨group, found, inside, rfl⟩
  have commanded := Group.set_yields (Command.footprint (.set name level) rack).allows_quiet
    members sort
  refine (commanded.mapFault stopped).bind fun result _ _ => ?_
  rintro ⟨finite, rfl⟩
  exact .pure ⟨group, found, finite, rfl⟩

/-- A command leaves the rack alone, unless it sets a group: then the group remembers the level,
which is finite. -/
theorem rackLeft_cases {rack : Rack} {bench : Bench} (calibrated : rack.All bench.Calibrated)
    (command : Command) :
    command.rackLeft rack bench = rack ∨
      ∃ name level group, command = .set name level ∧ rack.group? name = some group ∧
        level.isFinite ∧
        command.rackLeft rack bench = rack.putGroup name { group with lastCommanded := level } := by
  have left := (run_yields calibrated command).2
  unfold rackLeft
  cases ended : ((command.run rack).run bench).1 with
  | failed fault => exact .inl rfl
  | crashed => exact .inl rfl
  | done answer =>
    have same := left answer ended
    cases command with
    | set name level =>
      obtain ⟨group, found, finite, put⟩ := (set_yields calibrated name level).2 answer ended
      exact .inr ⟨name, level, group, rfl, found, finite, put⟩
    | _ => exact .inl same

end Command

/-- A touch leaves the model alone. -/
theorem Simulator.model_touch (simulator : Simulator) (one : Touch) :
    (simulator.touch one).model = simulator.model := by
  cases one with
  | call made =>
    cases made with
    | set index value => rw [touch, set_simulator]
    | get index => rw [touch, get_simulator]
  | adjust adjustment => cases adjustment <;> rfl

/-- Whatever is done on a bench, an instrument has the model that it had. -/
theorem Bench.Evolves.model {allowed : Deed → Prop} {before after : Bench}
    (evolved : before.Evolves allowed after) {id : SimulatorId}
    (inside : id < before.nextSimulator) :
    (after.simulator id).model = (before.simulator id).model := by
  induction evolved with
  | refl => rfl
  | @tail between after earlier move ih =>
    obtain ⟨deed, -, -, rfl⟩ := move
    have grown : before.Extends between := Bench.Evolves.grown earlier
    rw [Bench.simulator_perform (Nat.lt_of_lt_of_le inside grown.simulators) deed, ← ih]
    cases deed.touch? between id with
    | none => rfl
    | some one => exact Simulator.model_touch _ one

namespace Rack

/-- The history of a rack that is built from a description with a catalog: which groups were taken,
oldest first, and the rack and the bench that it leaves. -/
inductive History (config : RackConfig) (catalog : Catalog) :
    List String → Rack → Bench → Prop where
  /-- The rack is built. -/
  | built {before after : Bench} {rack : Rack}
    (ran : (build config catalog).run before = (.done rack, after)) :
    History config catalog [] rack after
  /-- A command is carried out on the rack, or fails, or crashes. -/
  | commanded {taken : List String} {rack : Rack} {bench : Bench} (command : Command)
    (earlier : History config catalog taken rack bench) :
    History config catalog taken (command.rackLeft rack bench) ((command.run rack).run bench).2
  /-- A group is taken out of the rack. -/
  | took {taken : List String} {rack left : Rack} {bench : Bench} {name : String} {group : Group}
    (earlier : History config catalog taken rack bench)
    (found : rack.takeGroup? name = some (group, left)) :
    History config catalog (taken ++ [name]) left bench
  /-- Something else is done on the bench, also through handles of the rack that others hold. -/
  | meanwhile {taken : List String} {rack : Rack} {bench after : Bench}
    (earlier : History config catalog taken rack bench)
    (evolved : bench.Evolves (fun _ => True) after) :
    History config catalog taken rack after

/-- An instrument of a rack is the one that a descriptor describes: its session is open, and behind
it is what the driver of the descriptor brought along. -/
structure Connected (catalog : Catalog) (bench : Bench) (descriptor : InstrumentConfig)
    (instrument : RackInstrument) : Prop where
  /-- The session is open. -/
  isOpen : bench.IsOpen instrument.session
  /-- The instrument reports the model and the channels that its driver brought along, and these
  are the channels that are described. -/
  driver : ∃ driver, catalog.create descriptor = .ok driver ∧
    (bench.simulator (bench.session instrument.session).simulator).model =
      driver.instrument.model ∧
    (bench.simulator (bench.session instrument.session).simulator).channelCount =
      descriptor.channelCount.toNat

/-- A group of a rack is the one that is described, whatever level it was commanded to. -/
structure Formed (instruments : List RackInstrument) (description : GroupConfig) (group : Group) :
    Prop where
  /-- The group has the name of its description. -/
  name : group.name = description.name
  /-- The members are the channels of the references, in order. -/
  members : group.members.map some = description.members.map fun reference =>
    channelOf? instruments reference.instrument.toNat reference.index.toNat
  /-- The remembered level is finite. -/
  finite : group.lastCommanded.isFinite

/-- A rack is as it was described, but for the groups that were taken. -/
structure AsDescribed (config : RackConfig) (catalog : Catalog) (taken : List String) (rack : Rack)
    (bench : Bench) : Prop where
  /-- The description names no two groups alike. -/
  distinct : (config.groups.map GroupConfig.name).Nodup
  /-- Every attenuator is calibrated. -/
  calibrated : rack.All bench.Calibrated
  /-- The instruments are those of the description, in order. -/
  instruments : List.Forall₂ (Connected catalog bench) config.instruments rack.instruments
  /-- The groups are those of the description that were not taken, in order. -/
  groups : List.Forall₂ (Formed rack.instruments) (config.remaining taken) rack.groups

/-- An instrument stays as it was described, whatever is done on the bench. -/
theorem Connected.evolve {catalog : Catalog} {bench after : Bench} {descriptor : InstrumentConfig}
    {instrument : RackInstrument} {allowed : Deed → Prop}
    (connected : Connected catalog bench descriptor instrument)
    (evolved : bench.Evolves allowed after) : Connected catalog after descriptor instrument := by
  obtain ⟨isOpen, driver, made, model, channels⟩ := connected
  refine ⟨evolved.grown.isOpen isOpen, driver, made, ?_, ?_⟩
  · rw [evolved.grown.wiring _ isOpen.1, evolved.model isOpen.2, model]
  · rw [evolved.grown.wiring _ isOpen.1, evolved.grown.channels _ isOpen.2, channels]

section Groups

variable {instruments : List RackInstrument} {descriptions : List GroupConfig}
  {groups : List Group}

/-- A group that is put in the place of one that is described alike is described alike. -/
theorem formed_replaceFirst {name : String} {group changed : Group}
    (formed : List.Forall₂ (Formed instruments) descriptions groups)
    (found : (groups.find? fun group => group.name == name) = some group)
    (alike : ∀ description, Formed instruments description group →
      Formed instruments description changed) :
    List.Forall₂ (Formed instruments) descriptions (replaceFirst name changed groups) := by
  induction formed with
  | nil => exact .nil
  | @cons description first descriptions groups own others ih =>
    unfold replaceFirst
    by_cases here : first.name == name
    · rw [List.find?_cons_of_pos (by exact here)] at found
      cases found
      rw [if_pos here]
      exact .cons (alike description own) others
    · rw [List.find?_cons_of_neg (by exact here)] at found
      rw [if_neg here]
      exact .cons own (ih found)

/-- Without the group of a name, the others are as they are described. -/
theorem formed_eraseP {name : String}
    (formed : List.Forall₂ (Formed instruments) descriptions groups)
    (distinct : (descriptions.map GroupConfig.name).Nodup) :
    List.Forall₂ (Formed instruments)
      (descriptions.filter fun description => description.name ≠ name)
      (groups.eraseP fun group => group.name == name) := by
  induction formed with
  | nil => exact .nil
  | @cons description group descriptions groups own others ih =>
    rw [List.map_cons, List.nodup_cons] at distinct
    by_cases here : description.name = name
    · have none : ∀ other ∈ descriptions, other.name ≠ name := by
        rintro other inside rfl
        exact distinct.1 (here ▸ List.mem_map_of_mem inside)
      have hit : (group.name == name) = true := by simp [own.name, here]
      rw [List.eraseP_cons_of_pos (by exact hit), List.filter_cons_of_neg (by simp [here]),
        List.filter_eq_self.mpr (by simpa using none)]
      exact others
    · have missed : ¬ (group.name == name) = true := by simp [own.name, here]
      rw [List.eraseP_cons_of_neg (by exact missed), List.filter_cons_of_pos (by simp [here])]
      exact .cons own (ih distinct.2)

end Groups

variable {config : RackConfig} {catalog : Catalog} {taken : List String} {rack : Rack}
  {bench after : Bench}

/-- A group that is taken is no longer one of those that remain. -/
theorem remaining_append (config : RackConfig) (taken : List String) (name : String) :
    config.remaining (taken ++ [name]) =
      (config.remaining taken).filter fun description => description.name ≠ name := by
  unfold RackConfig.remaining
  rw [List.filter_filter]
  refine List.filter_congr fun description _ => ?_
  by_cases same : description.name = name
  · simp [same]
  · simp [same]

namespace AsDescribed

/-- A rack stays as described, whatever is done on the bench. -/
theorem evolve {allowed : Deed → Prop} (described : rack.AsDescribed config catalog taken bench)
    (evolved : bench.Evolves allowed after) : rack.AsDescribed config catalog taken after where
  distinct := described.distinct
  calibrated := described.calibrated.imp fun _ calibrated => evolved.calibrated calibrated
  instruments := described.instruments.imp fun _ _ connected => connected.evolve evolved
  groups := described.groups

/-- A rack that is built is as described. -/
theorem built {before : Bench} (ran : (build config catalog).run before = (.done rack, after)) :
    rack.AsDescribed config catalog [] after := by
  obtain ⟨equipped, grouped⟩ := assembled_of_done ran
  have checked : config.validate = .ok () := by
    obtain ⟨⟨⟩, middle, checked, -⟩ := Action.run_bind_eq_done.mp ran
    rw [Action.run_mapFault_outcome, Action.run_ofExcept] at checked
    cases valid : config.validate with
    | ok => rfl
    | error fault =>
      rw [valid] at checked
      cases checked
  have calibrated : rack.Built after := by
    have contract : (build config catalog).Yields (Bench.Evolves fun _ => True) before Built :=
      build_yields (fun _ _ => trivial) (fun _ _ => trivial) config catalog
    have held := contract.2 rack (by rw [ran])
    rwa [ran] at held
  refine ⟨RackConfig.nodup_of_validate checked, calibrated.all, ?_, ?_⟩
  · refine List.forall₂_iff_get.mpr ⟨equipped.length.symm, fun position inside present => ?_⟩
    obtain ⟨driver, made, matching, placed, session, simulator⟩ :=
      equipped.placed position _ (List.getElem?_eq_getElem inside)
    have same := Option.some.inj ((List.getElem?_eq_getElem present).symm.trans placed)
    have own : (after.session rack.instruments[position].session) =
        ⟨before.nextSimulator + position, driver.trap, false⟩ := by
      rw [same]
      exact session
    refine ⟨⟨?_, ?_⟩, driver, made, ?_, ?_⟩
    · rw [List.get_eq_getElem, same, equipped.nextSession]
      exact Nat.add_lt_add_left inside _
    · rw [List.get_eq_getElem, own, equipped.nextSimulator]
      exact Nat.add_lt_add_left inside _
    · rw [List.get_eq_getElem, own, simulator]
      rfl
    · rw [List.get_eq_getElem, own, simulator]
      exact matching
  · have all : config.remaining [] = config.groups := List.filter_eq_self.mpr (by simp)
    rw [all]
    refine grouped.imp fun description group formed => ⟨formed.name, formed.members, ?_⟩
    rw [formed.idle]
    decide

/-- A command leaves a rack as described. -/
theorem commanded (described : rack.AsDescribed config catalog taken bench) (command : Command) :
    (command.rackLeft rack bench).AsDescribed config catalog taken
      ((command.run rack).run bench).2 := by
  have later := described.evolve (command.run_yields described.calibrated).1
  rcases command.rackLeft_cases described.calibrated with
    same | ⟨name, level, group, -, found, finite, put⟩
  · rw [same]
    exact later
  · rw [put]
    refine ⟨later.distinct, ?_, later.instruments, ?_⟩
    · have members := later.calibrated.groups group (group?_mem found)
      exact later.calibrated.putGroup name members
    · exact formed_replaceFirst later.groups found fun description formed =>
        ⟨formed.name, formed.members, finite⟩

/-- A rack from which a group is taken is as described. -/
theorem took {left : Rack} {name : String} {group : Group}
    (described : rack.AsDescribed config catalog taken bench)
    (found : rack.takeGroup? name = some (group, left)) :
    left.AsDescribed config catalog (taken ++ [name]) bench := by
  have calibrated := (described.calibrated.takeGroup? found).2
  obtain ⟨other, -, taking⟩ := Option.bind_eq_some_iff.mp found
  cases taking
  refine ⟨described.distinct, calibrated, described.instruments, ?_⟩
  rw [remaining_append]
  exact formed_eraseP described.groups (RackConfig.nodup_remaining described.distinct taken)

end AsDescribed

/-- **History leaves a rack as described.** -/
theorem History.asDescribed (history : History config catalog taken rack bench) :
    rack.AsDescribed config catalog taken bench := by
  induction history with
  | built ran => exact .built ran
  | commanded command earlier ih => exact ih.commanded command
  | took earlier found ih => exact ih.took found
  | meanwhile earlier evolved ih => exact ih.evolve evolved

end Rack

end Attenuation
