import Attenuation.CommandLine
import Attenuation.Proofs.Conduct

/-!
# The conduct of racks and commands

Building a rack connects drivers and creates calibrated attenuators, of which the groups are made.
A command asks and reads only what its footprint names, and the rack that it leaves is a function
of the rack that it was given.
-/

namespace Attenuation

variable {allowed : Deed → Prop} {bench : Bench}

/-- A connected driver has an open session. -/
theorem Bench.connect_evolves (connects : ∀ deed, deed.IsConnection → allowed deed)
    (bench : Bench) (driver : Driver) :
    bench.Evolves allowed (bench.connect driver).2 ∧
      (bench.connect driver).2.IsOpen (bench.connect driver).1 := by
  have added : bench.Evolves allowed (bench.addSimulator driver.instrument).2 :=
    .single (.addSimulator driver.instrument) (connects _ trivial) trivial
  have opens (here : Bench) (present : bench.nextSimulator < here.nextSimulator) :
      here.Evolves allowed (here.openSession bench.nextSimulator driver.trap).2 :=
    .single (.openSession bench.nextSimulator driver.trap) (connects _ trivial) present
  unfold connect
  by_cases probed : driver.probed
  · simp only [probed, ↓reduceIte]
    have reachable := Evolves.single (.probe bench.nextSimulator) (connects _ trivial)
      (show Deed.Possible (bench.addSimulator driver.instrument).2 _ from trivial)
    refine ⟨(added.trans reachable).trans (opens _ (Nat.lt_succ_self _)), Nat.lt_succ_self _, ?_⟩
    simp [openSession, addSimulator, session]
  · simp only [probed, Bool.false_eq_true, ↓reduceIte]
    refine ⟨added.trans (opens _ (Nat.lt_succ_self _)), Nat.lt_succ_self _, ?_⟩
    simp [openSession, addSimulator, session]

/-- The session of a connected descriptor is open. -/
theorem Catalog.connect_yields (connects : ∀ deed, deed.IsConnection → allowed deed)
    (catalog : Catalog) (config : InstrumentConfig) :
    (catalog.connect config).Yields (Bench.Evolves allowed) bench fun session after =>
      after.IsOpen session := by
  unfold connect
  refine (Action.Yields.ofExcept_keeps (catalog.create config)).bind
    fun driver between _ _ => ?_
  obtain ⟨evolved, opened⟩ := Bench.connect_evolves connects between driver
  exact .modifyGet evolved opened

namespace Rack

/-- A channel among instruments is an attenuator of one of them. -/
theorem channelOf?_mem {instruments : List RackInstrument} {instrument index : Nat}
    {attenuator : Attenuator} (found : channelOf? instruments instrument index = some attenuator) :
    ∃ source ∈ instruments, attenuator ∈ source.attenuators := by
  unfold channelOf? at found
  obtain ⟨source, present, channel⟩ := Option.bind_eq_some_iff.mp found
  exact ⟨source, List.mem_of_getElem? present, List.mem_of_getElem? channel⟩

/-- The attenuator of a channel is created calibrated, with its path or without. -/
theorem buildAttenuator_yields (config : InstrumentConfig) {session : SessionId}
    (opened : bench.IsOpen session) (index : Nat) :
    (buildAttenuator config session index).Yields (Bench.Evolves allowed) bench
      fun attenuator after => after.Calibrated attenuator := by
  have created : (Attenuator.create session index (config.offset index)).Yields
      (Bench.Evolves allowed) bench fun attenuator after =>
        after = bench ∧ bench.Calibrated attenuator :=
    Attenuator.create_yields opened index (config.offset index)
  refine (created.mapFault RackFault.operation).bind fun attenuator between _ => ?_
  rintro ⟨rfl, calibrated⟩
  cases config.path index with
  | none => exact .pure calibrated
  | some path => exact .pure ⟨calibrated.isOpen, calibrated.channel, calibrated.offset⟩

/-- The attenuators of a connected instrument are calibrated. -/
theorem buildInstrument_yields (quiet : ∀ deed, deed.IsQuiet → allowed deed)
    (connects : ∀ deed, deed.IsConnection → allowed deed) (catalog : Catalog)
    (config : InstrumentConfig) :
    (buildInstrument catalog config).Yields (Bench.Evolves allowed) bench
      fun instrument after =>
        ∀ attenuator ∈ instrument.attenuators, after.Calibrated attenuator := by
  unfold buildInstrument
  refine (Catalog.connect_yields connects catalog config).bind fun session opened _ isOpen => ?_
  have reported : (Session.channelCount session).Yields (Bench.Evolves allowed) opened
      fun _ after => after = opened :=
    (Session.info_yields session).bind fun info after _ ⟨same, _⟩ => .pure same
  refine (reported.mapFault fun fault => RackFault.operation (.session fault)).bind
    fun count after _ same => ?_
  subst same
  by_cases matching : count = config.channelCount.toNat
  case neg =>
    rw [if_neg matching]
    exact .fail _ _
  rw [if_pos matching]
  refine (Action.Yields.mapM (fun attenuator here => here.Calibrated attenuator)
    (fun _ _ _ evolved calibrated => evolved.calibrated calibrated) _
    fun index _ between evolved =>
      buildAttenuator_yields config (evolved.grown.isOpen isOpen) index).bind
    fun attenuators between _ calibrated => ?_
  refine (Action.emit_yields quiet _).bind fun _ _ evolved _ => .pure fun attenuator member => ?_
  exact evolved.calibrated (calibrated attenuator member)

/-- A group is made of the attenuators of instruments. -/
def DrawnFrom (instruments : List RackInstrument) (group : Group) : Prop :=
  group.All fun member => ∃ instrument ∈ instruments, member ∈ instrument.attenuators

/-- A built group is drawn from the instruments, and no level was commanded yet. -/
theorem buildGroup_yields (quiet : ∀ deed, deed.IsQuiet → allowed deed)
    (instruments : List RackInstrument) (config : GroupConfig) :
    (buildGroup instruments config).Yields (Bench.Evolves allowed) bench fun group _ =>
      DrawnFrom instruments group ∧ group.lastCommanded = 0.0 := by
  have empty : DrawnFrom instruments (Group.empty config.name) := by
    intro member inside
    exact absurd inside List.not_mem_nil
  unfold buildGroup
  refine (Action.Yields.foldlM
    (fun group _ => DrawnFrom instruments group ∧ group.lastCommanded = 0.0)
    config.members (fun reference _ group between _ drawn => ?_) ⟨empty, rfl⟩).bind
    fun group between _ drawn => ?_
  · unfold addMember
    cases found : channelOf? instruments reference.instrument.toNat reference.index.toNat with
    | none => exact .fail _ _
    | some attenuator =>
      refine .of_run rfl (.record quiet between _) fun result done => ?_
      cases done
      refine ⟨fun member inside => ?_, drawn.2⟩
      rcases List.mem_append.mp inside with earlier | last
      · exact drawn.1 member earlier
      · rw [List.mem_singleton.mp last]
        exact channelOf?_mem found
  · exact (Action.emit_yields quiet _).bind fun _ _ _ _ => .pure drawn

/-- Every attenuator of a rack has a property, those of the instruments and those of the
groups. -/
structure All (property : Attenuator → Prop) (rack : Rack) : Prop where
  /-- The attenuators of the instruments. -/
  instruments : ∀ attenuator ∈ rack.attenuators, property attenuator
  /-- The members of the groups. -/
  groups : ∀ group ∈ rack.groups, group.All property

/-- A built rack has calibrated attenuators, its groups are made of them, and no group has been
commanded to a level. -/
structure Built (rack : Rack) (bench : Bench) : Prop where
  /-- The attenuators are calibrated. -/
  calibrated : ∀ attenuator ∈ rack.attenuators, bench.Calibrated attenuator
  /-- The members of the groups are attenuators of the instruments. -/
  drawn : ∀ group ∈ rack.groups, group.All (· ∈ rack.attenuators)
  /-- No group has been commanded to a level. -/
  idle : ∀ group ∈ rack.groups, group.lastCommanded = 0.0

/-- Every attenuator of a built rack is calibrated. -/
theorem Built.all {rack : Rack} (built : rack.Built bench) : rack.All bench.Calibrated where
  instruments := built.calibrated
  groups group present member inside :=
    built.calibrated member (built.drawn group present member inside)

/-- Building a rack connects drivers and leaves a built rack. -/
theorem build_yields (quiet : ∀ deed, deed.IsQuiet → allowed deed)
    (connects : ∀ deed, deed.IsConnection → allowed deed) (config : RackConfig)
    (catalog : Catalog) :
    (build config catalog).Yields (Bench.Evolves allowed) bench Built := by
  unfold build
  refine ((Action.Yields.ofExcept_keeps config.validate).mapFault
    RackFault.config).bind fun _ checked _ _ => ?_
  refine (Action.Yields.mapM (fun instrument here =>
      ∀ attenuator ∈ instrument.attenuators, here.Calibrated attenuator)
    (fun _ _ _ evolved calibrated attenuator member =>
      evolved.calibrated (calibrated attenuator member)) config.instruments
    fun instrument _ between _ =>
      buildInstrument_yields quiet connects catalog instrument).bind
    fun instruments connected _ calibrated => ?_
  refine (Action.Yields.mapM (fun group _ =>
      DrawnFrom instruments group ∧ group.lastCommanded = 0.0)
    (fun _ _ _ _ drawn => drawn) config.groups
    fun group _ between _ => buildGroup_yields quiet instruments group).bind
    fun groups after evolved drawn => .pure ⟨fun attenuator member => ?_,
      fun group present member inside => ?_, fun group present => (drawn group present).2⟩
  · obtain ⟨instrument, present, own⟩ := List.mem_flatMap.mp member
    exact evolved.calibrated (calibrated instrument present attenuator own)
  · exact List.mem_flatMap.mpr ((drawn group present).1 member inside)

section Related

variable {related : Bench → Bench → Prop} [IsPreorder Bench related]

/-- A snapshot does nothing. -/
theorem status_keeps (rack : Rack) : rack.status.Keeps related bench := by
  unfold status
  refine (Action.Yields.mapM_keeps rack.instruments fun instrument _ between _ => ?_).bind
    fun _ _ _ _ => .pure trivial
  exact ((Session.info_yields instrument.session).mapFault _).keeps

/-- A listing does nothing. -/
theorem listing_keeps {ε : Type} (rack : Rack) :
    (rack.listing : Action ε String).Keeps related bench := by
  unfold listing
  refine (Action.Yields.mapM_keeps rack.instruments.zipIdx fun entry _ between _ => ?_).bind
    fun _ _ _ _ => .pure trivial
  unfold listedInstrument listedMaximum
  have asked : (Session.maximum entry.1.session).Keeps related between :=
    (Session.info_yields entry.1.session).bind fun _ _ _ _ => .pure trivial
  refine (asked.attempt.keeps.bind_keeps fun result _ _ => ?_).bind fun _ _ _ _ => .pure trivial
  cases result with
  | error fault => exact .pure trivial
  | ok maximum => cases maximum <;> exact .pure trivial

end Related

end Rack

end Attenuation
