import Attenuation.Proofs.CommandMemory
import Attenuation.Proofs.GroupLookup
import Attenuation.Proofs.StatusText

/-!
# Snapshots of a rack

A snapshot asks every session once and calls no instrument, so it can be taken whenever no session
is poisoned. A level that a group remembers is finite at every moment of the history of a rack: it
is never written as null, where a number is expected, and so the text of a snapshot can be read.
-/

namespace Attenuation

namespace Rack

/-- What a snapshot shows of a rack. -/
structure ShownBy (rack : Rack) (config : RackConfig) (catalog : Catalog) (taken : List String)
    (bench : Bench) (status : RackStatus) : Prop where
  /-- The instruments are those of the description, in order, each with the model that its driver
  brought along and with the channels that are described. -/
  instruments : List.Forall₂ (fun descriptor info => info.channelCount =
    descriptor.channelCount.toNat ∧ ∃ driver, catalog.create descriptor = .ok driver ∧
      info.model = driver.instrument.model) config.instruments status.instruments
  /-- The maxima are those that the instruments report. -/
  maxima : status.instruments.map InstrumentInfo.maximum =
    rack.instruments.map fun instrument => (infoOn bench instrument).maximum
  /-- The groups are those of the description that were not taken, in order, each with its
  name and with as many members as are described. -/
  groups : List.Forall₂ (fun description group => group.name = description.name ∧
    group.members = description.members.length) (config.remaining taken) status.groups
  /-- The levels are those that the groups remember. -/
  remembered : status.groups.map GroupStatus.attenuation = rack.groups.map Group.lastCommanded
  /-- No remembered level is written as null. -/
  written : ∀ group ∈ status.groups, group.attenuation.isFinite ∧
    Json.numberText group.attenuation ≠ ['n', 'u', 'l', 'l']

/-- The text of a finite double is not null. -/
theorem numberText_ne_null {value : Level} (finite : value.isFinite) :
    Json.numberText value ≠ ['n', 'u', 'l', 'l'] := by
  intro null
  have first := Json.head_write_real finite Json.Style.compact 0
  rw [Json.Value.write, null] at first
  exact first rfl

variable {config : RackConfig} {catalog : Catalog} {taken : List String} {rack : Rack}
  {bench : Bench}

namespace AsDescribed

/-- A snapshot of a rack shows it as it was described, and with the levels that were commanded
since. -/
theorem shownBy (described : rack.AsDescribed config catalog taken bench) :
    rack.ShownBy config catalog taken bench
      ⟨rack.instruments.map (infoOn bench), rack.groups.map groupStatus⟩ where
  instruments := by
    rw [List.forall₂_map_right_iff]
    refine described.instruments.imp fun descriptor instrument connected => ?_
    obtain ⟨-, driver, made, model, channels⟩ := connected
    exact ⟨channels, driver, made, model⟩
  maxima := List.map_map
  groups := by
    rw [List.forall₂_map_right_iff]
    refine described.groups.imp fun description group formed => ⟨formed.name, ?_⟩
    have lengths := congrArg List.length formed.members
    rw [List.length_map, List.length_map] at lengths
    exact lengths
  remembered := List.map_map
  written := by
    have finite (group : Group) (inside : group ∈ rack.groups) : group.lastCommanded.isFinite := by
      obtain ⟨description, -, formed⟩ := Json.exists_mem_of_forall₂ described.groups.flip inside
      exact formed.finite
    intro group inside
    obtain ⟨own, member, rfl⟩ := List.mem_map.mp inside
    exact ⟨finite own member, numberText_ne_null (finite own member)⟩

/-- The counts of a snapshot are indices of the machine when those of the description are. -/
theorem counted (described : rack.AsDescribed config catalog taken bench)
    (small : ∀ description ∈ config.groups,
      description.members.length ≤ Decimal.greatestIndex) :
    RackStatus.Counted ⟨rack.instruments.map (infoOn bench), rack.groups.map groupStatus⟩ where
  channels info inside := by
    obtain ⟨descriptor, -, channels, -⟩ :=
      Json.exists_mem_of_forall₂ described.shownBy.instruments.flip inside
    rw [channels]
    exact Nat.le_of_lt_succ descriptor.channelCount.toNat_lt
  members group inside := by
    obtain ⟨description, remains, -, members⟩ :=
      Json.exists_mem_of_forall₂ described.shownBy.groups.flip inside
    rw [members]
    exact small description (List.mem_of_mem_filter remains)

end AsDescribed

/-- **Snapshots can be read.** Whatever became of a rack since it was built, a snapshot of it is
taken as long as none of its sessions is poisoned, and nothing is done to the bench. It shows the
instruments and the groups that were not taken, in the order of the description, with the levels
that the groups remember, which are never written as null. Where the groups have no more members
than the machine has indices, the text of the snapshot is read as what the snapshot comes back as,
in which only levels may differ, and it is read whenever the texts of the remembered levels and
of the finite maxima are. -/
theorem History.status_reads_back (history : History config catalog taken rack bench)
    (free : ∀ instrument ∈ rack.instruments, (bench.session instrument.session).poisoned = false) :
    ∃ status, rack.status.run bench = (.done status, bench) ∧
      rack.ShownBy config catalog taken bench status ∧
      ((∀ description ∈ config.groups, description.members.length ≤ Decimal.greatestIndex) →
        (∀ after, RackStatus.ofJsonText status.text = .ok after ↔ status.ReadBackAs after) ∧
        ((∀ level ∈ status.levels, ∃ read, level.ReadBackAs read) →
          ∃ after, RackStatus.ofJsonText status.text = .ok after)) := by
  have described := history.asDescribed
  refine ⟨_, run_status_of_free free, described.shownBy, fun small => ?_⟩
  have read := RackStatus.ofJsonText_text (described.counted small)
  constructor
  · intro after
    rw [read]
    exact RackStatus.reread_eq_ok
  · intro accepted
    obtain ⟨after, back⟩ := RackStatus.exists_readBackAs accepted
    exact ⟨after, read.trans (RackStatus.reread_eq_ok.mpr back)⟩

/-- The shelf and its bench after one group was set and another one was taken. -/
def usedShelf : Option (Rack × Bench) :=
  match (build shelf Catalog.empty).run Bench.empty with
  | (.done rack, bench) =>
    let order := Command.set "pair" 12.5
    ((order.rackLeft rack bench).takeGroup? "left").map fun taken =>
      (taken.2, ((order.run rack).run bench).2)
  | _ => none

/-- That is a history of the shelf. -/
theorem history_of_usedShelf (used : usedShelf = some (rack, bench)) :
    History shelf Catalog.empty ["left"] rack bench := by
  unfold usedShelf at used
  split at used
  case h_1 whole start ran =>
    obtain ⟨taken, found, same⟩ := Option.map_eq_some_iff.mp used
    cases same
    exact ((History.built ran).commanded (.set "pair" 12.5)).took found
  case h_2 => cases used

/-- The snapshot of the shelf in use shows the level that was set and lacks the group that was taken,
and its text is read. -/
theorem status_reads_back_shelf :
    ∃ rack bench status, History shelf Catalog.empty ["left"] rack bench ∧
      (∀ instrument ∈ rack.instruments, (bench.session instrument.session).poisoned = false) ∧
      (∀ description ∈ shelf.groups, description.members.length ≤ Decimal.greatestIndex) ∧
      rack.status.run bench = (.done status, bench) ∧
      status.groups.map (fun group => (group.name, group.members, group.attenuation)) =
        [("pair", 2, 12.5), ("right", 1, 0.0)] ∧
      ∃ after, RackStatus.ofJsonText status.text = .ok after ∧ status.ReadBackAs after := by
  have present : usedShelf.isSome := by decide +kernel
  obtain ⟨⟨rack, bench⟩, used⟩ := Option.isSome_iff_exists.mp present
  have history := history_of_usedShelf used
  have free : ∀ instrument ∈ rack.instruments,
      (bench.session instrument.session).poisoned = false := by
    have spared : usedShelf.map (fun (rack, bench) => rack.instruments.all fun instrument =>
        !(bench.session instrument.session).poisoned) = some true := by decide +kernel
    rw [used] at spared
    simpa using spared
  have small : ∀ description ∈ shelf.groups,
      description.members.length ≤ Decimal.greatestIndex := by decide
  obtain ⟨shown, taken, -, readable⟩ := history.status_reads_back free
  obtain ⟨back, reads⟩ := readable small
  have seen : usedShelf.bind (fun (rack, bench) => (rack.status.run bench).1.value?) =
      some shown := by
    rw [used]
    exact congrArg (fun ran => ran.1.value?) taken
  have groups : (usedShelf.bind fun (rack, bench) => (rack.status.run bench).1.value?).map
      (fun shown => shown.groups.map fun group => (group.name, group.members, group.attenuation)) =
        some [("pair", 2, 12.5), ("right", 1, 0.0)] := by decide +kernel
  have accepted : (usedShelf.bind fun (rack, bench) => (rack.status.run bench).1.value?).map
      (fun shown => shown.levels.all fun level => (Json.rereadDouble level).isOk) =
        some true := by decide +kernel
  rw [seen] at groups accepted
  have each : ∀ level ∈ shown.levels, ∃ read, level.ReadBackAs read := by
    intro level listed
    have fine := List.all_eq_true.mp (Option.some.inj accepted) level listed
    unfold Level.ReadBackAs
    cases read : Json.rereadDouble level with
    | ok value => exact ⟨value, rfl⟩
    | error fault =>
      rw [read] at fine
      cases fine
  obtain ⟨after, read⟩ := reads each
  exact ⟨rack, bench, shown, history, free, small, taken, Option.some.inj groups, after, read,
    (back after).mp read⟩

end Rack

end Attenuation
