import Attenuation.Proofs.SavedConfig
import Attenuation.Rack.Status

/-!
# Snapshots read from their own text

A snapshot is written like a description and read back field by field. Names, models and counts are
kept as long as the counts are indices of the machine. A level comes back as what its own text is
read as, and a maximum that is unknown or not finite comes back as unknown.
-/

namespace Attenuation

open Json (Schema Value rereadDouble rereadOptional)

/-- What the properties of an instrument come back as. -/
structure InstrumentInfo.ReadBackAs (before after : InstrumentInfo) : Prop where
  /-- The model and the number of channels are kept. -/
  kept : after = { before with maximum := after.maximum }
  /-- A finite maximum comes back as its text is read, and any other one does not. -/
  maximum : Option.Rel Level.ReadBackAs (before.maximum.filter Float.isFinite) after.maximum

/-- What the status of a group comes back as. -/
structure GroupStatus.ReadBackAs (before after : GroupStatus) : Prop where
  /-- The name and the number of members are kept. -/
  kept : after = { before with attenuation := after.attenuation }
  /-- The remembered level comes back as its text is read. -/
  attenuation : before.attenuation.ReadBackAs after.attenuation

/-- What a snapshot comes back as. -/
structure RackStatus.ReadBackAs (before after : RackStatus) : Prop where
  /-- As many instruments come back, in order. -/
  instruments : List.Forall₂ InstrumentInfo.ReadBackAs before.instruments after.instruments
  /-- As many groups come back, in order. -/
  groups : List.Forall₂ GroupStatus.ReadBackAs before.groups after.groups

/-- The counts of a snapshot are indices of the machine. -/
structure RackStatus.Counted (status : RackStatus) : Prop where
  /-- The numbers of channels. -/
  channels : ∀ info ∈ status.instruments, info.channelCount ≤ Decimal.greatestIndex
  /-- The numbers of members. -/
  members : ∀ group ∈ status.groups, group.members ≤ Decimal.greatestIndex

section Relations

variable {α β : Type} {related : α → β → Prop}

/-- Values that are all related to some other one are related in order to a list of such ones. -/
theorem exists_forall₂ {values : List α} (each : ∀ value ∈ values, ∃ other, related value other) :
    ∃ others, List.Forall₂ related values others := by
  induction values with
  | nil => exact ⟨[], .nil⟩
  | cons value rest ih =>
    obtain ⟨first, here⟩ := each value List.mem_cons_self
    obtain ⟨others, later⟩ := ih fun other member => each other (List.mem_cons_of_mem _ member)
    exact ⟨first :: others, .cons here later⟩

/-- An optional value is related to an optional one when it is related to some other one. -/
theorem exists_optionRel {value : Option α}
    (known : ∀ own, value = some own → ∃ other, related own other) :
    ∃ other, Option.Rel related value other := by
  cases value with
  | none => exact ⟨none, .none⟩
  | some own =>
    obtain ⟨other, here⟩ := known own rfl
    exact ⟨some other, .some here⟩

end Relations

/-- A count that is an index of the machine is read back. -/
theorem Json.readIndex_reads_of_le {value : Nat} (fits : value ≤ Decimal.greatestIndex) :
    readIndex.Reads (.natural value) (.ok value) := by
  have word : (UInt64.ofNat value).toNat = value :=
    UInt64.toNat_ofNat_of_lt' (Nat.lt_succ_of_le fits)
  have read := readIndex_reads (UInt64.ofNat value)
  rwa [word] at read

namespace InstrumentInfo

/-- The properties that are read back. -/
def reread (info : InstrumentInfo) : Except Json.Fault InstrumentInfo := do
  let maximum ← rereadOptional info.maximum
  return { info with maximum }

variable {info after : InstrumentInfo}

/-- The properties of an instrument are read back from what they are written as. -/
theorem read_reads (fits : info.channelCount ≤ Decimal.greatestIndex) :
    InstrumentInfo.schema.read.Reads info.toJson info.reread := by
  have filled : InstrumentInfo.schema.Fills InstrumentInfo.schema.blank
      [("model", .text info.model), ("channel_count", .natural info.channelCount),
        ("max_attenuation", .optional Value.real info.maximum)]
      (rereadOptional info.maximum >>= fun maximum =>
        .ok ⟨some info.model, some info.channelCount, some maximum⟩) := by
    apply Schema.Fills.kept rfl rfl (Json.readText_reads info.model)
    apply Schema.Fills.kept rfl rfl (Json.readIndex_reads_of_le fits)
    apply Schema.Fills.field rfl rfl (Json.readOptional_double_reads info.maximum)
    intro maximum _
    exact .done _
  unfold reread
  generalize rereadOptional info.maximum = maximum at filled ⊢
  cases maximum with
  | error fault => exact Schema.read_reads filled fun draft same => nomatch same
  | ok maximum =>
    exact Schema.read_reads filled fun draft same => by
      cases same
      rfl

/-- The properties of an instrument are read back as what comes back, and as nothing else. -/
theorem reread_eq_ok : info.reread = .ok after ↔ info.ReadBackAs after := by
  unfold reread
  constructor
  · intro read
    obtain ⟨maximum, reread, same⟩ := Result.bind_eq_ok.mp read
    cases same
    exact ⟨rfl, Json.rereadOptional_eq_ok.mp reread⟩
  · intro back
    rw [Json.rereadOptional_eq_ok.mpr back.maximum]
    exact congrArg Except.ok back.kept.symm

end InstrumentInfo

namespace GroupStatus

/-- The status that is read back. -/
def reread (status : GroupStatus) : Except Json.Fault GroupStatus := do
  let attenuation ← rereadDouble status.attenuation
  return { status with attenuation }

variable {status after : GroupStatus}

/-- The status of a group is read back from what it is written as. -/
theorem read_reads (fits : status.members ≤ Decimal.greatestIndex) :
    GroupStatus.schema.read.Reads status.toJson status.reread := by
  have filled : GroupStatus.schema.Fills GroupStatus.schema.blank
      [("name", .text status.name), ("members", .natural status.members),
        ("attenuation", .real status.attenuation)]
      (rereadDouble status.attenuation >>= fun attenuation =>
        .ok ⟨some status.name, some status.members, some attenuation⟩) := by
    apply Schema.Fills.kept rfl rfl (Json.readText_reads status.name)
    apply Schema.Fills.kept rfl rfl (Json.readIndex_reads_of_le fits)
    apply Schema.Fills.field rfl rfl (Json.readDouble_reads status.attenuation)
    intro attenuation _
    exact .done _
  unfold reread
  generalize rereadDouble status.attenuation = attenuation at filled ⊢
  cases attenuation with
  | error fault => exact Schema.read_reads filled fun draft same => nomatch same
  | ok attenuation =>
    exact Schema.read_reads filled fun draft same => by
      cases same
      rfl

/-- The status of a group is read back as what comes back, and as nothing else. -/
theorem reread_eq_ok : status.reread = .ok after ↔ status.ReadBackAs after := by
  unfold reread
  constructor
  · intro read
    obtain ⟨attenuation, reread, same⟩ := Result.bind_eq_ok.mp read
    cases same
    exact ⟨rfl, reread⟩
  · intro back
    have reread : rereadDouble status.attenuation = .ok after.attenuation := back.attenuation
    rw [reread]
    exact congrArg Except.ok back.kept.symm

end GroupStatus

namespace RackStatus

/-- The snapshot that is read back. -/
def reread (status : RackStatus) : Except Json.Fault RackStatus := do
  let instruments ← status.instruments.mapM InstrumentInfo.reread
  let groups ← status.groups.mapM GroupStatus.reread
  return { instruments, groups }

variable {status after : RackStatus}

/-- A snapshot is read back from what it is written as. -/
theorem read_reads (counted : status.Counted) :
    RackStatus.schema.read.Reads status.toJson status.reread := by
  have filled : RackStatus.schema.Fills RackStatus.schema.blank
      [("instruments", .list (status.instruments.map InstrumentInfo.toJson)),
        ("groups", .list (status.groups.map GroupStatus.toJson))]
      (status.instruments.mapM InstrumentInfo.reread >>= fun instruments =>
        status.groups.mapM GroupStatus.reread >>= fun groups =>
          .ok ⟨some instruments, some groups⟩) := by
    apply Schema.Fills.field rfl rfl (Json.readList_reads status.instruments
      fun info member => InstrumentInfo.read_reads (counted.channels info member))
    intro instruments _
    apply Schema.Fills.field rfl rfl (Json.readList_reads status.groups
      fun group member => GroupStatus.read_reads (counted.members group member))
    intro groups _
    exact .done _
  unfold reread
  generalize status.instruments.mapM InstrumentInfo.reread = instruments at filled ⊢
  generalize status.groups.mapM GroupStatus.reread = groups at filled ⊢
  cases instruments with
  | error fault => exact Schema.read_reads filled fun draft same => nomatch same
  | ok instruments =>
    cases groups with
    | error fault => exact Schema.read_reads filled fun draft same => nomatch same
    | ok groups =>
      exact Schema.read_reads filled fun draft same => by
        cases same
        rfl

/-- The text of a snapshot is read as the snapshot that is read back. -/
theorem ofJsonText_text (counted : status.Counted) : ofJsonText status.text = status.reread := by
  have read := (read_reads counted).answers Json.Style.indented_isBlank 0
  apply read.readWhole .nil .nil
  simp [text, Value.pretty]

/-- A snapshot is read back as what comes back, and as nothing else. -/
theorem reread_eq_ok : status.reread = .ok after ↔ status.ReadBackAs after := by
  unfold reread
  constructor
  · intro read
    obtain ⟨instruments, mapped, read⟩ := Result.bind_eq_ok.mp read
    obtain ⟨groups, others, same⟩ := Result.bind_eq_ok.mp read
    cases same
    exact ⟨(Result.mapM_eq_ok.mp mapped).imp fun _ _ => InstrumentInfo.reread_eq_ok.mp,
      (Result.mapM_eq_ok.mp others).imp fun _ _ => GroupStatus.reread_eq_ok.mp⟩
  · intro back
    have instruments := Result.mapM_eq_ok.mpr
      (back.instruments.imp fun _ _ => InstrumentInfo.reread_eq_ok.mpr)
    have groups := Result.mapM_eq_ok.mpr
      (back.groups.imp fun _ _ => GroupStatus.reread_eq_ok.mpr)
    rw [instruments, groups]
    rfl

/-- The levels of a snapshot that are written as numbers: the remembered levels of the groups, and
the finite maxima of the instruments. -/
def levels (status : RackStatus) : List Level :=
  status.groups.map GroupStatus.attenuation ++
    status.instruments.filterMap fun info => info.maximum.filter Float.isFinite

/-- A snapshot comes back when each of its levels does. -/
theorem exists_readBackAs (accepted : ∀ level ∈ status.levels, ∃ read, level.ReadBackAs read) :
    ∃ after, status.ReadBackAs after := by
  have instruments : ∃ after, List.Forall₂ InstrumentInfo.ReadBackAs status.instruments after := by
    apply exists_forall₂
    intro info member
    have finite (level : Level) (known : info.maximum.filter Float.isFinite = some level) :
        ∃ read, level.ReadBackAs read := by
      apply accepted
      exact List.mem_append_right _ (List.mem_filterMap.mpr ⟨info, member, known⟩)
    obtain ⟨maximum, back⟩ := exists_optionRel finite
    exact ⟨{ info with maximum }, rfl, back⟩
  have groups : ∃ after, List.Forall₂ GroupStatus.ReadBackAs status.groups after := by
    apply exists_forall₂
    intro group member
    have remembered : group.attenuation ∈ status.levels :=
      List.mem_append_left _ (List.mem_map_of_mem member)
    obtain ⟨attenuation, back⟩ := accepted group.attenuation remembered
    exact ⟨{ group with attenuation }, rfl, back⟩
  obtain ⟨readInstruments, forInstruments⟩ := instruments
  obtain ⟨readGroups, forGroups⟩ := groups
  exact ⟨⟨readInstruments, readGroups⟩, forInstruments, forGroups⟩

end RackStatus

end Attenuation
