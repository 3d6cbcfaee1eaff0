import Attenuation.CommandLine
import Attenuation.Proofs.RecordText

/-!
# Descriptions read from their own text

A description is written as a record of its fields and read back field by field. A level is written
as a number and read from it, which need not give the same level, so `RackConfig.reread` puts in
the place of each level what its own text is read as, and stops at the first text that is refused.
Reading what was saved is `RackConfig.reread`, whatever the strings, the lists and the numbers of
the description are.
-/

namespace Attenuation

open Json (Schema Value rereadDouble)

/-- A transport is found by its name. -/
theorem Transport.lookup_name (transport : Transport) :
    Transport.choices.lookup transport.name = some transport := by
  cases transport <;> rfl

/-- A transport is read back from its name. -/
theorem Transport.reader_reads (transport : Transport) :
    Transport.reader.Reads transport.toJson (.ok transport) :=
  Json.readChoice_reads transport.lookup_name

/-- An index of sixty-four bits is read from its digits. -/
theorem Json.readIndex_answers (value : UInt64) :
    readIndex.Answers (Nat.toDigits 10 value.toNat) (.ok value.toNat) :=
  readBounded_answers "usize" (Nat.le_of_lt_succ value.toNat_lt) (Nat.le_refl _)

/-- An index of sixty-four bits is read back. -/
theorem Json.readIndex_reads (value : UInt64) :
    readIndex.Reads (.natural value.toNat) (.ok value.toNat) :=
  Reader.reads_of_answers fun _ _ _ => readIndex_answers value

/-- A port of sixteen bits is read from its digits. -/
theorem Json.readPort_answers (value : UInt16) :
    readPort.Answers (Nat.toDigits 10 value.toNat) (.ok value.toNat) :=
  readBounded_answers "u16" (Nat.le_of_lt_succ value.toNat_lt) (by decide)

/-- A port of sixteen bits is read back. -/
theorem Json.readPort_reads (value : UInt16) :
    readPort.Reads (.natural value.toNat) (.ok value.toNat) :=
  Reader.reads_of_answers fun _ _ _ => readPort_answers value

/-- The optional double that is read from the text of one. A double that is not finite is written as
null and read as none. -/
def Json.rereadOptional (value : Option Level) : Except Json.Fault (Option Level) :=
  match value with
  | none => .ok none
  | some value => if value.isFinite then (rereadDouble value).map some else .ok none

/-- An optional double is read back from what it is written as. -/
theorem Json.readOptional_double_reads (value : Option Level) :
    (readOptional readDouble).Reads (.optional Value.real value) (rereadOptional value) := by
  unfold rereadOptional
  cases value with
  | none => exact readOptional_null _
  | some value =>
    dsimp only [Value.optional]
    by_cases finite : value.isFinite
    · rw [if_pos finite]
      exact readOptional_reads (readDouble_reads value) (head_write_real finite)
    · rw [if_neg finite]
      intro style depth blanks rest isBlank blank ends
      have null := readOptional_null readDouble style depth blanks rest isBlank blank ends
      have text := numberText_notFinite (Bool.eq_false_iff.mpr finite)
      rwa [Value.write, text]

/-- A reference to a channel is read back. -/
theorem MemberRef.read_reads (member : MemberRef) :
    MemberRef.schema.read.Reads member.toJson (.ok member) := by
  have filled : MemberRef.schema.Fills MemberRef.schema.blank
      [("instrument", .natural member.instrument.toNat), ("index", .natural member.index.toNat)]
      (.ok ⟨some member.instrument.toNat, some member.index.toNat⟩) := by
    apply Schema.Fills.kept rfl rfl (Json.readIndex_reads member.instrument)
    apply Schema.Fills.kept rfl rfl (Json.readIndex_reads member.index)
    exact .done _
  have finished : MemberDraft.finish ⟨some member.instrument.toNat, some member.index.toNat⟩ =
      member := by
    simp [MemberDraft.finish]
  have read := Schema.read_reads filled fun draft same => by
    cases same
    rfl
  rwa [Except.map, show MemberRef.schema.finish = MemberDraft.finish from rfl, finished] at read

/-- The description of a group is read back. -/
theorem GroupConfig.read_reads (config : GroupConfig) :
    GroupConfig.schema.read.Reads config.toJson (.ok config) := by
  have filled : GroupConfig.schema.Fills GroupConfig.schema.blank
      [("name", .text config.name), ("members", .list (config.members.map MemberRef.toJson))]
      (.ok ⟨some config.name, some config.members⟩) := by
    apply Schema.Fills.kept rfl rfl (Json.readText_reads config.name)
    apply Schema.Fills.kept rfl rfl
      (Json.readList_reads_ok config.members fun member _ => member.read_reads)
    exact .done _
  exact Schema.read_reads filled fun draft same => by
    cases same
    rfl

namespace InstrumentConfig

/-- The offsets that are read back, each from its own text. -/
def rereadOffsets (config : InstrumentConfig) : Except Json.Fault (Option (List Level)) :=
  match config.offsets with
  | none => .ok none
  | some offsets => (offsets.mapM rereadDouble).map some

/-- The maximum that is read back. One that is not finite is written as null and read as none. -/
def rereadMaximum (config : InstrumentConfig) : Except Json.Fault (Option Level) :=
  match config.maximum with
  | none => .ok none
  | some maximum => if maximum.isFinite then (rereadDouble maximum).map some else .ok none

/-- The descriptor that is read back. -/
def reread (config : InstrumentConfig) : Except Json.Fault InstrumentConfig := do
  let offsets ← config.rereadOffsets
  let maximum ← config.rereadMaximum
  return { config with offsets, maximum }

variable (config : InstrumentConfig)

/-- The offsets are read back from what they are written as. -/
theorem offsets_reads :
    (Json.readOptional (Json.readList Json.readDouble)).Reads
      (.optional (fun offsets => .list (offsets.map Value.real)) config.offsets)
      config.rereadOffsets := by
  unfold rereadOffsets
  cases config.offsets with
  | none => exact Json.readOptional_null _
  | some offsets =>
    have read := Json.readList_reads offsets fun offset _ => Json.readDouble_reads offset
    exact Json.readOptional_reads read (Json.head_write_list _)

/-- The path labels are read back. -/
theorem paths_reads :
    (Json.readOptional (Json.readList Json.readText)).Reads
      (.optional (fun paths => .list (paths.map Value.text)) config.paths) (.ok config.paths) := by
  cases config.paths with
  | none => exact Json.readOptional_null _
  | some paths =>
    have read := Json.readList_reads_ok paths fun path _ => Json.readText_reads path
    exact Json.readOptional_reads read (Json.head_write_list _)

/-- The maximum is read back from what it is written as. -/
theorem maximum_reads :
    (Json.readOptional Json.readDouble).Reads (.optional Value.real config.maximum)
      config.rereadMaximum :=
  Json.readOptional_double_reads config.maximum

/-- The draft of a descriptor that is read back with offsets and a maximum. -/
def filledWith (offsets : Option (List Level)) (maximum : Option Level) : InstrumentDraft where
  model := some config.model
  transport := some config.transport
  address := some config.address
  port := some config.port.toNat
  channelCount := some config.channelCount.toNat
  offsets := some offsets
  paths := some config.paths
  maximum := some maximum

/-- The members of a descriptor fill the draft with the levels that are read back. -/
theorem fills :
    InstrumentConfig.schema.Fills InstrumentConfig.schema.blank
      [("model", .text config.model), ("transport", config.transport.toJson),
        ("address", .text config.address), ("port", .natural config.port.toNat),
        ("channel_count", .natural config.channelCount.toNat),
        ("offsets", .optional (fun offsets => .list (offsets.map Value.real)) config.offsets),
        ("paths", .optional (fun paths => .list (paths.map Value.text)) config.paths),
        ("max_attenuation", .optional Value.real config.maximum)]
      (config.rereadOffsets >>= fun offsets =>
        config.rereadMaximum >>= fun maximum => .ok (config.filledWith offsets maximum)) := by
  apply Schema.Fills.kept rfl rfl (Json.readText_reads config.model)
  apply Schema.Fills.kept rfl rfl config.transport.reader_reads
  apply Schema.Fills.kept rfl rfl (Json.readText_reads config.address)
  apply Schema.Fills.kept rfl rfl (Json.readPort_reads config.port)
  apply Schema.Fills.kept rfl rfl (Json.readIndex_reads config.channelCount)
  apply Schema.Fills.field rfl rfl config.offsets_reads
  intro offsets _
  apply Schema.Fills.kept rfl rfl config.paths_reads
  apply Schema.Fills.field rfl rfl config.maximum_reads
  intro maximum _
  exact .done _

/-- A descriptor is read back with the levels that its own levels are read as. -/
theorem read_reads : InstrumentConfig.schema.read.Reads config.toJson config.reread := by
  have finished (offsets : Option (List Level)) (maximum : Option Level) :
      (config.filledWith offsets maximum).finish = { config with offsets, maximum } := by
    simp [filledWith, InstrumentDraft.finish]
  have filled := config.fills
  unfold reread
  generalize config.rereadOffsets = offsets at filled ⊢
  generalize config.rereadMaximum = maximum at filled ⊢
  cases offsets with
  | error fault => exact Schema.read_reads filled fun draft same => nomatch same
  | ok offsets =>
    cases maximum with
    | error fault => exact Schema.read_reads filled fun draft same => nomatch same
    | ok maximum =>
      show InstrumentConfig.schema.read.Reads _ (.ok { config with offsets, maximum })
      rw [← finished]
      exact Schema.read_reads filled fun draft same => by
        cases same
        rfl

end InstrumentConfig

/-- The description that is read back. -/
def RackConfig.reread (config : RackConfig) : Except Json.Fault RackConfig := do
  let instruments ← config.instruments.mapM InstrumentConfig.reread
  return { config with instruments }

namespace RackConfig

variable (config : RackConfig)

/-- The description of a rack is read back with the levels that its own levels are read as. -/
theorem read_reads : RackConfig.schema.read.Reads config.toJson config.reread := by
  have filled : RackConfig.schema.Fills RackConfig.schema.blank
      [("instruments", .list (config.instruments.map InstrumentConfig.toJson)),
        ("groups", .list (config.groups.map GroupConfig.toJson))]
      (config.instruments.mapM InstrumentConfig.reread >>= fun instruments =>
        .ok ⟨some instruments, some config.groups⟩) := by
    apply Schema.Fills.field rfl rfl
      (Json.readList_reads config.instruments fun instrument _ => instrument.read_reads)
    intro instruments _
    apply Schema.Fills.kept rfl rfl
      (Json.readList_reads_ok config.groups fun group _ => group.read_reads)
    exact .done _
  unfold reread
  generalize config.instruments.mapM InstrumentConfig.reread = instruments at filled ⊢
  cases instruments with
  | error fault => exact Schema.read_reads filled fun draft same => nomatch same
  | ok instruments =>
    exact Schema.read_reads filled fun draft same => by
      cases same
      rfl

/-- The text of a description is read as the description that is read back. -/
theorem ofJsonText_save : ofJsonText config.save = config.reread := by
  have read := config.read_reads.answers Json.Style.indented_isBlank 0
  apply read.readWhole .nil .nil
  simp [save, Value.pretty]

/-- The file of a description is read as its text. -/
theorem load_save : CommandLine.load (.ok config.save.toUTF8) =
    (ofJsonText config.save).mapError .json := by
  have decoded : String.fromUTF8? config.save.toUTF8 = some config.save :=
    dif_pos config.save.isValidUTF8
  unfold CommandLine.load FileFault.decode
  dsimp only
  rw [decoded]
  dsimp only
  cases ofJsonText config.save <;> rfl

end RackConfig

end Attenuation
