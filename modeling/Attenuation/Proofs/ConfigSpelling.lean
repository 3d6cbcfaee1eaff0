import Attenuation.Proofs.RecordSpelling
import Attenuation.Proofs.SavedConfig

/-!
# The spellings of a rack description

Which JSON texts spell the description of a rack, and which are flawed. What a description is saved
as is one of its spellings, if its levels come back as they were. Every spelling is read as the
description, and every flawed text is refused.
-/

namespace Attenuation

open Json (IsJson IsNumber Enclosed Entry SpellsString AllSpace FieldSpelling FieldForm
  SpelledRecord SpelledList SpelledOption FlawedRecord FlawedList Reader RecordField Schema)

variable {α β δ : Type}

/-- A string that spells a text with any escapes. -/
def Json.SpelledText (value : String) (text : List Char) : Prop :=
  ∃ body, SpellsString value.toList body ∧ text = '"' :: (body ++ ['"'])

/-- The digits of a natural number. -/
def Json.SpelledNatural (value : Nat) (text : List Char) : Prop := text = Nat.toDigits 10 value

/-- A number that is read back as a level. -/
def Level.SpelledBy (level : Level) (text : List Char) : Prop :=
  IsNumber text ∧ Json.readWhole Json.readDouble (String.ofList text) = .ok level

/-- The spellings of a transport. -/
inductive Transport.SpelledBy (transport : Transport) (text : List Char) : Prop where
  /-- The name of the transport. -/
  | name (spelled : Json.SpelledText transport.name text)
  /-- An object with its name and a null. -/
  | object {entry : Entry} (written : Enclosed '\x7b' '\x7d' [entry.text] text)
    (named : SpellsString transport.name.toList entry.name)
    (null : entry.value = ['n', 'u', 'l', 'l'])

/-- The fields of an instrument descriptor as they are spelled. -/
def InstrumentConfig.spelling (config : InstrumentConfig) : List FieldSpelling := [
  ⟨"model", Json.SpelledText config.model, False⟩,
  ⟨"transport", config.transport.SpelledBy, config.transport = .telnet⟩,
  ⟨"address", Json.SpelledText config.address, config.address = ""⟩,
  ⟨"port", Json.SpelledNatural config.port.toNat, config.port = 23⟩,
  ⟨"channel_count", Json.SpelledNatural config.channelCount.toNat, False⟩,
  ⟨"offsets", SpelledOption (SpelledList Level.SpelledBy) config.offsets, config.offsets = none⟩,
  ⟨"paths", SpelledOption (SpelledList Json.SpelledText) config.paths, config.paths = none⟩,
  ⟨"max_attenuation", SpelledOption Level.SpelledBy config.maximum, config.maximum = none⟩]

/-- The spellings of an instrument descriptor. -/
def InstrumentConfig.SpelledBy (config : InstrumentConfig) (text : List Char) : Prop :=
  SpelledRecord config.spelling text

/-- The fields of a reference to a channel as they are spelled. -/
def MemberRef.spelling (member : MemberRef) : List FieldSpelling := [
  ⟨"instrument", Json.SpelledNatural member.instrument.toNat, False⟩,
  ⟨"index", Json.SpelledNatural member.index.toNat, False⟩]

/-- The spellings of a reference to a channel. -/
def MemberRef.SpelledBy (member : MemberRef) (text : List Char) : Prop :=
  SpelledRecord member.spelling text

/-- The fields of a group descriptor as they are spelled. -/
def GroupConfig.spelling (config : GroupConfig) : List FieldSpelling := [
  ⟨"name", Json.SpelledText config.name, False⟩,
  ⟨"members", SpelledList MemberRef.SpelledBy config.members, config.members = []⟩]

/-- The spellings of a group descriptor. -/
def GroupConfig.SpelledBy (config : GroupConfig) (text : List Char) : Prop :=
  SpelledRecord config.spelling text

/-- The fields of the description of a rack as they are spelled. -/
def RackConfig.spelling (config : RackConfig) : List FieldSpelling := [
  ⟨"instruments", SpelledList InstrumentConfig.SpelledBy config.instruments,
    config.instruments = []⟩,
  ⟨"groups", SpelledList GroupConfig.SpelledBy config.groups, config.groups = []⟩]

/-- The spellings of the description of a rack, which may have white space around it. -/
def RackConfig.SpelledBy (config : RackConfig) (text : String) : Prop :=
  ∃ before spelled after, AllSpace before ∧ AllSpace after ∧
    SpelledRecord config.spelling spelled ∧ text.toList = before ++ (spelled ++ after)

/-- A spelled record without white space around it spells a description. -/
theorem RackConfig.SpelledBy.alone {config : RackConfig} {text : List Char}
    (spelled : SpelledRecord config.spelling text) : config.SpelledBy (String.ofList text) :=
  ⟨[], text, [], .nil, .nil, spelled, by simp⟩

section Written

variable {style : Json.Style} (isBlank : style.IsBlank) (depth : Nat)

/-- A text is spelled by what it is written as. -/
theorem Json.SpelledText.written (value : String) :
    SpelledText value ((Value.text value).write style depth) :=
  ⟨_, spellsString_written value.toList, rfl⟩

/-- A level that comes back as it was is spelled by what it is written as. -/
theorem Level.SpelledBy.written {level : Level} (finite : level.isFinite)
    (same : level.ReadBackAs level) : level.SpelledBy ((Json.Value.real level).write style depth) :=
  ⟨Json.isNumber_numberText finite, same⟩

include isBlank

/-- A reference to a channel is spelled by what it is written as. -/
theorem MemberRef.SpelledBy.written (member : MemberRef) :
    member.SpelledBy (member.toJson.write style depth) :=
  SpelledRecord.written isBlank depth (by simp [spelling])
    (.cons ⟨rfl, rfl⟩ (.cons ⟨rfl, rfl⟩ .nil))

/-- A group descriptor is spelled by what it is written as. -/
theorem GroupConfig.SpelledBy.written (config : GroupConfig) :
    config.SpelledBy (config.toJson.write style depth) := by
  apply SpelledRecord.written isBlank depth (by simp [spelling])
  have members := SpelledList.written isBlank (depth + 1)
    fun member (_ : member ∈ config.members) =>
      MemberRef.SpelledBy.written isBlank (depth + 2) member
  exact .cons ⟨rfl, .written _ config.name⟩ (.cons ⟨rfl, members⟩ .nil)

/-- An instrument descriptor whose levels come back as they were is spelled by what it is written
as. -/
theorem InstrumentConfig.SpelledBy.written {config : InstrumentConfig}
    (same : ∀ level ∈ config.levels, level.isFinite ∧ level.ReadBackAs level) :
    config.SpelledBy (config.toJson.write style depth) := by
  apply SpelledRecord.written isBlank depth (by simp [spelling])
  have offsets : SpelledOption (SpelledList Level.SpelledBy) config.offsets
      ((Json.Value.optional (fun offsets => .list (offsets.map .real)) config.offsets).write style
        (depth + 1)) := by
    refine SpelledOption.written fun offsets given => SpelledList.written isBlank (depth + 1) ?_
    intro level listed
    have held : level ∈ config.offsets.getD [] := by
      rw [Option.mem_def.mp given]
      exact listed
    have known : level ∈ config.levels := List.mem_append_left _ held
    exact .written _ (same level known).1 (same level known).2
  have paths : SpelledOption (SpelledList Json.SpelledText) config.paths
      ((Json.Value.optional (fun paths => .list (paths.map .text)) config.paths).write style
        (depth + 1)) :=
    SpelledOption.written fun paths given =>
      SpelledList.written isBlank (depth + 1) fun path _ => .written _ path
  have maximum : SpelledOption Level.SpelledBy config.maximum
      ((Json.Value.optional .real config.maximum).write style (depth + 1)) := by
    refine SpelledOption.written fun level given => ?_
    have known : level ∈ config.levels := List.mem_append_right _ (by simpa using given)
    exact .written _ (same level known).1 (same level known).2
  exact .cons ⟨rfl, .written _ config.model⟩ <|
    .cons ⟨rfl, .name (.written _ config.transport.name)⟩ <|
    .cons ⟨rfl, .written _ config.address⟩ <| .cons ⟨rfl, rfl⟩ <| .cons ⟨rfl, rfl⟩ <|
    .cons ⟨rfl, offsets⟩ <| .cons ⟨rfl, paths⟩ <| .cons ⟨rfl, maximum⟩ .nil

end Written

/-- The description of a rack whose levels come back as they were is spelled by what it is saved
as. -/
theorem RackConfig.save_spelledBy {config : RackConfig}
    (same : ∀ instrument ∈ config.instruments, ∀ level ∈ instrument.levels,
      level.isFinite ∧ level.ReadBackAs level) : config.SpelledBy config.save := by
  have isBlank := Json.Style.indented_isBlank
  have instruments := SpelledList.written isBlank 1 fun instrument member =>
    InstrumentConfig.SpelledBy.written isBlank 2 (same instrument member)
  have groups := SpelledList.written isBlank 1 fun group (_ : group ∈ config.groups) =>
    GroupConfig.SpelledBy.written isBlank 2 group
  apply SpelledBy.alone
  exact SpelledRecord.written isBlank 0 (by simp [spelling])
    (.cons ⟨rfl, instruments⟩ (.cons ⟨rfl, groups⟩ .nil))

/-- The fields of an instrument descriptor. -/
def InstrumentConfig.forms : List FieldForm := [
  ⟨"model", true, Json.Flawless⟩,
  ⟨"transport", false, Json.Flawless⟩,
  ⟨"address", false, Json.Flawless⟩,
  ⟨"port", false, Json.Flawless⟩,
  ⟨"channel_count", true, Json.Flawless⟩,
  ⟨"offsets", false, Json.Flawless⟩,
  ⟨"paths", false, Json.Flawless⟩,
  ⟨"max_attenuation", false, Json.Flawless⟩]

/-- The fields of a reference to a channel. -/
def MemberRef.forms : List FieldForm := [
  ⟨"instrument", true, Json.Flawless⟩,
  ⟨"index", true, Json.Flawless⟩]

/-- The fields of a group descriptor. -/
def GroupConfig.forms : List FieldForm := [
  ⟨"name", true, Json.Flawless⟩,
  ⟨"members", false, FlawedList (FlawedRecord MemberRef.forms)⟩]

/-- The fields of the description of a rack. -/
def RackConfig.forms : List FieldForm := [
  ⟨"instruments", false, FlawedList (FlawedRecord InstrumentConfig.forms)⟩,
  ⟨"groups", false, FlawedList (FlawedRecord GroupConfig.forms)⟩]

/-- A text in which one of the records of a rack description is flawed. -/
def RackConfig.Flawed (text : String) : Prop :=
  ∃ before flawed after, AllSpace before ∧ AllSpace after ∧ FlawedRecord RackConfig.forms flawed ∧
    text.toList = before ++ (flawed ++ after)

/-- A flawed record without white space around it is flawed as a description. -/
theorem RackConfig.Flawed.alone {text : List Char} (flawed : FlawedRecord forms text) :
    Flawed (String.ofList text) :=
  ⟨[], text, [], .nil, .nil, flawed, by simp⟩

namespace Json

/-- A text is read as it is spelled. -/
theorem SpelledText.answers {value : String} {text : List Char}
    (spelled : SpelledText value text) : readText.Answers text (.ok value) := by
  obtain ⟨body, spelled, rfl⟩ := spelled
  exact readText_answers spelled

/-- An index is read as it is spelled. -/
theorem SpelledNatural.index_answers {value : UInt64} {text : List Char}
    (spelled : SpelledNatural value.toNat text) : readIndex.Answers text (.ok value.toNat) := by
  cases spelled
  exact readIndex_answers value

/-- A port is read as it is spelled. -/
theorem SpelledNatural.port_answers {value : UInt16} {text : List Char}
    (spelled : SpelledNatural value.toNat text) : readPort.Answers text (.ok value.toNat) := by
  cases spelled
  exact readPort_answers value

end Json

/-- A level is read as it is spelled. -/
theorem Level.SpelledBy.answers {level : Level} {text : List Char}
    (spelled : level.SpelledBy text) : Json.readDouble.Answers text (.ok level) := by
  obtain ⟨number, read⟩ := spelled
  obtain ⟨answer, answers⟩ := Json.readDouble_decides text (.number number)
  have whole : (String.ofList text).toList = [] ++ (text ++ []) := by simp
  have same := answers.readWhole .nil .nil whole
  rw [read] at same
  rwa [same]

/-- A transport is read as it is spelled. -/
theorem Transport.SpelledBy.answers {transport : Transport} {text : List Char}
    (spelled : transport.SpelledBy text) : Transport.reader.Answers text (.ok transport) := by
  cases spelled with
  | name spelled =>
    obtain ⟨body, spelled, rfl⟩ := spelled
    exact Json.readChoice_answers transport.lookup_name spelled
  | object written named null =>
    exact Json.readChoice_answers_object transport.lookup_name named null written

/-- A list is read as it is spelled, also where it may be null. -/
theorem Json.SpelledList.option_answers {item : Reader α} {spelled : α → List Char → Prop}
    {values : Option (List α)} {text : List Char}
    (option : SpelledOption (SpelledList spelled) values text)
    (each : ∀ value piece, spelled value piece → item.Answers piece (.ok value)) :
    (Json.readOptional (Json.readList item)).Answers text (.ok values) := by
  apply option.answers
  · rintro values piece ⟨pieces, list, -⟩
    obtain ⟨rest, rfl⟩ := list.written.exists_cons
    exact ⟨'[', rest, rfl, rfl, by decide⟩
  · exact fun values piece list => list.answers fun value _ => each value

/-- A level is read as it is spelled, also where it may be null. -/
theorem Level.SpelledBy.option_answers {level : Option Level} {text : List Char}
    (option : SpelledOption Level.SpelledBy level text) :
    (Json.readOptional Json.readDouble).Answers text (.ok level) := by
  apply option.answers
  · rintro level piece ⟨number, -⟩
    obtain ⟨c, rest, rfl, first⟩ := number.exists_cons
    refine ⟨c, rest, rfl, ?_, ?_⟩
    · obtain digit | rfl := first
      · exact Json.startsValue_of_isDigit digit
      · rfl
    · rintro rfl
      revert first
      decide
  · exact fun level piece spelled => spelled.answers

namespace MemberRef

/-- The fields of a reference are orderly. -/
theorem orderly : MemberRef.schema.Orderly where
  distinct field member := by
    simp only [schema, List.mem_cons, List.not_mem_nil, or_false] at member
    obtain rfl | rfl := member <;> rfl
  decides field member draft := by
    simp only [schema, List.mem_cons, List.not_mem_nil, or_false] at member
    obtain rfl | rfl := member <;>
      exact Json.RecordField.keptIn_decides (Json.readBounded_decides _ _) _
  marks field member other listed draft value next answers := by
    simp only [schema, List.mem_cons, List.not_mem_nil, or_false] at member listed
    obtain rfl | rfl := member <;> obtain ⟨read, rfl⟩ := Json.RecordField.exists_put answers <;>
      obtain rfl | rfl := listed <;> simp [RecordField.keptIn]
  fresh field member := by
    simp only [schema, List.mem_cons, List.not_mem_nil, or_false] at member
    obtain rfl | rfl := member <;> rfl

variable (member : MemberRef)

/-- The draft of a reference for the names that came. -/
def held (seen : List String) : MemberDraft where
  instrument := Json.heldIf "instrument" member.instrument.toNat seen
  index := Json.heldIf "index" member.index.toNat seen

/-- The schema of references reads the spellings of a reference. -/
theorem spells : MemberRef.schema.Spells member.spelling member.held member where
  blank := by
    simp only [held, Json.heldIf_nil]
    rfl
  each := by
    refine .cons (.keptIn (fun _ => rfl) ?_ (fun _ => Json.SpelledNatural.index_answers) ?_)
      (.cons (.keptIn (fun _ => rfl) ?_ (fun _ => Json.SpelledNatural.index_answers) ?_) .nil)
    all_goals simp [held, Json.heldIf]
  finish seen omitted := by
    simp only [spelling, List.forall_mem_cons] at omitted
    obtain ⟨instrument, index, -⟩ := omitted
    show MemberDraft.finish (member.held seen) = member
    simp only [MemberDraft.finish, held]
    rw [Json.getD_heldIf fun absent => (instrument absent).elim,
      Json.getD_heldIf fun absent => (index absent).elim, UInt64.ofNat_toNat, UInt64.ofNat_toNat]

/-- A reference is read from its spellings. -/
theorem SpelledBy.answers {text : List Char} (spelled : member.SpelledBy text) :
    MemberRef.schema.read.Answers text (.ok member) :=
  member.spells.answers orderly spelled

/-- What is flawed as a reference is refused. -/
theorem refuses_flawed {text : List Char} (flawed : FlawedRecord forms text) :
    MemberRef.schema.read.Refuses text := by
  apply Schema.refuses_flawed orderly _ flawed
  exact .cons (.flawless rfl fun _ => rfl) (.cons (.flawless rfl fun _ => rfl) .nil)

end MemberRef

namespace GroupConfig

/-- The fields of a group descriptor are orderly. -/
theorem orderly : GroupConfig.schema.Orderly where
  distinct field member := by
    simp only [schema, List.mem_cons, List.not_mem_nil, or_false] at member
    obtain rfl | rfl := member <;> rfl
  decides field member draft := by
    simp only [schema, List.mem_cons, List.not_mem_nil, or_false] at member
    obtain rfl | rfl := member
    · exact Json.RecordField.keptIn_decides Json.readText_decides _
    · exact Json.RecordField.keptIn_decides
        (Json.readList_decides (Schema.read_decides MemberRef.orderly)) _
  marks field member other listed draft value next answers := by
    simp only [schema, List.mem_cons, List.not_mem_nil, or_false] at member listed
    obtain rfl | rfl := member <;> obtain ⟨read, rfl⟩ := Json.RecordField.exists_put answers <;>
      obtain rfl | rfl := listed <;> simp [RecordField.keptIn]
  fresh field member := by
    simp only [schema, List.mem_cons, List.not_mem_nil, or_false] at member
    obtain rfl | rfl := member <;> rfl

variable (config : GroupConfig)

/-- The draft of a group descriptor for the names that came. -/
def held (seen : List String) : GroupDraft where
  name := Json.heldIf "name" config.name seen
  members := Json.heldIf "members" config.members seen

/-- The schema of group descriptors reads the spellings of a descriptor. -/
theorem spells : GroupConfig.schema.Spells config.spelling config.held config where
  blank := by
    simp only [held, Json.heldIf_nil]
    rfl
  each := by
    refine .cons (.keptIn (fun _ => rfl) ?_ (fun _ => Json.SpelledText.answers) ?_)
      (.cons (.keptIn (fun _ => rfl) ?_ (fun _ spelled => spelled.answers fun member _ _ =>
        MemberRef.SpelledBy.answers member) ?_) .nil)
    all_goals simp [held, Json.heldIf]
  finish seen omitted := by
    simp only [spelling, List.forall_mem_cons] at omitted
    obtain ⟨name, members, -⟩ := omitted
    show GroupDraft.finish (config.held seen) = config
    simp only [GroupDraft.finish, held]
    rw [Json.getD_heldIf fun absent => (name absent).elim, Json.getD_heldIf members]

/-- A group descriptor is read from its spellings. -/
theorem SpelledBy.answers {text : List Char} (spelled : config.SpelledBy text) :
    GroupConfig.schema.read.Answers text (.ok config) :=
  config.spells.answers orderly spelled

/-- What is flawed as a group descriptor is refused. -/
theorem refuses_flawed {text : List Char} (flawed : FlawedRecord forms text) :
    GroupConfig.schema.read.Refuses text := by
  apply Schema.refuses_flawed orderly _ flawed
  refine .cons (.flawless rfl fun _ => rfl)
    (.cons ⟨rfl, nofun, fun draft _ flaw => Json.RecordField.keptIn_refuses ?_ draft⟩ .nil)
  exact flaw.refuses (Schema.read_decides MemberRef.orderly) fun _ => MemberRef.refuses_flawed

end GroupConfig

namespace InstrumentConfig

/-- The fields of an instrument descriptor are orderly. -/
theorem orderly : InstrumentConfig.schema.Orderly where
  distinct field member := by
    simp only [schema, fields, List.mem_cons, List.not_mem_nil, or_false] at member
    obtain rfl | rfl | rfl | rfl | rfl | rfl | rfl | rfl := member <;> rfl
  decides field member draft := by
    have doubles := Json.readOptional_decides Json.readDouble_decides
    have offsets := Json.readOptional_decides (Json.readList_decides Json.readDouble_decides)
    have paths := Json.readOptional_decides (Json.readList_decides Json.readText_decides)
    simp only [schema, fields, List.mem_cons, List.not_mem_nil, or_false] at member
    obtain rfl | rfl | rfl | rfl | rfl | rfl | rfl | rfl := member <;>
      apply Json.RecordField.keptIn_decides
    · exact Json.readText_decides
    · exact Json.readChoice_decides _
    · exact Json.readText_decides
    · exact Json.readBounded_decides _ _
    · exact Json.readBounded_decides _ _
    · exact offsets
    · exact paths
    · exact doubles
  marks field member other listed draft value next answers := by
    simp only [schema, fields, List.mem_cons, List.not_mem_nil, or_false] at member listed
    obtain rfl | rfl | rfl | rfl | rfl | rfl | rfl | rfl := member <;>
      obtain ⟨read, rfl⟩ := Json.RecordField.exists_put answers <;>
      obtain rfl | rfl | rfl | rfl | rfl | rfl | rfl | rfl := listed <;>
      simp [RecordField.keptIn]
  fresh field member := by
    simp only [schema, fields, List.mem_cons, List.not_mem_nil, or_false] at member
    obtain rfl | rfl | rfl | rfl | rfl | rfl | rfl | rfl := member <;> rfl

variable (config : InstrumentConfig)

/-- The draft of an instrument descriptor for the names that came. -/
def held (seen : List String) : InstrumentDraft where
  model := Json.heldIf "model" config.model seen
  transport := Json.heldIf "transport" config.transport seen
  address := Json.heldIf "address" config.address seen
  port := Json.heldIf "port" config.port.toNat seen
  channelCount := Json.heldIf "channel_count" config.channelCount.toNat seen
  offsets := Json.heldIf "offsets" config.offsets seen
  paths := Json.heldIf "paths" config.paths seen
  maximum := Json.heldIf "max_attenuation" config.maximum seen

/-- The schema of instrument descriptors reads the spellings of a descriptor. -/
theorem spells : InstrumentConfig.schema.Spells config.spelling config.held config where
  blank := by
    simp only [held, Json.heldIf_nil]
    rfl
  each := by
    refine .cons (.keptIn (fun _ => rfl) ?_ (fun _ => Json.SpelledText.answers) ?_)
      (.cons (.keptIn (fun _ => rfl) ?_ (fun _ => Transport.SpelledBy.answers) ?_)
      (.cons (.keptIn (fun _ => rfl) ?_ (fun _ => Json.SpelledText.answers) ?_)
      (.cons (.keptIn (fun _ => rfl) ?_ (fun _ => Json.SpelledNatural.port_answers) ?_)
      (.cons (.keptIn (fun _ => rfl) ?_ (fun _ => Json.SpelledNatural.index_answers) ?_)
      (.cons (.keptIn (fun _ => rfl) ?_ (fun _ spelled =>
        Json.SpelledList.option_answers spelled fun _ _ => Level.SpelledBy.answers) ?_)
      (.cons (.keptIn (fun _ => rfl) ?_ (fun _ spelled =>
        Json.SpelledList.option_answers spelled fun _ _ => Json.SpelledText.answers) ?_)
      (.cons (.keptIn (fun _ => rfl) ?_ (fun _ => Level.SpelledBy.option_answers) ?_) .nil)))))))
    all_goals simp [held, Json.heldIf]
  finish seen omitted := by
    simp only [spelling, List.forall_mem_cons] at omitted
    obtain ⟨model, transport, address, port, channelCount, offsets, paths, maximum, -⟩ := omitted
    have telnet : "transport" ∉ seen → config.transport = default := transport
    have standard : "port" ∉ seen → config.port = InstrumentConfig.defaultPort := port
    show InstrumentDraft.finish (config.held seen) = config
    simp only [InstrumentDraft.finish, held]
    rw [Json.map_heldIf, UInt16.ofNat_toNat, Json.getD_heldIf fun absent => (model absent).elim,
      Json.getD_heldIf telnet, Json.getD_heldIf address, Json.getD_heldIf standard,
      Json.getD_heldIf fun absent => (channelCount absent).elim, UInt64.ofNat_toNat,
      Json.getD_heldIf offsets, Json.getD_heldIf paths, Json.getD_heldIf maximum]

/-- An instrument descriptor is read from its spellings. -/
theorem SpelledBy.answers {text : List Char} (spelled : config.SpelledBy text) :
    InstrumentConfig.schema.read.Answers text (.ok config) :=
  config.spells.answers orderly spelled

/-- What is flawed as an instrument descriptor is refused. -/
theorem refuses_flawed {text : List Char} (flawed : FlawedRecord forms text) :
    InstrumentConfig.schema.read.Refuses text := by
  apply Schema.refuses_flawed orderly _ flawed
  exact .cons (.flawless rfl fun _ => rfl) (.cons (.flawless rfl nofun)
    (.cons (.flawless rfl nofun) (.cons (.flawless rfl nofun)
    (.cons (.flawless rfl fun _ => rfl) (.cons (.flawless rfl nofun)
    (.cons (.flawless rfl nofun) (.cons (.flawless rfl nofun) .nil)))))))

end InstrumentConfig

namespace RackConfig

/-- The fields of the description of a rack are orderly. -/
theorem orderly : RackConfig.schema.Orderly where
  distinct field member := by
    simp only [schema, List.mem_cons, List.not_mem_nil, or_false] at member
    obtain rfl | rfl := member <;> rfl
  decides field member draft := by
    simp only [schema, List.mem_cons, List.not_mem_nil, or_false] at member
    obtain rfl | rfl := member <;> apply Json.RecordField.keptIn_decides
    · exact Json.readList_decides (Schema.read_decides InstrumentConfig.orderly)
    · exact Json.readList_decides (Schema.read_decides GroupConfig.orderly)
  marks field member other listed draft value next answers := by
    simp only [schema, List.mem_cons, List.not_mem_nil, or_false] at member listed
    obtain rfl | rfl := member <;> obtain ⟨read, rfl⟩ := Json.RecordField.exists_put answers <;>
      obtain rfl | rfl := listed <;> simp [RecordField.keptIn]
  fresh field member := by
    simp only [schema, List.mem_cons, List.not_mem_nil, or_false] at member
    obtain rfl | rfl := member <;> rfl

/-- The draft of the description of a rack for the names that came. -/
def held (config : RackConfig) (seen : List String) : RackDraft where
  instruments := Json.heldIf "instruments" config.instruments seen
  groups := Json.heldIf "groups" config.groups seen

/-- The schema of rack descriptions reads the spellings of a description. -/
theorem spells (config : RackConfig) :
    RackConfig.schema.Spells config.spelling config.held config where
  blank := by
    simp only [held, Json.heldIf_nil]
    rfl
  each := by
    refine .cons (.keptIn (fun _ => rfl) ?_ (fun _ spelled => spelled.answers fun instrument _ _ =>
        InstrumentConfig.SpelledBy.answers instrument) ?_)
      (.cons (.keptIn (fun _ => rfl) ?_ (fun _ spelled => spelled.answers fun group _ _ =>
        GroupConfig.SpelledBy.answers group) ?_) .nil)
    all_goals simp [held, Json.heldIf]
  finish seen omitted := by
    simp only [spelling, List.forall_mem_cons] at omitted
    obtain ⟨instruments, groups, -⟩ := omitted
    show RackDraft.finish (config.held seen) = config
    simp only [RackDraft.finish, held]
    rw [Json.getD_heldIf instruments, Json.getD_heldIf groups]

/-- What is flawed as the description of a rack is refused. -/
theorem refuses_flawed {text : List Char} (flawed : FlawedRecord forms text) :
    RackConfig.schema.read.Refuses text := by
  apply Schema.refuses_flawed orderly _ flawed
  refine .cons ⟨rfl, nofun, fun draft _ flaw => Json.RecordField.keptIn_refuses ?_ draft⟩
    (.cons ⟨rfl, nofun, fun draft _ flaw => Json.RecordField.keptIn_refuses ?_ draft⟩ .nil)
  · exact flaw.refuses (Schema.read_decides InstrumentConfig.orderly) fun _ =>
      InstrumentConfig.refuses_flawed
  · exact flaw.refuses (Schema.read_decides GroupConfig.orderly) fun _ => GroupConfig.refuses_flawed

/-- The groups may stand in front of the instruments and behind an unknown member, the records in
them may be lists that end early, and a transport may be an object. -/
theorem scattered_spelledBy :
    SpelledBy ⟨[⟨"SIM-1", .simulated, "", 23, 1, none, none, none⟩], [⟨"main", []⟩]⟩
      (Json.Value.object [("note", .list [.object []]), ("groups", .list [.list [.text "main"]]),
        ("instruments", .list [.list [.text "SIM-1", .object [("simulated", .null)], .text "",
          .natural 23, .natural 1]])]).compact := by
  have isBlank := Json.Style.compact_isBlank
  have group : GroupConfig.SpelledBy ⟨"main", []⟩
      ((Json.Value.list [.text "main"]).write .compact 2) := by
    refine .list (Json.isList_write isBlank _ 2) (List.take_append_drop 1 _).symm
      (.cons (.written 3 "main") .nil) ?_
    simp [GroupConfig.spelling]
  have transport : Transport.SpelledBy .simulated
      ((Json.Value.object [("simulated", .null)]).write .compact 3) :=
    .object (Json.isObject_write isBlank [("simulated", .null)] 3).written
      (Json.spellsString_written "simulated".toList) rfl
  have instrument : InstrumentConfig.SpelledBy ⟨"SIM-1", .simulated, "", 23, 1, none, none, none⟩
      ((Json.Value.list [.text "SIM-1", .object [("simulated", .null)], .text "", .natural 23,
        .natural 1]).write .compact 2) := by
    refine .list (Json.isList_write isBlank _ 2) (List.take_append_drop 5 _).symm
      (.cons (.written 3 "SIM-1") <| .cons transport <| .cons (.written 3 "") <| .cons rfl <|
        .cons rfl .nil) ?_
    simp [InstrumentConfig.spelling]
  apply SpelledBy.alone
  refine .object (Json.isObject_write isBlank _ 0)
    (.extra (Json.spellsString_written "note".toList) (by simp [spelling])
    (.field (List.mem_cons_of_mem _ List.mem_cons_self) (by simp)
      (Json.spellsString_written "groups".toList)
      ⟨_, Json.isList_write isBlank _ 1, .cons group .nil⟩
    (.field List.mem_cons_self (by simp) (Json.spellsString_written "instruments".toList)
      ⟨_, Json.isList_write isBlank _ 1, .cons instrument .nil⟩ (.done ?_))))
  simp [spelling]

/-- A group without a name is flawed, and so is what holds it. -/
theorem unnamed_flawed :
    Flawed (Json.Value.object [("groups", .list [.object [("members", .list [])]])]).compact := by
  have isBlank := Json.Style.compact_isBlank
  have group : FlawedRecord GroupConfig.forms
      ((Json.Value.object [("members", .list [])]).write .compact 2) := by
    refine .absent (Json.isObject_write isBlank _ 2) List.mem_cons_self rfl ?_
    intro entry listed named
    rw [List.mem_singleton.mp listed] at named
    have same := named.unique (Json.spellsString_written "members".toList)
    revert same
    decide
  apply Flawed.alone
  exact .member (Json.isObject_write isBlank _ 0) (List.mem_cons_of_mem _ List.mem_cons_self)
    List.mem_cons_self (Json.spellsString_written "groups".toList)
    ⟨_, Json.isList_write isBlank _ 1, _, List.mem_cons_self, group⟩

/-- **Every spelling of the description of a rack is read as it, and no flawed text is read.** A
description is spelled by records within records, three deep. Each record is an object or a list,
with its fields in any order and unknown members of any JSON value between them, with fields left
out that have their defaults, with any escapes in strings and any white space between lexemes. A
text is flawed if one of its records is an object that names a field twice or leaves out a required
one, whatever else is in the text. -/
theorem ofJsonText_spelled :
    (∀ (config : RackConfig) (text : String), config.SpelledBy text →
      ofJsonText text = .ok config) ∧
    (∀ text : String, Flawed text → ∃ fault, ofJsonText text = .error fault) := by
  constructor
  · rintro config text ⟨before, spelled, after, front, back, spells, same⟩
    exact (config.spells.answers orderly spells).readWhole front back same
  · rintro text ⟨before, flawed, after, front, back, flaw, same⟩
    obtain ⟨fault, answers⟩ := refuses_flawed flaw
    exact ⟨fault, answers.readWhole front back same⟩

/-- A scattered spelling is read, and a group without a name is not. -/
theorem ofJsonText_spelled_scattered :
    ofJsonText (Json.Value.object [("note", .list [.object []]),
        ("groups", .list [.list [.text "main"]]), ("instruments", .list [.list [.text "SIM-1",
          .object [("simulated", .null)], .text "", .natural 23, .natural 1]])]).compact =
      .ok ⟨[⟨"SIM-1", .simulated, "", 23, 1, none, none, none⟩], [⟨"main", []⟩]⟩ ∧
    ∃ fault, ofJsonText
      (Json.Value.object [("groups", .list [.object [("members", .list [])]])]).compact =
        .error fault :=
  ⟨ofJsonText_spelled.1 _ _ scattered_spelledBy, ofJsonText_spelled.2 _ unnamed_flawed⟩

end RackConfig

end Attenuation
