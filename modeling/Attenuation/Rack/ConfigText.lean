import Attenuation.Json.Record
import Attenuation.Rack.Config
import Attenuation.Simulator

/-!
# Descriptions as JSON

How the descriptions of racks and of simulated instruments are read and written. Every field is
written, in the order of its declaration; a field with a default may be left out where it is read.
-/

namespace Attenuation

open Json (Reader RecordField Schema Value)

/-- The transports by their names. -/
def Transport.choices : List (String × Transport) := Transport.all.map fun t => (t.name, t)

/-- Read a transport. -/
def Transport.reader : Reader Transport := Json.readChoice Transport.choices

/-- A transport as a JSON value. -/
def Transport.toJson (transport : Transport) : Value := .text transport.name

/-- The transport that a JSON text stands for. -/
def Transport.ofJsonText (text : String) : Except Json.Fault Transport :=
  Json.readWhole Transport.reader text

/-- An instrument descriptor that is being read. -/
structure InstrumentDraft where
  /-- The model name. -/
  model : Option String := none
  /-- The transport. -/
  transport : Option Transport := none
  /-- The host or the serial device. -/
  address : Option String := none
  /-- The network port. -/
  port : Option Nat := none
  /-- The number of channels. -/
  channelCount : Option Nat := none
  /-- The offsets, which may be null. -/
  offsets : Option (Option (List Level)) := none
  /-- The path labels, which may be null. -/
  paths : Option (Option (List String)) := none
  /-- The maximum, which may be null. -/
  maximum : Option (Option Level) := none

/-- The descriptor of a draft, with the defaults of the fields that are open. -/
def InstrumentDraft.finish (draft : InstrumentDraft) : InstrumentConfig where
  model := draft.model.getD ""
  transport := draft.transport.getD default
  address := draft.address.getD ""
  port := (draft.port.map UInt16.ofNat).getD InstrumentConfig.defaultPort
  channelCount := UInt64.ofNat (draft.channelCount.getD 0)
  offsets := draft.offsets.getD none
  paths := draft.paths.getD none
  maximum := draft.maximum.getD none

/-- The fields of an instrument descriptor. -/
def InstrumentConfig.fields : List (RecordField InstrumentDraft) := [
  .keptIn "model" Json.readText (·.model) (fun d v => { d with model := some v }) false false,
  .keptIn "transport" Transport.reader (·.transport)
    (fun d v => { d with transport := some v }) true true,
  .keptIn "address" Json.readText (·.address) (fun d v => { d with address := some v }) true true,
  .keptIn "port" Json.readPort (·.port) (fun d v => { d with port := some v }) true true,
  .keptIn "channel_count" Json.readIndex (·.channelCount)
    (fun d v => { d with channelCount := some v }) false false,
  .keptIn "offsets" (Json.readOptional (Json.readList Json.readDouble)) (·.offsets)
    (fun d v => { d with offsets := some v }) true true,
  .keptIn "paths" (Json.readOptional (Json.readList Json.readText)) (·.paths)
    (fun d v => { d with paths := some v }) true true,
  .keptIn "max_attenuation" (Json.readOptional Json.readDouble) (·.maximum)
    (fun d v => { d with maximum := some v }) true true]

/-- The form of an instrument descriptor. -/
def InstrumentConfig.schema : Schema InstrumentDraft InstrumentConfig where
  name := "InstrumentConfig"
  fields := InstrumentConfig.fields
  blank := {}
  finish := InstrumentDraft.finish

/-- An instrument descriptor as a JSON value. -/
def InstrumentConfig.toJson (config : InstrumentConfig) : Value := .object [
  ("model", .text config.model),
  ("transport", config.transport.toJson),
  ("address", .text config.address),
  ("port", .natural config.port.toNat),
  ("channel_count", .natural config.channelCount.toNat),
  ("offsets", .optional (fun offsets => .list (offsets.map Value.real)) config.offsets),
  ("paths", .optional (fun paths => .list (paths.map Value.text)) config.paths),
  ("max_attenuation", .optional Value.real config.maximum)]

/-- A reference to a channel that is being read. -/
structure MemberDraft where
  /-- The position of the instrument. -/
  instrument : Option Nat := none
  /-- The channel. -/
  index : Option Nat := none

/-- The reference of a draft. -/
def MemberDraft.finish (draft : MemberDraft) : MemberRef where
  instrument := UInt64.ofNat (draft.instrument.getD 0)
  index := UInt64.ofNat (draft.index.getD 0)

/-- The form of a reference to a channel. -/
def MemberRef.schema : Schema MemberDraft MemberRef where
  name := "MemberRef"
  fields := [
    .keptIn "instrument" Json.readIndex (·.instrument)
      (fun d v => { d with instrument := some v }) false false,
    .keptIn "index" Json.readIndex (·.index) (fun d v => { d with index := some v }) false false]
  blank := {}
  finish := MemberDraft.finish

/-- A reference to a channel as a JSON value. -/
def MemberRef.toJson (member : MemberRef) : Value := .object [
  ("instrument", .natural member.instrument.toNat),
  ("index", .natural member.index.toNat)]

/-- A group descriptor that is being read. -/
structure GroupDraft where
  /-- The name of the group. -/
  name : Option String := none
  /-- The members. -/
  members : Option (List MemberRef) := none

/-- The descriptor of a draft. -/
def GroupDraft.finish (draft : GroupDraft) : GroupConfig where
  name := draft.name.getD ""
  members := draft.members.getD []

/-- The form of a group descriptor. -/
def GroupConfig.schema : Schema GroupDraft GroupConfig where
  name := "GroupConfig"
  fields := [
    .keptIn "name" Json.readText (·.name) (fun d v => { d with name := some v }) false false,
    .keptIn "members" (Json.readList MemberRef.schema.read) (·.members)
      (fun d v => { d with members := some v }) true true]
  blank := {}
  finish := GroupDraft.finish

/-- A group descriptor as a JSON value. -/
def GroupConfig.toJson (config : GroupConfig) : Value := .object [
  ("name", .text config.name),
  ("members", .list (config.members.map MemberRef.toJson))]

/-- The description of a rack that is being read. -/
structure RackDraft where
  /-- The instruments. -/
  instruments : Option (List InstrumentConfig) := none
  /-- The groups. -/
  groups : Option (List GroupConfig) := none

/-- The description of a draft. -/
def RackDraft.finish (draft : RackDraft) : RackConfig where
  instruments := draft.instruments.getD []
  groups := draft.groups.getD []

/-- The form of the description of a rack. -/
def RackConfig.schema : Schema RackDraft RackConfig where
  name := "RackConfig"
  fields := [
    .keptIn "instruments" (Json.readList InstrumentConfig.schema.read) (·.instruments)
      (fun d v => { d with instruments := some v }) true true,
    .keptIn "groups" (Json.readList GroupConfig.schema.read) (·.groups)
      (fun d v => { d with groups := some v }) true true]
  blank := {}
  finish := RackDraft.finish

/-- The description of a rack as a JSON value. -/
def RackConfig.toJson (config : RackConfig) : Value := .object [
  ("instruments", .list (config.instruments.map InstrumentConfig.toJson)),
  ("groups", .list (config.groups.map GroupConfig.toJson))]

/-- The text that a description is saved as. -/
def RackConfig.save (config : RackConfig) : String := config.toJson.pretty

/-- The description that a JSON text stands for. -/
def RackConfig.ofJsonText (text : String) : Except Json.Fault RackConfig :=
  Json.readWhole RackConfig.schema.read text

/-- The description of a simulated instrument that is being read. -/
structure SimulatorDraft where
  /-- The model name. -/
  model : Option String := none
  /-- The number of channels. -/
  channelCount : Option Nat := none
  /-- The maximum, which may be null. -/
  maximum : Option (Option Level) := none
  /-- The step, which may be null. -/
  step : Option (Option Level) := none

/-- The description of a draft. -/
def SimulatorDraft.finish (draft : SimulatorDraft) : SimulatorConfig where
  model := draft.model.getD ""
  channelCount := draft.channelCount.getD 0
  maximum := draft.maximum.getD none
  step := draft.step.getD none

/-- The form of the description of a simulated instrument. -/
def SimulatorConfig.schema : Schema SimulatorDraft SimulatorConfig where
  name := "VirtualInstrumentConfig"
  fields := [
    .keptIn "model" Json.readText (·.model) (fun d v => { d with model := some v }) false false,
    .keptIn "channel_count" Json.readIndex (·.channelCount)
      (fun d v => { d with channelCount := some v }) false false,
    .keptIn "max_attenuation" (Json.readOptional Json.readDouble) (·.maximum)
      (fun d v => { d with maximum := some v }) true true,
    .keptIn "step_db" (Json.readOptional Json.readDouble) (·.step)
      (fun d v => { d with step := some v }) true true]
  blank := {}
  finish := SimulatorDraft.finish

/-- The description of a simulated instrument as a JSON value. -/
def SimulatorConfig.toJson (config : SimulatorConfig) : Value := .object [
  ("model", .text config.model),
  ("channel_count", .natural config.channelCount),
  ("max_attenuation", .optional Value.real config.maximum),
  ("step_db", .optional Value.real config.step)]

/-- The description of a simulated instrument that a JSON text stands for. -/
def SimulatorConfig.ofJsonText (text : String) : Except Json.Fault SimulatorConfig :=
  Json.readWhole SimulatorConfig.schema.read text

end Attenuation
