import Attenuation.Instrument
import Attenuation.Json.Record

/-!
# Rack snapshots

A snapshot of a rack lists the properties of its instruments and the remembered levels of its
groups. It is written as JSON and can be read back.
-/

namespace Attenuation

open Json (Reader RecordField Schema Value)

/-- The remembered level of one group. -/
structure GroupStatus where
  /-- The name of the group. -/
  name : String
  /-- The number of members. -/
  members : Nat
  /-- The last level that every member accepted. -/
  attenuation : Level

/-- A snapshot of a rack. -/
structure RackStatus where
  /-- The properties of the instruments. -/
  instruments : List InstrumentInfo
  /-- The remembered levels of the groups. -/
  groups : List GroupStatus

/-- The properties of an instrument that are being read. -/
structure InfoDraft where
  /-- The model name. -/
  model : Option String := none
  /-- The number of channels. -/
  channelCount : Option Nat := none
  /-- The maximum, which may be null. -/
  maximum : Option (Option Level) := none

/-- The properties of a draft. -/
def InfoDraft.finish (draft : InfoDraft) : InstrumentInfo where
  model := draft.model.getD ""
  channelCount := draft.channelCount.getD 0
  maximum := draft.maximum.getD none

/-- The form of the properties of an instrument. An object may leave out the maximum. -/
def InstrumentInfo.schema : Schema InfoDraft InstrumentInfo where
  name := "InstrumentInfo"
  fields := [
    .keptIn "model" Json.readText (·.model) (fun d v => { d with model := some v }) false false,
    .keptIn "channel_count" Json.readIndex (·.channelCount)
      (fun d v => { d with channelCount := some v }) false false,
    .keptIn "max_attenuation" (Json.readOptional Json.readDouble) (·.maximum)
      (fun d v => { d with maximum := some v }) true false]
  blank := {}
  finish := InfoDraft.finish

/-- The properties of an instrument as a JSON value. -/
def InstrumentInfo.toJson (info : InstrumentInfo) : Value := .object [
  ("model", .text info.model),
  ("channel_count", .natural info.channelCount),
  ("max_attenuation", .optional Value.real info.maximum)]

/-- The status of a group that is being read. -/
structure GroupStatusDraft where
  /-- The name of the group. -/
  name : Option String := none
  /-- The number of members. -/
  members : Option Nat := none
  /-- The remembered level. -/
  attenuation : Option Level := none

/-- The status of a draft. -/
def GroupStatusDraft.finish (draft : GroupStatusDraft) : GroupStatus where
  name := draft.name.getD ""
  members := draft.members.getD 0
  attenuation := draft.attenuation.getD 0.0

/-- The form of the status of a group. -/
def GroupStatus.schema : Schema GroupStatusDraft GroupStatus where
  name := "GroupStatus"
  fields := [
    .keptIn "name" Json.readText (·.name) (fun d v => { d with name := some v }) false false,
    .keptIn "members" Json.readIndex (·.members)
      (fun d v => { d with members := some v }) false false,
    .keptIn "attenuation" Json.readDouble (·.attenuation)
      (fun d v => { d with attenuation := some v }) false false]
  blank := {}
  finish := GroupStatusDraft.finish

/-- The status of a group as a JSON value. -/
def GroupStatus.toJson (status : GroupStatus) : Value := .object [
  ("name", .text status.name),
  ("members", .natural status.members),
  ("attenuation", .real status.attenuation)]

/-- A snapshot that is being read. -/
structure RackStatusDraft where
  /-- The instruments. -/
  instruments : Option (List InstrumentInfo) := none
  /-- The groups. -/
  groups : Option (List GroupStatus) := none

/-- The snapshot of a draft. -/
def RackStatusDraft.finish (draft : RackStatusDraft) : RackStatus where
  instruments := draft.instruments.getD []
  groups := draft.groups.getD []

/-- The form of a snapshot. -/
def RackStatus.schema : Schema RackStatusDraft RackStatus where
  name := "RackStatus"
  fields := [
    .keptIn "instruments" (Json.readList InstrumentInfo.schema.read) (·.instruments)
      (fun d v => { d with instruments := some v }) false false,
    .keptIn "groups" (Json.readList GroupStatus.schema.read) (·.groups)
      (fun d v => { d with groups := some v }) false false]
  blank := {}
  finish := RackStatusDraft.finish

/-- A snapshot as a JSON value. -/
def RackStatus.toJson (status : RackStatus) : Value := .object [
  ("instruments", .list (status.instruments.map InstrumentInfo.toJson)),
  ("groups", .list (status.groups.map GroupStatus.toJson))]

/-- The text of a snapshot. -/
def RackStatus.text (status : RackStatus) : String := status.toJson.pretty

/-- The snapshot that a JSON text stands for. -/
def RackStatus.ofJsonText (text : String) : Except Json.Fault RackStatus :=
  Json.readWhole RackStatus.schema.read text

end Attenuation
