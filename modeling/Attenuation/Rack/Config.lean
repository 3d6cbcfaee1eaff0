import Attenuation.Level
import Attenuation.Text.Blank
import Attenuation.Transport

/-!
# Rack descriptions

A rack is described by its instruments, with the calibration of their channels, and by groups of
those channels. A description is checked before anything is connected: lists of offsets and of
paths that are shorter than the channel count are faults and are never filled up.
-/

namespace Attenuation

/-- One instrument of a rack. -/
structure InstrumentConfig where
  /-- The model name, which picks the driver together with the transport. -/
  model : String
  /-- How the instrument is reached. -/
  transport : Transport
  /-- The host or the serial device. -/
  address : String
  /-- The network port. -/
  port : UInt16
  /-- The number of channels to use. -/
  channelCount : UInt64
  /-- The calibration offset of each channel. -/
  offsets : Option (List Level)
  /-- The path label of each channel. -/
  paths : Option (List String)
  /-- The maximum of a simulated instrument. -/
  maximum : Option Level
deriving BEq

/-- The network port of a descriptor that names none. -/
def InstrumentConfig.defaultPort : UInt16 := 23

/-- A channel of a described instrument. -/
structure MemberRef where
  /-- The position of the instrument. -/
  instrument : UInt64
  /-- The channel. -/
  index : UInt64
deriving BEq, DecidableEq, Repr

/-- One group of a rack. -/
structure GroupConfig where
  /-- The name of the group. -/
  name : String
  /-- The members in the order in which they are commanded. -/
  members : List MemberRef
deriving BEq, DecidableEq, Repr

/-- The description of a rack. -/
structure RackConfig where
  /-- The instruments. -/
  instruments : List InstrumentConfig
  /-- The groups. -/
  groups : List GroupConfig
deriving BEq

/-- What is wrong with a description. -/
inductive ConfigFault where
  /-- An instrument has no model name. -/
  | emptyModel (instrument : Nat)
  /-- An instrument has fewer offsets than channels. -/
  | missingOffsets (instrument given channelCount : Nat)
  /-- An instrument has fewer path labels than channels. -/
  | missingPaths (instrument given channelCount : Nat)
  /-- Two groups have one name. -/
  | duplicateGroup (name : String)
deriving Repr, DecidableEq

/-- The message of a fault in a description. -/
def ConfigFault.message : ConfigFault → String
  | .emptyModel instrument => s!"instrument {instrument}: model name is empty"
  | .missingOffsets instrument given channelCount =>
    s!"instrument {instrument}: {given} offsets for {channelCount} channels"
  | .missingPaths instrument given channelCount =>
    s!"instrument {instrument}: {given} paths for {channelCount} channels"
  | .duplicateGroup name => s!"duplicate group name: {name}"

namespace InstrumentConfig

/-- The offset of a channel, 0 dB where none is listed. -/
def offset (config : InstrumentConfig) (index : Nat) : Level :=
  ((config.offsets.getD [])[index]?).getD 0.0

/-- The path label of a channel, if one is listed. -/
def path (config : InstrumentConfig) (index : Nat) : Option String :=
  (config.paths.getD [])[index]?

/-- The length of a list that is shorter than the channel count. -/
def short? {α : Type} (config : InstrumentConfig) (list : Option (List α)) : Option Nat :=
  match list with
  | none => none
  | some items =>
    if items.length < config.channelCount.toNat then some items.length else none

/-- Check the instrument at a position: its model name, then its offsets, then its paths. -/
def validate (config : InstrumentConfig) (position : Nat) : Except ConfigFault Unit :=
  if Text.isBlankText config.model then .error (.emptyModel position)
  else
    match config.short? config.offsets with
    | some given => .error (.missingOffsets position given config.channelCount.toNat)
    | none =>
      match config.short? config.paths with
      | some given => .error (.missingPaths position given config.channelCount.toNat)
      | none => .ok ()

end InstrumentConfig

namespace RackConfig

/-- Check instruments in order, the first of them at a position. -/
def validateInstruments (position : Nat) : List InstrumentConfig → Except ConfigFault Unit
  | [] => .ok ()
  | config :: rest =>
    match config.validate position with
    | .error fault => .error fault
    | .ok () => validateInstruments (position + 1) rest

/-- Check that no name occurs among the names in front of it. -/
def validateNames (seen : List String) : List String → Except ConfigFault Unit
  | [] => .ok ()
  | name :: rest =>
    if seen.contains name then .error (.duplicateGroup name) else validateNames (name :: seen) rest

/-- Check a description: the instruments in order, then the names of the groups. -/
def validate (config : RackConfig) : Except ConfigFault Unit :=
  match validateInstruments 0 config.instruments with
  | .error fault => .error fault
  | .ok () => validateNames [] (config.groups.map GroupConfig.name)

end RackConfig

end Attenuation
