import Attenuation.Catalog
import Attenuation.Group
import Attenuation.Rack.Status

/-!
# Racks

A rack is built from its description: every instrument is connected and gets one calibrated
attenuator per channel, and every group is made of attenuators of those instruments. The first
problem in the order of the description ends the building.
-/

namespace Attenuation

/-- One instrument of a rack with its attenuators. -/
structure RackInstrument where
  /-- The session that reaches the instrument. -/
  session : SessionId
  /-- The attenuators in the order of their channels. -/
  attenuators : List Attenuator

/-- A built rack. -/
structure Rack where
  /-- The instruments in the order of the description. -/
  instruments : List RackInstrument
  /-- The groups in the order of the description. -/
  groups : List Group

namespace Rack

/-- A rack with nothing in it. -/
def empty : Rack := ⟨[], []⟩

/-- Every attenuator, instrument by instrument. -/
def attenuators (rack : Rack) : List Attenuator := rack.instruments.flatMap (·.attenuators)

/-- The attenuator of a channel among instruments. -/
def channelOf? (instruments : List RackInstrument) (instrument index : Nat) :
    Option Attenuator := do
  (← instruments[instrument]?).attenuators[index]?

/-- The attenuator of a channel of an instrument. -/
def attenuator? (rack : Rack) (instrument index : Nat) : Option Attenuator :=
  channelOf? rack.instruments instrument index

/-- The first attenuator with a path label. -/
def findByPath? (rack : Rack) (path : String) : Option Attenuator :=
  rack.attenuators.find? fun attenuator => attenuator.path == some path

/-- The group of a name. -/
def group? (rack : Rack) (name : String) : Option Group :=
  rack.groups.find? fun group => group.name == name

/-- The group of a name, or the fault that there is none. -/
def requireGroup (rack : Rack) (name : String) : Except RackFault Group :=
  match rack.group? name with
  | some group => .ok group
  | none => .error (.groupNotFound name)

/-- Put a group in the place of the first group of a name. -/
def replaceFirst (name : String) (group : Group) : List Group → List Group
  | [] => []
  | other :: rest =>
    if other.name == name then group :: rest else other :: replaceFirst name group rest

/-- Put a group in the place of the first group of a name. -/
def putGroup (rack : Rack) (name : String) (group : Group) : Rack :=
  { rack with groups := replaceFirst name group rack.groups }

/-- The first group of a name and a way to put another one in its place. -/
def firstForChange? (name : String) : List Group → Option (Group × (Group → List Group))
  | [] => none
  | group :: rest =>
    if group.name == name then some (group, fun changed => changed :: rest)
    else (firstForChange? name rest).map fun (found, put) =>
      (found, fun changed => group :: put changed)

/-- The group of a name and a way to change it in the rack. -/
def groupForChange? (rack : Rack) (name : String) : Option (Group × (Group → Rack)) :=
  (firstForChange? name rack.groups).map fun (group, put) =>
    (group, fun changed => { rack with groups := put changed })

/-- The group of a name and a way to change it in the rack, or the fault that there is none. -/
def requireGroupForChange (rack : Rack) (name : String) :
    Except RackFault (Group × (Group → Rack)) :=
  match rack.groupForChange? name with
  | some found => .ok found
  | none => .error (.groupNotFound name)

/-- Take the group of a name out of the rack. -/
def takeGroup? (rack : Rack) (name : String) : Option (Group × Rack) := do
  let group ← rack.group? name
  return (group, { rack with groups := rack.groups.eraseP fun group => group.name == name })

/-- Create the attenuator of a channel with its offset and its path label. -/
def buildAttenuator (config : InstrumentConfig) (session : SessionId) (index : Nat) :
    Action RackFault Attenuator := do
  let attenuator ←
    (Attenuator.create session index (config.offset index)).mapFault .operation
  match config.path index with
  | some path => return attenuator.withPath path
  | none => return attenuator

/-- Connect an instrument and create its attenuators. -/
def buildInstrument (catalog : Catalog) (config : InstrumentConfig) :
    Action RackFault RackInstrument := do
  let session ← catalog.connect config
  let reported ← (Session.channelCount session).mapFault fun fault => .operation (.session fault)
  let configured := config.channelCount.toNat
  if reported = configured then
    let attenuators ← (List.range configured).mapM (buildAttenuator config session)
    Action.emit (.connected config.model config.transport configured)
    return { session, attenuators }
  else Action.fail (.channelCountMismatch config.model configured reported)

/-- Append the channel of a reference to a group. -/
def addMember (instruments : List RackInstrument) (group : Group) (member : MemberRef) :
    Action RackFault Group :=
  match channelOf? instruments member.instrument.toNat member.index.toNat with
  | some attenuator => group.add attenuator
  | none =>
    Action.fail (.unknownMember group.name member.instrument.toNat member.index.toNat)

/-- Build a group from the channels of built instruments. -/
def buildGroup (instruments : List RackInstrument) (config : GroupConfig) :
    Action RackFault Group := do
  let group ← config.members.foldlM (addMember instruments) (Group.empty config.name)
  Action.emit (.groupBuilt group.name group.size)
  return group

/-- Build a rack: check its description, connect every instrument, and build its groups. -/
def build (config : RackConfig) (catalog : Catalog) : Action RackFault Rack := do
  (Action.ofExcept config.validate).mapFault .config
  let instruments ← config.instruments.mapM (buildInstrument catalog)
  let groups ← config.groups.mapM (buildGroup instruments)
  return { instruments, groups }

/-- The remembered level of a group. -/
def groupStatus (group : Group) : GroupStatus :=
  ⟨group.name, group.size, group.lastCommanded⟩

/-- Take a snapshot. No channel is read. -/
def status (rack : Rack) : Action RackFault RackStatus := do
  let instruments ← rack.instruments.mapM fun instrument =>
    (Session.info instrument.session).mapFault fun fault => RackFault.operation (.session fault)
  return { instruments, groups := rack.groups.map groupStatus }

end Rack

end Attenuation
