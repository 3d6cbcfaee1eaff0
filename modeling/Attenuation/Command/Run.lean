import Attenuation.Command
import Attenuation.Rack
import Attenuation.Text.Blank

/-!
# Carrying out commands

A command is carried out on a rack and gives the text to print. A command that fails leaves the
rack as it was.
-/

namespace Attenuation

namespace Rack

/-- The maximum of an instrument in a listing. -/
def listedMaximum {ε : Type} (instrument : RackInstrument) : Action ε String := do
  match ← (Session.maximum instrument.session).attempt with
  | .ok (some maximum) => return Level.text maximum ++ " dB"
  | .ok none => return "unknown"
  | .error fault => return "unavailable (" ++ fault.message ++ ")"

/-- The line of an attenuator in a listing. -/
def listedAttenuator (attenuator : Attenuator) : String :=
  "  " ++ attenuator.describe ++ " offset " ++ Level.text attenuator.offset ++ " dB\n"

/-- The lines of an instrument in a listing. -/
def listedInstrument {ε : Type} (instrument : RackInstrument) (position : Nat) :
    Action ε String := do
  let maximum ← listedMaximum instrument
  return s!"instrument {position}: max {maximum}\n" ++
    String.join (instrument.attenuators.map listedAttenuator)

/-- The line of a group in a listing. -/
def listedGroup (group : Group) : String :=
  s!"group {group.name}: " ++
    String.intercalate ", " (group.members.map Attenuator.describe) ++ "\n"

/-- List the instruments with their attenuators, and the groups. White space at the end is
dropped. -/
def listing {ε : Type} (rack : Rack) : Action ε String := do
  let instruments ← rack.instruments.zipIdx.mapM fun entry => listedInstrument entry.1 entry.2
  return Text.dropTrailingBlanks
    (String.join instruments ++ String.join (rack.groups.map listedGroup))

end Rack

namespace Command

/-- The attenuator of a channel. -/
def channel (rack : Rack) (instrument index : Nat) : Action CommandFault Attenuator :=
  match rack.attenuator? instrument index with
  | some attenuator => pure attenuator
  | none => Action.fail (.noAttenuator instrument index)

/-- The group of a name. -/
def group (rack : Rack) (name : String) : Action CommandFault Group :=
  (Action.ofExcept (rack.requireGroup name)).mapFault .rack

/-- A stopped group as the fault of a command. -/
def stopped (stop : GroupStop) : CommandFault := .operation stop.toFault

/-- Carry out a command. The answer is the text to print and the rack afterwards. -/
def run (rack : Rack) : Command → Action CommandFault (String × Rack)
  | .list => do return (← rack.listing, rack)
  | .status => do return ((← rack.status.mapFault .rack).text, rack)
  | .get name => do
    let group ← group rack name
    return (group.name ++ ": " ++ Level.text group.lastCommanded ++ " dB", rack)
  | .set name value => do
    let group ← group rack name
    let group ← (group.set value).mapFault stopped
    return (group.name ++ ": set to " ++ Level.text value ++ " dB", rack.putGroup name group)
  | .sync name => do
    let group ← group rack name
    let group ← group.synchronize.mapFault stopped
    return (group.name ++ ": re-commanded " ++ Level.text group.lastCommanded ++ " dB",
      rack.putGroup name group)
  | .check name => do
    let group ← group rack name
    let state := if ← group.isSynchronized.mapFault .operation then "synchronized"
      else "NOT synchronized"
    return (group.name ++ ": " ++ state, rack)
  | .getChannel instrument index => do
    let attenuator ← channel rack instrument index
    let value ← attenuator.get.mapFault .operation
    return (attenuator.describe ++ ": " ++ Level.text value ++ " dB", rack)
  | .setChannel instrument index value => do
    let attenuator ← channel rack instrument index
    (attenuator.set value).mapFault .operation
    return (attenuator.describe ++ ": set to " ++ Level.text value ++ " dB", rack)

/-- How a sequence of commands ended. -/
inductive Ending where
  /-- Every command was carried out. -/
  | completed
  /-- A command failed. -/
  | failed (fault : CommandFault)
  /-- A driver crashed during a command. -/
  | crashed

/-- What a sequence of commands left behind. -/
structure Transcript where
  /-- The texts of the commands that were carried out. -/
  outputs : List String
  /-- The rack afterwards. -/
  rack : Rack
  /-- How the sequence ended. -/
  ending : Ending

/-- Carry out commands in order, up to the first that is not carried out. -/
def runAll {ε : Type} (rack : Rack) : List Command → Action ε Transcript
  | [] => return ⟨[], rack, .completed⟩
  | command :: rest => do
    match ← (command.run rack).observe with
    | .failed fault => return ⟨[], rack, .failed fault⟩
    | .crashed => return ⟨[], rack, .crashed⟩
    | .done (output, rack) => do
      let later ← runAll rack rest
      return { later with outputs := output :: later.outputs }

end Command

end Attenuation
