import Attenuation.Fault
import Attenuation.Transport

/-!
# Events

What the operations record about themselves for an observer. An event is what happened; its
severity and its wording are functions of it.
-/

namespace Attenuation

/-- How much attention an event asks for. -/
inductive Severity where
  /-- A single driver command. -/
  | trace
  /-- A detail of an operation. -/
  | debug
  /-- A completed piece of work. -/
  | info
  /-- Something stopped part way. -/
  | warning
deriving Repr, DecidableEq

/-- The label of a severity. -/
def Severity.label : Severity → String
  | .trace => "TRACE"
  | .debug => "DEBUG"
  | .info => "INFO"
  | .warning => "WARN"

/-- Something that an operation recorded. -/
inductive Event where
  /-- A simulated instrument stored a level. -/
  | stored (model : String) (channel : Nat) (value : Level)
  /-- A simulated instrument refused a read as it was told to. -/
  | readRefused (model : String) (channel : Nat)
  /-- An attenuator refused a level above the maximum. -/
  | rejected (model : String) (index : Nat) (value raw maximum : Level)
  /-- An attenuator sends a level to its instrument. -/
  | setting (model : String) (index : Nat) (value raw : Level)
  /-- A group gained a member. -/
  | memberAdded (group model : String) (index : Nat)
  /-- A group command stopped at a member. -/
  | groupStopped (group : String) (value : Level) (member : Nat) (model : String) (index : Nat)
      (source : Fault)
  /-- Every member of a group accepted a level. -/
  | groupSet (group : String) (size : Nat) (value : Level)
  /-- A driver was registered. -/
  | driverRegistered (model : String) (transport : Transport)
  /-- An instrument of a rack was connected. -/
  | connected (model : String) (transport : Transport) (channelCount : Nat)
  /-- A group of a rack was built. -/
  | groupBuilt (group : String) (size : Nat)
  /-- An actor took over a group. -/
  | actorStarted (group : String) (size : Nat)
  /-- An actor commands its group. -/
  | actorSetting (group : String) (value : Level)
  /-- An actor commands its group to the cached value. -/
  | actorSynchronizing (group : String)
  /-- An actor gave its group back. -/
  | actorStopped (group : String)

namespace Event

/-- The severity of an event. -/
def severity : Event → Severity
  | .stored _ _ _ => .trace
  | .readRefused _ _ => .debug
  | .rejected _ _ _ _ _ => .debug
  | .setting _ _ _ _ => .trace
  | .memberAdded _ _ _ => .debug
  | .groupStopped _ _ _ _ _ _ => .warning
  | .groupSet _ _ _ => .debug
  | .driverRegistered _ _ => .debug
  | .connected _ _ _ => .info
  | .groupBuilt _ _ => .info
  | .actorStarted _ _ => .info
  | .actorSetting _ _ => .debug
  | .actorSynchronizing _ => .debug
  | .actorStopped _ => .info

/-- An attenuator as events name it. -/
def channelName (model : String) (index : Nat) : String := s!"{model}[{index}]"

/-- The message of an event. -/
def message : Event → String
  | .stored model channel value =>
    s!"{model}: channel {channel} set to " ++ Level.text value
  | .readRefused model channel => s!"{model}: injected read failure on channel {channel}"
  | .rejected model index value raw maximum =>
    "Rejected " ++ Level.text value ++ " dB on " ++ channelName model index ++ ": " ++
      Level.text raw ++ " dB with offset exceeds " ++ Level.text maximum ++ " dB"
  | .setting model index value raw =>
    "Setting " ++ channelName model index ++ " to " ++ Level.text value ++ " dB (raw " ++
      Level.text raw ++ ")"
  | .memberAdded group model index =>
    "Group " ++ Text.quoted group ++ ": added " ++ channelName model index
  | .groupStopped group value member model index source =>
    "Group " ++ Text.quoted group ++ ": set to " ++ Level.text value ++
      s!" dB stopped at member {member} (" ++ channelName model index ++ "): " ++ source.message
  | .groupSet group size value =>
    "Group " ++ Text.quoted group ++ s!": set {size} members to " ++ Level.text value ++ " dB"
  | .driverRegistered model transport =>
    s!"Registered driver for {model} over {transport.name}"
  | .connected model transport channelCount =>
    s!"Connected {model} over {transport.name} ({channelCount} channels)"
  | .groupBuilt group size => s!"Built group {group} with {size} members"
  | .actorStarted group size =>
    "Group actor " ++ Text.quoted group ++ s!" started ({size} members)"
  | .actorSetting group value =>
    "Group actor " ++ Text.quoted group ++ ": set " ++ Level.text value ++ " dB"
  | .actorSynchronizing group => "Group actor " ++ Text.quoted group ++ ": synchronize"
  | .actorStopped group => "Group actor " ++ Text.quoted group ++ " stopped"

end Event

end Attenuation
