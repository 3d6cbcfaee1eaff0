import Attenuation.Fault
import Attenuation.Json.Fault
import Attenuation.Rack.Config

/-!
# Faults of a rack

Why a rack could not be described, built or driven. A fault that passes on another one says so in
its own message and names the other as its source.
-/

namespace Attenuation

/-- Why a file could not be read as text. -/
inductive FileFault where
  /-- There is no such file. -/
  | notFound
  /-- The path names a directory. -/
  | isDirectory
  /-- The path goes through something that is no directory. -/
  | notDirectory
  /-- The path, or a name in it, is longer than the system allows. -/
  | nameTooLong
  /-- The file may not be read. -/
  | notPermitted
  /-- The bytes of the file are not text in UTF-8. -/
  | notText
  /-- Any other failure, in the words of the system. -/
  | described (description : String)
deriving Repr, DecidableEq

/-- The message of a file fault. -/
def FileFault.message : FileFault → String
  | .notFound => "No such file or directory (os error 2)"
  | .isDirectory => "Is a directory (os error 21)"
  | .notDirectory => "Not a directory (os error 20)"
  | .nameTooLong => "File name too long (os error 36)"
  | .notPermitted => "Permission denied (os error 13)"
  | .notText => "stream did not contain valid UTF-8"
  | .described description => description

/-- Why a rack could not be described, built or driven. -/
inductive RackFault where
  /-- The description is inconsistent. -/
  | config (source : ConfigFault)
  /-- No driver is registered for a model and a transport. -/
  | unknownDriver (model : String) (transport : Transport)
  /-- A driver reports another channel count than the description. -/
  | channelCountMismatch (model : String) (configured reported : Nat)
  /-- A group refers to a channel that does not exist. -/
  | unknownMember (group : String) (instrument index : Nat)
  /-- There is no group of this name. -/
  | groupNotFound (name : String)
  /-- An operation on an attenuator or a group failed. -/
  | operation (source : Fault)
  /-- The actor that owned the group has stopped. -/
  | actorClosed
  /-- A file could not be read. -/
  | file (source : FileFault)
  /-- A text is no description of a rack. -/
  | json (source : Json.Fault)

namespace RackFault

/-- The message of a rack fault. -/
def message : RackFault → String
  | .config source => "configuration error: " ++ source.message
  | .unknownDriver model transport =>
    s!"no driver registered for model {model} over {transport.name}"
  | .channelCountMismatch model configured reported =>
    s!"{model}: configured with {configured} channels, driver reports {reported}"
  | .unknownMember group instrument index =>
    s!"group {group}: no attenuator at instrument {instrument} index {index}"
  | .groupNotFound name => s!"group not found: {name}"
  | .operation source => "attenuator error: " ++ source.message
  | .actorClosed => "group actor has shut down"
  | .file source => "I/O error: " ++ source.message
  | .json source => "invalid configuration JSON: " ++ source.message

/-- The messages of the sources of a rack fault, outermost first. -/
def sources : RackFault → List String
  | .config source => [source.message]
  | .operation source => source.chain
  | .file source => [source.message]
  | .json source => [source.message]
  | _ => []

/-- The messages of a rack fault and of its sources, outermost first. -/
def chain (fault : RackFault) : List String := fault.message :: fault.sources

/-- A stopped group as a rack fault. -/
def ofStop (stop : GroupStop) : RackFault := .operation stop.toFault

end RackFault

/-- Read the text of a file. -/
def FileFault.decode (contents : Except FileFault ByteArray) : Except FileFault String :=
  match contents with
  | .error fault => .error fault
  | .ok bytes =>
    match String.fromUTF8? bytes with
    | some text => .ok text
    | none => .error .notText

end Attenuation
