import Attenuation.Level
import Attenuation.Text.Quoted

/-!
# Faults

Why an operation on an instrument, an attenuator or a group did not happen. A fault is its cause;
its wording is one function. A group that stops part way wraps the fault of the member that
stopped it, and such faults may nest.
-/

namespace Attenuation

/-- A driver session did not do what a command asked. -/
inductive SessionFault where
  /-- The response does not fit the command. -/
  | unexpectedResponse (command response : String)
  /-- A channel gave no response. -/
  | unresponsive (channel : Nat)
  /-- The instrument has no such channel. -/
  | noChannel (channel : Nat)
  /-- A driver crashed in the middle of an earlier command of this session. -/
  | poisoned
  /-- Any other failure, in the words of the driver. -/
  | described (description : String)
deriving Repr, DecidableEq

/-- What went wrong in the session. -/
def SessionFault.detail : SessionFault → String
  | .unexpectedResponse command response =>
    "unexpected response to " ++ Text.quoted command ++ ": " ++ Text.quoted response
  | .unresponsive channel => s!"channel {channel} did not respond"
  | .noChannel channel => s!"no channel {channel}"
  | .poisoned => "instrument session poisoned by a failed command"
  | .described description => description

/-- The message of a session fault. -/
def SessionFault.message (fault : SessionFault) : String :=
  "transport error: " ++ fault.detail

/-- The coarse kind of a fault. -/
inductive FaultKind where
  /-- The driver session failed. -/
  | session
  /-- The instrument has no such channel. -/
  | indexOutOfRange
  /-- The value with its offset is above the maximum. -/
  | limitExceeded
  /-- Something must happen first. -/
  | invalidState
  /-- An argument is malformed. -/
  | invalidArgument
deriving Repr, DecidableEq

/-- Why an operation on an attenuator or a group did not happen. -/
inductive Fault where
  /-- The driver session failed. -/
  | session (fault : SessionFault)
  /-- The instrument has no channel at this index. -/
  | indexOutOfRange (index channelCount : Nat)
  /-- The requested level and the offset together are above the maximum. -/
  | limitExceeded (requested offset maximum : Level)
  /-- The operation needs something that has not happened yet. -/
  | invalidState (description : String)
  /-- An argument is malformed. -/
  | invalidArgument (description : String)
  /-- A group stopped at one of its members, which failed with `source`. -/
  | groupStopped (group : String) (member : Nat) (value : Level) (source : Fault)

namespace Fault

/-- The kind of a fault; a stopped group has the kind of the member's fault. -/
def kind : Fault → FaultKind
  | .session _ => .session
  | .indexOutOfRange _ _ => .indexOutOfRange
  | .limitExceeded _ _ _ => .limitExceeded
  | .invalidState _ => .invalidState
  | .invalidArgument _ => .invalidArgument
  | .groupStopped _ _ _ source => source.kind

/-- Whether the session of the instrument has to be reopened. -/
def isSession (fault : Fault) : Bool := fault.kind == .session

/-- The message of a fault. A stopped group leaves the cause to its source. -/
def message : Fault → String
  | .session fault => fault.message
  | .indexOutOfRange index channelCount =>
    s!"attenuator index {index} out of range for instrument with {channelCount} channels"
  | .limitExceeded requested offset maximum =>
    "attenuation " ++ Level.text requested ++ " dB + offset " ++ Level.text offset ++
      " dB exceeds maximum " ++ Level.text maximum ++ " dB"
  | .invalidState description => "invalid state: " ++ description
  | .invalidArgument description => "invalid argument: " ++ description
  | .groupStopped group member value _ =>
    "group " ++ Text.quoted group ++ ": set to " ++ Level.text value ++
      s!" dB stopped at member {member}"

/-- The messages of a fault and of its sources, outermost first. -/
def chain : Fault → List String
  | .groupStopped group member value source =>
    (Fault.groupStopped group member value source).message :: source.chain
  | fault => [fault.message]

end Fault

/-- A group command that stopped at a member. The members in front of it hold the new value, and
the group keeps its cached value. -/
structure GroupStop where
  /-- The name of the group. -/
  group : String
  /-- The position of the member that failed. -/
  member : Nat
  /-- The value that was being commanded. -/
  value : Level
  /-- The fault of that member. -/
  source : Fault

namespace GroupStop

/-- A stopped group as a fault. -/
def toFault (stop : GroupStop) : Fault :=
  .groupStopped stop.group stop.member stop.value stop.source

/-- The positions of the members that hold the new value. -/
def committed (stop : GroupStop) : List Nat := List.range stop.member

end GroupStop

end Attenuation
