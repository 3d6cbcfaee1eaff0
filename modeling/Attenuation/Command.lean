import Attenuation.Decimal.Literal
import Attenuation.Rack.Fault

/-!
# Commands

The commands of the command line and how they are read. A list of arguments is a sequence of
phrases: the word of a command and its operands. The leftmost problem is reported.
-/

namespace Attenuation

/-- A command against a rack. -/
inductive Command where
  /-- List the rack. -/
  | list
  /-- Write a snapshot of the rack. -/
  | status
  /-- Write the remembered level of a group. -/
  | get (group : String)
  /-- Command a group to a level. -/
  | set (group : String) (value : Level)
  /-- Command a group to its remembered level. -/
  | sync (group : String)
  /-- Write whether a group reads back its remembered level. -/
  | check (group : String)
  /-- Read a channel. -/
  | getChannel (instrument index : Nat)
  /-- Command a channel to a level. -/
  | setChannel (instrument index : Nat) (value : Level)

/-- Why commands were not read or not carried out. -/
inductive CommandFault where
  /-- The arguments end in front of an operand. -/
  | missingOperand (command operand : String)
  /-- A word is no command. -/
  | unknownCommand (word : String)
  /-- An operand is no level. -/
  | notALevel (text : String) (source : Decimal.LevelTextFault)
  /-- An operand is no index. -/
  | notAnIndex (text : String) (source : Decimal.IndexTextFault)
  /-- The rack has no such channel. -/
  | noAttenuator (instrument index : Nat)
  /-- An operation on the rack failed. -/
  | rack (source : RackFault)
  /-- An operation on an attenuator or a group failed. -/
  | operation (source : Fault)

/-- The messages of a command fault and of its sources, outermost first. -/
def CommandFault.chain : CommandFault → List String
  | .missingOperand command operand => [s!"{command}: missing {operand}"]
  | .unknownCommand word => [s!"unknown command: {word}"]
  | .notALevel text source => [s!"not an attenuation value: {text}", source.message]
  | .notAnIndex text source => [s!"not an index: {text}", source.message]
  | .noAttenuator instrument index =>
    [s!"no attenuator at instrument {instrument} index {index}"]
  | .rack source => source.chain
  | .operation source => source.chain

/-- Messages from the outermost to the innermost in one line. -/
def joinChain (chain : List String) : String := String.intercalate ": " chain

namespace Command

/-- Read the level of an operand. -/
def readLevel (text : String) : Except CommandFault Level :=
  match Decimal.readLevel text.toList with
  | .ok value => .ok value
  | .error source => .error (.notALevel text source)

/-- Read the index of an operand. -/
def readIndex (text : String) : Except CommandFault Nat :=
  match Decimal.readIndex text.toList with
  | .ok value => .ok value
  | .error source => .error (.notAnIndex text source)

/-- Read commands. Each operand is converted before the next one is looked for, so the leftmost
problem is the one that is reported. -/
def readAll : List String → Except CommandFault (List Command)
  | [] => .ok []
  | word :: arguments =>
    if word = "list" then do return .list :: (← readAll arguments)
    else if word = "status" then do return .status :: (← readAll arguments)
    else if word = "get" then
      match arguments with
      | [] => .error (.missingOperand word "group")
      | group :: rest => do return .get group :: (← readAll rest)
    else if word = "set" then
      match arguments with
      | [] => .error (.missingOperand word "group")
      | [_] => .error (.missingOperand word "value")
      | group :: value :: rest => do
        let value ← readLevel value
        return .set group value :: (← readAll rest)
    else if word = "sync" then
      match arguments with
      | [] => .error (.missingOperand word "group")
      | group :: rest => do return .sync group :: (← readAll rest)
    else if word = "check" then
      match arguments with
      | [] => .error (.missingOperand word "group")
      | group :: rest => do return .check group :: (← readAll rest)
    else if word = "get-channel" then
      match arguments with
      | [] => .error (.missingOperand word "instrument")
      | [instrument] => do
        let _ ← readIndex instrument
        .error (.missingOperand word "index")
      | instrument :: index :: rest => do
        let instrument ← readIndex instrument
        let index ← readIndex index
        return .getChannel instrument index :: (← readAll rest)
    else if word = "set-channel" then
      match arguments with
      | [] => .error (.missingOperand word "instrument")
      | [instrument] => do
        let _ ← readIndex instrument
        .error (.missingOperand word "index")
      | [instrument, index] => do
        let _ ← readIndex instrument
        let _ ← readIndex index
        .error (.missingOperand word "value")
      | instrument :: index :: value :: rest => do
        let instrument ← readIndex instrument
        let index ← readIndex index
        let value ← readLevel value
        return .setChannel instrument index value :: (← readAll rest)
    else .error (.unknownCommand word)

end Command

end Attenuation
