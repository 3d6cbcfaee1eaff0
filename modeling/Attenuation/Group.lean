import Attenuation.Attenuator
import Attenuation.Selection

/-!
# Groups

A group commands its members in order to one calibrated level and remembers the last level that
every member accepted. A command that stops at a member is not taken back: the members in front
of it hold the new level, the others were not commanded, and the remembered level stays.
-/

namespace Attenuation

/-- Attenuators that are driven together. -/
structure Group where
  /-- The name of the group. -/
  name : String
  /-- The members in the order in which they are commanded. -/
  members : List Attenuator
  /-- The last level that every member accepted. -/
  lastCommanded : Level

namespace Group

/-- A group without members. -/
def empty (name : String) : Group := ⟨name, [], 0.0⟩

/-- The number of members. -/
def size (group : Group) : Nat := group.members.length

/-- Append a member. -/
def add {ε : Type} (group : Group) (attenuator : Attenuator) : Action ε Group := do
  Action.emit (.memberAdded group.name attenuator.model attenuator.index)
  return { group with members := group.members ++ [attenuator] }

/-- Append members in order. -/
def extend {ε : Type} (group : Group) (attenuators : List Attenuator) : Action ε Group :=
  attenuators.foldlM add group

/-- Append the selected channels of an instrument, without offset. All of them are created before
the first is appended. -/
def addFrom (group : Group) (session : SessionId) (selection : Selection) :
    Action Fault Group := do
  let created ← selection.indices.mapM fun index => Attenuator.create session index 0.0
  group.extend created

/-- Stop a group command at a member. -/
def stop (group : Group) (value : Level) (member : Nat) (attenuator : Attenuator)
    (source : Fault) : Action GroupStop Unit := do
  Action.emit
    (.groupStopped group.name value member attenuator.model attenuator.index source)
  Action.fail ⟨group.name, member, value, source⟩

/-- Command members in order, the first of them at position `member`, up to the first that
fails. -/
def commandFrom (group : Group) (value : Level) (member : Nat) :
    List Attenuator → Action GroupStop Unit
  | [] => pure ()
  | attenuator :: rest => do
    match ← (attenuator.set value).attempt with
    | .ok () => group.commandFrom value (member + 1) rest
    | .error source => group.stop value member attenuator source

/-- Command every member to a level and remember it. A level that is not finite is refused before
any member is reached, also by an empty group. -/
def set (group : Group) (value : Level) : Action GroupStop Group := do
  if value.isFinite then
    group.commandFrom value 0 group.members
    Action.emit (.groupSet group.name group.size value)
    return { group with lastCommanded := value }
  else Action.fail ⟨group.name, 0, value, Attenuator.notFinite "attenuation" value⟩

/-- Whether every member reads back a level, asked in order up to the first that does not. -/
def allRead (value : Level) : List Attenuator → Action Fault Bool
  | [] => pure true
  | attenuator :: rest => do
    if (← attenuator.get) == value then allRead value rest else return false

/-- Whether every member reads back the remembered level. -/
def isSynchronized (group : Group) : Action Fault Bool :=
  allRead group.lastCommanded group.members

/-- Command every member back to the remembered level. -/
def synchronize (group : Group) : Action GroupStop Group := group.set group.lastCommanded

end Group

end Attenuation
