import Attenuation.Instrument

/-!
# Attenuators

An attenuator is one channel of an instrument with a calibration offset. Callers work in levels
of the calibrated path; the offset is added on the way to the instrument and subtracted on the
way back. A level that with its offset is above the maximum of the instrument is refused before
the instrument is reached, and so is every level that is not finite.
-/

namespace Attenuation

/-- One channel of an instrument. -/
structure Attenuator where
  /-- The session that reaches the instrument. -/
  session : SessionId
  /-- The model name of the instrument. -/
  model : String
  /-- The channel. -/
  index : Nat
  /-- The calibration offset. -/
  offset : Level
  /-- The label of the signal path that the channel sits in. -/
  path : Option String

namespace Attenuator

/-- The fault of a level that is not finite. -/
def notFinite (what : String) (value : Level) : Fault :=
  .invalidArgument (what ++ " must be finite, got " ++ Level.text value)

/-- Refuse a level that is not finite. -/
def checkFinite (what : String) (value : Level) : Except Fault Unit :=
  if value.isFinite then .ok () else .error (notFinite what value)

/-- The fault of an instrument whose maximum is not known. -/
def maximumUnknown (model : String) : Fault :=
  .invalidState s!"{model} has not reported a maximum attenuation"

/-- Create an attenuator with a calibration offset. The offset is checked before the session is
held, and the index after it. -/
def create (session : SessionId) (index : Nat) (offset : Level) : Action Fault Attenuator := do
  Action.ofExcept (checkFinite "offset" offset)
  let info ← (Session.info session).mapFault .session
  if info.channelCount ≤ index then
    Action.fail (.indexOutOfRange index info.channelCount)
  else return { session, model := info.model, index, offset, path := none }

/-- Change the calibration offset. -/
def setOffset (attenuator : Attenuator) (offset : Level) : Except Fault Attenuator := do
  checkFinite "offset" offset
  return { attenuator with offset }

/-- Label the signal path. -/
def withPath (attenuator : Attenuator) (path : String) : Attenuator :=
  { attenuator with path := some path }

/-- The level that the instrument is commanded to for a calibrated level. -/
def raw (attenuator : Attenuator) (value : Level) : Level := value + attenuator.offset

/-- The maximum of the instrument. -/
def instrumentMaximum (attenuator : Attenuator) : Action Fault Level := do
  match ← (Session.maximum attenuator.session).mapFault .session with
  | some maximum => return maximum
  | none => Action.fail (maximumUnknown attenuator.model)

/-- Command a calibrated level. -/
def set (attenuator : Attenuator) (value : Level) : Action Fault Unit := do
  Action.ofExcept (checkFinite "attenuation" value)
  let raw := attenuator.raw value
  let maximum ← attenuator.instrumentMaximum
  if maximum < raw then
    Action.emit (.rejected attenuator.model attenuator.index value raw maximum)
    Action.fail (.limitExceeded value attenuator.offset maximum)
  else
    Action.emit (.setting attenuator.model attenuator.index value raw)
    (Session.setRaw attenuator.session attenuator.index raw).mapFault .session

/-- Read the calibrated level. It is negative when the offset is above the raw level. -/
def get (attenuator : Attenuator) : Action Fault Level := do
  let raw ← (Session.getRaw attenuator.session attenuator.index).mapFault .session
  return raw - attenuator.offset

/-- The maximum of the instrument as a calibrated level. -/
def maximum (attenuator : Attenuator) : Action Fault Level := do
  return (← attenuator.instrumentMaximum) - attenuator.offset

/-- An attenuator by its model and channel. -/
def name (attenuator : Attenuator) : String :=
  Event.channelName attenuator.model attenuator.index

/-- An attenuator by its model, channel and path. -/
def describe (attenuator : Attenuator) : String :=
  match attenuator.path with
  | some path => attenuator.name ++ " (" ++ path ++ ")"
  | none => attenuator.name

end Attenuator

end Attenuation
