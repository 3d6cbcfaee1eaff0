import Attenuation.Action

/-!
# Instruments behind a session

Everything above a driver reaches its instrument through a session. Each operation here holds the
session for exactly one command. A crash of the driver in the middle of a command poisons the
session, and a poisoned session answers nothing but that.
-/

namespace Attenuation

/-- The fixed properties of an instrument. -/
structure InstrumentInfo where
  /-- The model name. -/
  model : String
  /-- The number of channels. -/
  channelCount : Nat
  /-- The maximum, if it is known. -/
  maximum : Option Level

/-- The properties that a simulated instrument reports. -/
def Simulator.info (simulator : Simulator) : InstrumentInfo :=
  ⟨simulator.model, simulator.channelCount, simulator.maximum⟩

/-- A debugging description writes a level by its shortest digits, keeps the point of a whole
number, and writes very large and very small levels with a bare exponent. -/
def InstrumentInfo.levelLayout : Decimal.Layout where
  positional := some (-4, 15)
  wholeKeepsPoint := true
  signedExponent := false
  tie := .upward
  notANumber := ['N', 'a', 'N']
  infinity := ['i', 'n', 'f']
  negativeInfinity := ['-', 'i', 'n', 'f']

/-- A maximum in a debugging description. -/
def InstrumentInfo.maximumText : Option Level → String
  | none => "None"
  | some maximum =>
    "Some(" ++ String.ofList (InstrumentInfo.levelLayout.render maximum) ++ ")"

/-- The properties of an instrument for debugging. -/
def InstrumentInfo.description (info : InstrumentInfo) : String :=
  "SharedInstrument \x7b model: " ++ Text.quoted info.model ++
    s!", channel_count: {info.channelCount}, max_attenuation: " ++
    InstrumentInfo.maximumText info.maximum ++ " \x7d"

namespace Session

/-- What stands for the properties of an instrument whose session is held. -/
def busyDescription : String := "SharedInstrument \x7b driver: \"<busy>\" \x7d"

/-- Hold a session. A poisoned session cannot be held. -/
def hold (id : SessionId) : Action SessionFault Session := do
  let session := (← Action.bench).session id
  if session.poisoned then Action.fail .poisoned else pure session

/-- Crash in the middle of a command, which poisons the session. -/
def crash {α : Type} (id : SessionId) : Action SessionFault α := fun bench =>
  Action.crash (bench.poison id)

/-- Pass a call to the instrument and take over its response. -/
def exchange {α : Type} (id : SimulatorId) (call : Simulator → Simulator.Response α) :
    Action SessionFault α := fun bench =>
  let response := call (bench.simulator id)
  Action.ofExcept response.answer
    ((bench.putSimulator id response.simulator).record response.events)

/-- Command a channel of a session that is held. -/
def command (id : SessionId) (session : Session) (index : Nat) (value : Level) :
    Action SessionFault Unit :=
  if session.trap.onSet = some index then crash id
  else exchange session.simulator fun simulator => simulator.set index value

/-- Read a channel of a session that is held. -/
def read (id : SessionId) (session : Session) (index : Nat) : Action SessionFault Level :=
  if session.trap.onGet = some index then crash id
  else exchange session.simulator fun simulator => simulator.get index

/-- The fixed properties of the instrument. -/
def info (id : SessionId) : Action SessionFault InstrumentInfo := do
  let session ← hold id
  return ((← Action.bench).simulator session.simulator).info

/-- The model name of the instrument. -/
def model (id : SessionId) : Action SessionFault String := do return (← info id).model

/-- The number of channels of the instrument. -/
def channelCount (id : SessionId) : Action SessionFault Nat := do return (← info id).channelCount

/-- The maximum of the instrument, if it is known. -/
def maximum (id : SessionId) : Action SessionFault (Option Level) := do return (← info id).maximum

/-- Command a channel to a raw level. -/
def setRaw (id : SessionId) (index : Nat) (value : Level) : Action SessionFault Unit := do
  command id (← hold id) index value

/-- Read the raw level of a channel. -/
def getRaw (id : SessionId) (index : Nat) : Action SessionFault Level := do
  read id (← hold id) index

/-- One call of a batch. A read answers with a level. -/
def performCall (id : SessionId) (session : Session) :
    Call → Action SessionFault (Option Level)
  | .set index value => do
    command id session index value
    return none
  | .get index => do return some (← read id session index)

/-- Perform several calls through a session that is held. A fault of one call does not stop the
calls behind it. -/
def performCalls (id : SessionId) (session : Session) (calls : List Call) :
    Action SessionFault (List (Except SessionFault (Option Level))) :=
  calls.mapM fun call => (performCall id session call).attempt

/-- Perform several calls while the session is held once. -/
def batch (id : SessionId) (calls : List Call) :
    Action SessionFault (List (Except SessionFault (Option Level))) := do
  performCalls id (← hold id) calls

/-- Perform several calls while the session is held once, and crash behind them. So does a driver
that crashes in whatever it is asked: behind no call when it is asked for a property, and behind its
call of the instrument when it has reached it already. And so does a caller that crashes while it
holds the session. -/
def abandon (id : SessionId) (calls : List Call) : Action SessionFault Unit := do
  let _ ← performCalls id (← hold id) calls
  crash id

/-- The instrument for debugging. A session that cannot be held is described as busy. -/
def description {ε : Type} (id : SessionId) : Action ε String := do
  match ← (info id).attempt with
  | .ok info => return info.description
  | .error _ => return busyDescription

/-- The instrument for debugging, described while the session is held. -/
def heldDescription (id : SessionId) : Action SessionFault String := do
  let _ ← hold id
  return busyDescription

end Session

end Attenuation
