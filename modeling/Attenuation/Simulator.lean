import Attenuation.Decimal.Rounding
import Attenuation.Event

/-!
# Simulated instruments

A simulated step attenuator stores one level per channel and logs every call. It can be told to
refuse the next commands or reads, to leave a channel unresponsive, and to round the levels it
stores to multiples of a step.
-/

namespace Attenuation

/-- A call that reached an instrument. -/
inductive Call where
  /-- Command a channel to a level. -/
  | set (index : Nat) (value : Level)
  /-- Read a channel. -/
  | get (index : Nat)

/-- What a simulated instrument is made from. -/
structure SimulatorConfig where
  /-- The model name it reports. -/
  model : String
  /-- How many channels it has. -/
  channelCount : Nat
  /-- Its maximum, if it reports one from the start. -/
  maximum : Option Level
  /-- The step that stored levels are multiples of; a step that is not positive counts as none. -/
  step : Option Level

/-- Four channels up to 95 dB. -/
def SimulatorConfig.standard : SimulatorConfig where
  model := "SIM-4"
  channelCount := 4
  maximum := some 95.0
  step := none

/-- A simulated instrument. -/
structure Simulator where
  /-- The model name it reports. -/
  model : String
  /-- The number of channels it reports. -/
  channelCount : Nat
  /-- The stored level of each channel. -/
  values : List Level
  /-- The maximum it reports, if any. -/
  maximum : Option Level
  /-- The step that stored levels are multiples of. -/
  step : Option Level
  /-- Every call received since the log was cleared, oldest first. -/
  calls : List Call
  /-- How many of the next commands it refuses. -/
  refusedSets : Nat
  /-- How many of the next reads it refuses. -/
  refusedGets : Nat
  /-- The channels that do not respond. -/
  unresponsive : List Nat

/-- What a simulated instrument does in answer to one call. -/
structure Simulator.Response (α : Type) where
  /-- The answer. -/
  answer : Except SessionFault α
  /-- The instrument afterwards. -/
  simulator : Simulator
  /-- The events it recorded. -/
  events : List Event

namespace Simulator

/-- The response to a command that the instrument does not understand. -/
def garbledResponse : String := String.singleton '\uFFFD'

/-- Only a positive step takes effect. -/
def effectiveStep (step : Option Level) : Option Level := step.filter fun s => 0.0 < s

/-- A new instrument with every channel at 0 dB. -/
def ofConfig (config : SimulatorConfig) : Simulator where
  model := config.model
  channelCount := config.channelCount
  values := List.replicate config.channelCount 0.0
  maximum := config.maximum
  step := effectiveStep config.step
  calls := []
  refusedSets := 0
  refusedGets := 0
  unresponsive := []

/-- An instrument without channels. -/
instance : Inhabited Simulator := ⟨ofConfig ⟨"", 0, none, none⟩⟩

/-- The level that is stored when a level is commanded: itself, or the multiple of the step
nearest to it. -/
def quantize (step : Option Level) (value : Level) : Level :=
  match step with
  | none => value
  | some step => Decimal.roundHalfAway (value / step) * step

/-- Append a call to the log. -/
def log (simulator : Simulator) (call : Call) : Simulator :=
  { simulator with calls := simulator.calls ++ [call] }

/-- Answer a command. It is logged first; then a pending refusal, an unresponsive channel and a
missing channel are reported in this order; otherwise the quantized level is stored. -/
def set (simulator : Simulator) (index : Nat) (value : Level) : Response Unit :=
  let logged := simulator.log (.set index value)
  if 0 < logged.refusedSets then
    { answer := .error (.unexpectedResponse s!"SET {index} {Level.text value}" garbledResponse)
      simulator := { logged with refusedSets := logged.refusedSets - 1 }
      events := [] }
  else if logged.unresponsive.contains index then
    { answer := .error (.unresponsive index), simulator := logged, events := [] }
  else if index < logged.values.length then
    let stored := quantize logged.step value
    { answer := .ok ()
      simulator := { logged with values := logged.values.set index stored }
      events := [.stored logged.model index stored] }
  else { answer := .error (.noChannel index), simulator := logged, events := [] }

/-- Answer a read. It is logged first; then a pending refusal, an unresponsive channel and a
missing channel are reported in this order; otherwise the answer is the stored level. -/
def get (simulator : Simulator) (index : Nat) : Response Level :=
  let logged := simulator.log (.get index)
  if 0 < logged.refusedGets then
    { answer := .error (.unexpectedResponse s!"GET {index}" "")
      simulator := { logged with refusedGets := logged.refusedGets - 1 }
      events := [.readRefused logged.model index] }
  else if logged.unresponsive.contains index then
    { answer := .error (.unresponsive index), simulator := logged, events := [] }
  else
    match logged.values[index]? with
    | some value => { answer := .ok value, simulator := logged, events := [] }
    | none => { answer := .error (.noChannel index), simulator := logged, events := [] }

/-- Report a maximum. -/
def reportMaximum (simulator : Simulator) (maximum : Level) : Simulator :=
  { simulator with maximum := some maximum }

/-- Change the step. -/
def setStep (simulator : Simulator) (step : Level) : Simulator :=
  { simulator with step := effectiveStep (some step) }

/-- Change a stored level without a call. A missing channel is left alone. -/
def force (simulator : Simulator) (index : Nat) (value : Level) : Simulator :=
  { simulator with values := simulator.values.set index value }

/-- Refuse the next commands. -/
def refuseSets (simulator : Simulator) (count : Nat) : Simulator :=
  { simulator with refusedSets := count }

/-- Refuse the next reads. -/
def refuseGets (simulator : Simulator) (count : Nat) : Simulator :=
  { simulator with refusedGets := count }

/-- Stop responding on a channel. -/
def silence (simulator : Simulator) (index : Nat) : Simulator :=
  { simulator with unresponsive := index :: simulator.unresponsive }

/-- Clear every injected fault. -/
def heal (simulator : Simulator) : Simulator :=
  { simulator with refusedSets := 0, refusedGets := 0, unresponsive := [] }

/-- Forget the call log. -/
def clearCalls (simulator : Simulator) : Simulator := { simulator with calls := [] }

/-- The commands of the call log. -/
def sets (simulator : Simulator) : List (Nat × Level) :=
  simulator.calls.filterMap fun
    | .set index value => some (index, value)
    | .get _ => none

end Simulator

end Attenuation
