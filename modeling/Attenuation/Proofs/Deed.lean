import Attenuation.Proofs.Attenuator
import Mathlib.Logic.Relation

/-!
# What can be done to a bench

Everything that happens on a bench is made of deeds: an event is recorded, a driver crashes, a
channel is read or commanded, an instrument or a session is added, an instrument is changed from
outside. `Bench.Evolves` is any number of deeds, all of them of an allowed sort, so that one
statement about an operation says what it may do and what it never does, and an invariant is
proved for an operation by proving it for the deeds that the operation may do.
-/

namespace Attenuation

namespace Bench

/-- A session was opened, and to an instrument that is on the bench. -/
def IsOpen (bench : Bench) (session : SessionId) : Prop :=
  session < bench.nextSession ∧ (bench.session session).simulator < bench.nextSimulator

instance (bench : Bench) (session : SessionId) : Decidable (bench.IsOpen session) :=
  inferInstanceAs (Decidable (_ ∧ _))

/-- An attenuator whose session is open, whose channel its instrument has, and whose offset is
finite. -/
structure Calibrated (bench : Bench) (attenuator : Attenuator) : Prop where
  /-- The session is open. -/
  isOpen : bench.IsOpen attenuator.session
  /-- The instrument has the channel. -/
  channel : attenuator.index < (attenuator.simulator bench).channelCount
  /-- The offset is finite. -/
  offset : attenuator.offset.isFinite

/-- Instruments and sessions are never taken from a bench, a session stays with its instrument, and
an instrument keeps its channels. -/
structure Extends (before after : Bench) : Prop where
  /-- No instrument is taken away. -/
  simulators : before.nextSimulator ≤ after.nextSimulator
  /-- No session is taken away. -/
  sessions : before.nextSession ≤ after.nextSession
  /-- A session reaches the instrument that it reached. -/
  wiring : ∀ session < before.nextSession,
    (after.session session).simulator = (before.session session).simulator
  /-- An instrument has the channels that it had. -/
  channels : ∀ id < before.nextSimulator,
    (after.simulator id).channelCount = (before.simulator id).channelCount

namespace Extends

/-- A bench keeps what it has. -/
theorem refl (bench : Bench) : bench.Extends bench where
  simulators := Nat.le_refl _
  sessions := Nat.le_refl _
  wiring _ _ := rfl
  channels _ _ := rfl

/-- What is kept twice is kept. -/
theorem trans {before middle after : Bench} (early : before.Extends middle)
    (late : middle.Extends after) : before.Extends after where
  simulators := Nat.le_trans early.simulators late.simulators
  sessions := Nat.le_trans early.sessions late.sessions
  wiring session inside :=
    (late.wiring session (Nat.lt_of_lt_of_le inside early.sessions)).trans
      (early.wiring session inside)
  channels id inside :=
    (late.channels id (Nat.lt_of_lt_of_le inside early.simulators)).trans
      (early.channels id inside)

instance : IsPreorder Bench Extends where
  refl := refl
  trans _ _ _ := trans

/-- A session that is open stays open. -/
theorem isOpen {before after : Bench} (grown : before.Extends after) {session : SessionId}
    (opened : before.IsOpen session) : after.IsOpen session := by
  refine ⟨Nat.lt_of_lt_of_le opened.1 grown.sessions, ?_⟩
  rw [grown.wiring session opened.1]
  exact Nat.lt_of_lt_of_le opened.2 grown.simulators

/-- An attenuator of an open session stays with its instrument. -/
theorem simulatorId {before after : Bench} (grown : before.Extends after)
    {attenuator : Attenuator} (opened : before.IsOpen attenuator.session) :
    attenuator.simulatorId after = attenuator.simulatorId before :=
  grown.wiring attenuator.session opened.1

/-- A calibrated attenuator stays calibrated. -/
theorem calibrated {before after : Bench} (grown : before.Extends after)
    {attenuator : Attenuator} (calibrated : before.Calibrated attenuator) :
    after.Calibrated attenuator where
  isOpen := grown.isOpen calibrated.isOpen
  channel := by
    unfold Attenuator.simulator
    rw [grown.simulatorId calibrated.isOpen,
      grown.channels (attenuator.simulatorId before) calibrated.isOpen.2]
    exact calibrated.channel
  offset := calibrated.offset

/-- An instrument in whose place one with the same number of channels is put takes nothing away. -/
theorem putSimulator {bench : Bench} {id : SimulatorId} {simulator : Simulator}
    (channels : simulator.channelCount = (bench.simulator id).channelCount) :
    bench.Extends (bench.putSimulator id simulator) where
  simulators := Nat.le_refl _
  sessions := Nat.le_refl _
  wiring _ _ := rfl
  channels other _ := by
    rw [simulator_putSimulator]
    by_cases own : other = id
    · rw [if_pos own, own, channels]
    · rw [if_neg own]

/-- Recording events takes nothing away. -/
theorem record (bench : Bench) (events : List Event) : bench.Extends (bench.record events) where
  simulators := Nat.le_refl _
  sessions := Nat.le_refl _
  wiring _ _ := rfl
  channels _ _ := rfl

end Extends

end Bench

namespace Simulator

/-- A change of an instrument from outside, past every session. -/
inductive Adjustment where
  /-- Report a maximum. -/
  | reportMaximum (maximum : Level)
  /-- Change the step. -/
  | setStep (step : Level)
  /-- Change a stored level. -/
  | force (index : Nat) (value : Level)
  /-- Refuse the next commands. -/
  | refuseSets (count : Nat)
  /-- Refuse the next reads. -/
  | refuseGets (count : Nat)
  /-- Stop responding on a channel. -/
  | silence (index : Nat)
  /-- Clear every injected fault. -/
  | heal
  /-- Forget the call log. -/
  | clearCalls

/-- An instrument after a change from outside. -/
def adjust (simulator : Simulator) : Adjustment → Simulator
  | .reportMaximum maximum => simulator.reportMaximum maximum
  | .setStep step => simulator.setStep step
  | .force index value => simulator.force index value
  | .refuseSets count => simulator.refuseSets count
  | .refuseGets count => simulator.refuseGets count
  | .silence index => simulator.silence index
  | .heal => simulator.heal
  | .clearCalls => simulator.clearCalls

/-- A change from outside leaves the number of channels alone. -/
theorem channelCount_adjust (simulator : Simulator) (adjustment : Adjustment) :
    (simulator.adjust adjustment).channelCount = simulator.channelCount := by
  cases adjustment <;> rfl

end Simulator

/-- One thing done to a bench. -/
inductive Deed where
  /-- Events are recorded. -/
  | record (events : List Event)
  /-- The driver of a session crashes. -/
  | crash (session : SessionId)
  /-- A channel is read through a session. -/
  | get (session : SessionId) (index : Nat)
  /-- An attenuator commands its channel. -/
  | set (attenuator : Attenuator) (value : Level)
  /-- A channel is commanded through a session, past every attenuator. -/
  | setRaw (session : SessionId) (index : Nat) (value : Level)
  /-- An instrument is put on the bench. -/
  | addSimulator (config : SimulatorConfig)
  /-- A session to an instrument is opened. -/
  | openSession (id : SimulatorId) (trap : Trap)
  /-- An instrument comes within reach of a probe. -/
  | probe (id : SimulatorId)
  /-- An instrument is changed from outside. -/
  | adjust (id : SimulatorId) (adjustment : Simulator.Adjustment)

namespace Deed

/-- The bench after the instrument of a session answered. -/
def answered {α : Type} (bench : Bench) (session : SessionId)
    (call : Simulator → Simulator.Response α) : Bench :=
  let id := (bench.session session).simulator
  let response := call (bench.simulator id)
  (bench.putSimulator id response.simulator).record response.events

/-- The bench after a deed. -/
def perform (bench : Bench) : Deed → Bench
  | .record events => bench.record events
  | .crash session => bench.poison session
  | .get session index => answered bench session fun simulator => simulator.get index
  | .set attenuator value => attenuator.driven value bench
  | .setRaw session index value =>
    answered bench session fun simulator => simulator.set index value
  | .addSimulator config => (bench.addSimulator config).2
  | .openSession id trap => (bench.openSession id trap).2
  | .probe id => { bench with probes := bench.probes ++ [id] }
  | .adjust id adjustment => bench.changeSimulator id fun simulator => simulator.adjust adjustment

/-- When a deed can be done. Nothing passes a poisoned session; an attenuator commands its channel
only where its checks let the level through. -/
def Possible (bench : Bench) : Deed → Prop
  | .crash session => (bench.session session).poisoned = false
  | .get session index =>
    (bench.session session).poisoned = false ∧ (bench.session session).trap.onGet ≠ some index
  | .set attenuator value =>
    bench.Calibrated attenuator ∧ attenuator.verdict value bench = .reaches
  | .setRaw session index _ =>
    (bench.session session).poisoned = false ∧ (bench.session session).trap.onSet ≠ some index
  | .openSession id _ => id < bench.nextSimulator
  | .adjust id _ => id < bench.nextSimulator
  | _ => True

/-- Recorded events and crashes, which every operation may leave behind. -/
def IsQuiet : Deed → Prop
  | .record _ => True
  | .crash _ => True
  | _ => False

/-- An answer that keeps the channels of an instrument takes nothing from a bench. -/
theorem extends_answered {α : Type} {bench : Bench} (session : SessionId)
    {call : Simulator → Simulator.Response α}
    (channels : ∀ simulator : Simulator,
      (call simulator).simulator.channelCount = simulator.channelCount) :
    bench.Extends (answered bench session call) :=
  (Bench.Extends.putSimulator (channels _)).trans (.record _ _)

/-- What connecting a driver does to a bench. -/
def IsConnection : Deed → Prop
  | .addSimulator _ => True
  | .openSession _ _ => True
  | .probe _ => True
  | _ => False

/-- A deed takes nothing from a bench. -/
theorem extends_perform {bench : Bench} {deed : Deed} (possible : deed.Possible bench) :
    bench.Extends (deed.perform bench) := by
  cases deed with
  | record events => exact .record bench events
  | crash session =>
    refine ⟨Nat.le_refl _, Nat.le_refl _, fun other _ => ?_, fun _ _ => rfl⟩
    change ((bench.poison session).session other).simulator = _
    rw [Bench.session_poison]
    by_cases own : other = session
    · rw [if_pos own, own]
    · rw [if_neg own]
  | get session index =>
    exact extends_answered session fun simulator => by rw [Simulator.get_simulator]
  | set attenuator value =>
    refine ((Bench.Extends.record bench _).trans (.putSimulator ?_)).trans (.record _ _)
    rw [Attenuator.response_simulator]
    rfl
  | setRaw session index value =>
    exact extends_answered session fun simulator => by rw [Simulator.set_simulator]
  | addSimulator config =>
    refine ⟨Nat.le_succ _, Nat.le_refl _, fun _ _ => rfl, fun id inside => ?_⟩
    have other : ((Deed.addSimulator config).perform bench).simulator id = bench.simulator id :=
      (Slots.get_put bench.simulators _ id _).trans (if_neg (Nat.ne_of_lt inside))
    rw [other]
  | openSession id trap =>
    refine ⟨Nat.le_refl _, Nat.le_succ _, fun session inside => ?_, fun _ _ => rfl⟩
    have other : ((Deed.openSession id trap).perform bench).session session =
        bench.session session :=
      (Slots.get_put bench.sessions _ session _).trans (if_neg (Nat.ne_of_lt inside))
    rw [other]
  | probe id => exact ⟨Nat.le_refl _, Nat.le_refl _, fun _ _ => rfl, fun _ _ => rfl⟩
  | adjust id adjustment =>
    exact .putSimulator (Simulator.channelCount_adjust _ adjustment)

end Deed

/-- What an operation may do to a bench beyond recording events and crashing: the attenuators that
it asks for levels, the channels that it reads, and whether it connects drivers. -/
structure Footprint where
  /-- The attenuators that are asked for a level. -/
  asks : Attenuator → Level → Prop
  /-- The channels that are read through a session. -/
  reads : SessionId → Nat → Prop
  /-- Whether drivers are connected. -/
  connects : Prop

namespace Footprint

/-- The deeds of a footprint. Raw commands and changes from outside are in none. -/
def Allows (footprint : Footprint) : Deed → Prop
  | .record _ => True
  | .crash _ => True
  | .get session index => footprint.reads session index
  | .set attenuator value => footprint.asks attenuator value
  | .setRaw _ _ _ => False
  | .addSimulator _ => footprint.connects
  | .openSession _ _ => footprint.connects
  | .probe _ => footprint.connects
  | .adjust _ _ => False

variable {footprint : Footprint}

/-- Recorded events and crashes are in every footprint. -/
theorem allows_quiet (deed : Deed) (quiet : deed.IsQuiet) : footprint.Allows deed := by
  cases deed <;> simp_all [Deed.IsQuiet, Allows]

/-- Connections are in a footprint that has them. -/
theorem allows_connection (footprint : Footprint) (connects : footprint.connects) (deed : Deed)
    (connection : deed.IsConnection) : footprint.Allows deed := by
  cases deed <;> simp_all [Deed.IsConnection, Allows]

/-- One footprint inside another one. -/
structure Within (narrow wide : Footprint) : Prop where
  /-- What is asked. -/
  asks : ∀ attenuator value, narrow.asks attenuator value → wide.asks attenuator value
  /-- What is read. -/
  reads : ∀ session index, narrow.reads session index → wide.reads session index
  /-- Whether drivers are connected. -/
  connects : narrow.connects → wide.connects

/-- A footprint inside another one allows no deed that the other does not. -/
theorem Within.allows {narrow wide : Footprint} (within : narrow.Within wide) (deed : Deed)
    (allowed : narrow.Allows deed) : wide.Allows deed := by
  cases deed with
  | set attenuator value => exact within.asks attenuator value allowed
  | get session index => exact within.reads session index allowed
  | addSimulator config => exact within.connects allowed
  | openSession id trap => exact within.connects allowed
  | probe id => exact within.connects allowed
  | _ => exact allowed

end Footprint

namespace Bench

/-- One bench becomes another by a deed of an allowed sort. -/
def Moves (allowed : Deed → Prop) (before after : Bench) : Prop :=
  ∃ deed, allowed deed ∧ deed.Possible before ∧ after = deed.perform before

/-- One bench becomes another by deeds of an allowed sort. -/
def Evolves (allowed : Deed → Prop) : Bench → Bench → Prop :=
  Relation.ReflTransGen (Moves allowed)

namespace Evolves

variable {allowed : Deed → Prop}

instance : IsPreorder Bench (Evolves allowed) :=
  inferInstanceAs (IsPreorder Bench (Relation.ReflTransGen (Moves allowed)))

/-- A bench on which nothing is done. -/
theorem refl (bench : Bench) : bench.Evolves allowed bench := Relation.ReflTransGen.refl

/-- One deed. -/
theorem single {bench : Bench} (deed : Deed) (sort : allowed deed)
    (possible : deed.Possible bench) : bench.Evolves allowed (deed.perform bench) :=
  Relation.ReflTransGen.single ⟨deed, sort, possible, rfl⟩

/-- Recorded events. -/
theorem record (quiet : ∀ deed, deed.IsQuiet → allowed deed) (bench : Bench)
    (events : List Event) : bench.Evolves allowed (bench.record events) :=
  single (.record events) (quiet _ trivial) trivial

/-- A crash of a driver whose session is free. -/
theorem crash (quiet : ∀ deed, deed.IsQuiet → allowed deed) {bench : Bench}
    {session : SessionId} (free : (bench.session session).poisoned = false) :
    bench.Evolves allowed (bench.poison session) :=
  single (.crash session) (quiet _ trivial) free

/-- Some deeds after others. -/
theorem trans {before middle after : Bench} (early : before.Evolves allowed middle)
    (late : middle.Evolves allowed after) : before.Evolves allowed after :=
  Relation.ReflTransGen.trans early late

/-- Deeds of a narrower sort are of a wider one. -/
theorem mono {narrow wide : Deed → Prop} (wider : ∀ deed, narrow deed → wide deed)
    {before after : Bench} (evolved : before.Evolves narrow after) :
    before.Evolves wide after :=
  Relation.ReflTransGen.mono
    (fun _ _ ⟨deed, sort, possible, same⟩ => ⟨deed, wider deed sort, possible, same⟩) _ _ evolved

/-- A relation that holds between the benches before and after every deed holds between the
benches before and after any number of them. -/
theorem lift {related : Bench → Bench → Prop} [IsPreorder Bench related]
    (deeds : ∀ bench deed, allowed deed → deed.Possible bench →
      related bench (deed.perform bench))
    {before after : Bench} (evolved : before.Evolves allowed after) : related before after := by
  induction evolved with
  | refl => exact refl_of related before
  | tail _ move ih =>
    obtain ⟨deed, sort, possible, rfl⟩ := move
    exact trans_of related ih (deeds _ deed sort possible)

/-- Deeds take nothing from a bench. -/
theorem grown {before after : Bench} (evolved : before.Evolves allowed after) :
    before.Extends after :=
  evolved.lift fun _ _ _ possible => Deed.extends_perform possible

/-- A calibrated attenuator stays calibrated. -/
theorem calibrated {before after : Bench} (evolved : before.Evolves allowed after)
    {attenuator : Attenuator} (calibrated : before.Calibrated attenuator) :
    after.Calibrated attenuator := evolved.grown.calibrated calibrated

end Evolves

end Bench

/-- A contract of a narrower footprint is one of a wider footprint. -/
theorem Footprint.Within.yields {narrow wide : Footprint} (within : narrow.Within wide)
    {ε α : Type} {action : Action ε α} {bench : Bench} {property : α → Bench → Prop}
    (contract : action.Yields (Bench.Evolves narrow.Allows) bench property) :
    action.Yields (Bench.Evolves wide.Allows) bench property :=
  contract.relax fun _ _ evolved => evolved.mono within.allows

end Attenuation
