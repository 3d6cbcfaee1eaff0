import Attenuation.Simulator
import Attenuation.Slots

/-!
# The bench

The bench is everything that operations can change behind the values they are given: the
simulated instruments, the driver sessions that reach them, and the events recorded so far.
Several sessions may reach one instrument. An operation is an `Action`: it leaves a bench behind
and ends in a value, in a fault, or in a crash of a driver.
-/

namespace Attenuation

/-- The number of a simulated instrument on the bench. -/
abbrev SimulatorId := Nat

/-- The number of a driver session on the bench. Two handles share a driver when they hold the
same number. -/
abbrev SessionId := Nat

/-- The channels on which a driver crashes by itself, before it reaches its instrument. A driver that
crashes anywhere else is one whose session is abandoned. -/
structure Trap where
  /-- Commanding this channel crashes the driver. -/
  onSet : Option Nat
  /-- Reading this channel crashes the driver. -/
  onGet : Option Nat
deriving Repr, DecidableEq

/-- A driver that does not crash. -/
def Trap.none : Trap := ⟨Option.none, Option.none⟩

/-- One driver and the lock around it. -/
structure Session where
  /-- The instrument that the driver reaches. -/
  simulator : SimulatorId
  /-- Where the driver crashes. -/
  trap : Trap
  /-- The driver crashed in the middle of a command, so the session answers nothing any more. -/
  poisoned : Bool

instance : Inhabited Session := ⟨⟨0, Trap.none, false⟩⟩

/-- A driver about to be connected: the instrument it brings along, where it crashes, and whether
its instrument stays within reach of a probe. -/
structure Driver where
  /-- The instrument behind the driver. -/
  instrument : SimulatorConfig
  /-- Where the driver crashes. -/
  trap : Trap
  /-- The instrument can be inspected from outside. -/
  probed : Bool

/-- Instruments, sessions and recorded events. -/
structure Bench where
  /-- The simulated instruments. -/
  simulators : Slots Simulator
  /-- The driver sessions. -/
  sessions : Slots Session
  /-- The number of the next instrument. -/
  nextSimulator : SimulatorId
  /-- The number of the next session. -/
  nextSession : SessionId
  /-- The instruments within reach of a probe, in order of connection. -/
  probes : List SimulatorId
  /-- The events recorded so far, oldest first. -/
  events : List Event

namespace Bench

/-- A bench with nothing on it. -/
def empty : Bench where
  simulators := .empty
  sessions := .empty
  nextSimulator := 0
  nextSession := 0
  probes := []
  events := []

/-- The instrument of a number. -/
def simulator (bench : Bench) (id : SimulatorId) : Simulator := bench.simulators.get id

/-- The session of a number. -/
def session (bench : Bench) (id : SessionId) : Session := bench.sessions.get id

/-- Replace an instrument. -/
def putSimulator (bench : Bench) (id : SimulatorId) (simulator : Simulator) : Bench :=
  { bench with simulators := bench.simulators.put id simulator }

/-- Change an instrument. -/
def changeSimulator (bench : Bench) (id : SimulatorId) (change : Simulator → Simulator) : Bench :=
  bench.putSimulator id (change (bench.simulator id))

/-- Poison a session. -/
def poison (bench : Bench) (id : SessionId) : Bench :=
  { bench with
    sessions := bench.sessions.put id { bench.session id with poisoned := true } }

/-- Record events. -/
def record (bench : Bench) (events : List Event) : Bench :=
  { bench with events := bench.events ++ events }

/-- Put a new instrument on the bench. -/
def addSimulator (bench : Bench) (config : SimulatorConfig) : SimulatorId × Bench :=
  (bench.nextSimulator,
    { bench with
      simulators := bench.simulators.put bench.nextSimulator (.ofConfig config)
      nextSimulator := bench.nextSimulator + 1 })

/-- Open a new session to an instrument. -/
def openSession (bench : Bench) (simulator : SimulatorId) (trap : Trap) : SessionId × Bench :=
  (bench.nextSession,
    { bench with
      sessions := bench.sessions.put bench.nextSession ⟨simulator, trap, false⟩
      nextSession := bench.nextSession + 1 })

/-- Connect a driver: its instrument goes on the bench and a session is opened to it. -/
def connect (bench : Bench) (driver : Driver) : SessionId × Bench :=
  let (simulator, bench) := bench.addSimulator driver.instrument
  let bench :=
    if driver.probed then { bench with probes := bench.probes ++ [simulator] } else bench
  bench.openSession simulator driver.trap

end Bench

end Attenuation
