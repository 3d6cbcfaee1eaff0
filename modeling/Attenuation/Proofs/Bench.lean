import Attenuation.Bench

/-!
# What a change of the bench leaves alone

The instruments and the sessions of a bench after each of the changes that an action can make,
and what a command or a read changes of the instrument that answers it. Everything that a bench
is observed by afterwards reduces to the bench before by these equations.
-/

namespace Attenuation

namespace Bench

variable (bench : Bench)

/-- A replaced instrument is the one that was put there, and every other one stays. -/
@[simp] theorem simulator_putSimulator (id other : SimulatorId) (simulator : Simulator) :
    (bench.putSimulator id simulator).simulator other =
      if other = id then simulator else bench.simulator other :=
  Slots.get_put bench.simulators id other simulator

/-- Replacing an instrument leaves the sessions alone. -/
@[simp] theorem session_putSimulator (id : SimulatorId) (simulator : Simulator)
    (session : SessionId) :
    (bench.putSimulator id simulator).session session = bench.session session := rfl

/-- Recording events leaves the instruments alone. -/
@[simp] theorem simulator_record (events : List Event) (id : SimulatorId) :
    (bench.record events).simulator id = bench.simulator id := rfl

/-- Recording events leaves the sessions alone. -/
@[simp] theorem session_record (events : List Event) (session : SessionId) :
    (bench.record events).session session = bench.session session := rfl

/-- Poisoning a session leaves the instruments alone. -/
@[simp] theorem simulator_poison (session : SessionId) (id : SimulatorId) :
    (bench.poison session).simulator id = bench.simulator id := rfl

/-- A poisoned session is the session it was with the mark set. -/
@[simp] theorem session_poison (session other : SessionId) :
    (bench.poison session).session other =
      if other = session then { bench.session session with poisoned := true }
      else bench.session other :=
  Slots.get_put bench.sessions session other _

/-- Replacing an instrument puts no new one on the bench. -/
@[simp] theorem nextSimulator_putSimulator (id : SimulatorId) (simulator : Simulator) :
    (bench.putSimulator id simulator).nextSimulator = bench.nextSimulator := rfl

/-- Replacing an instrument opens no session. -/
@[simp] theorem nextSession_putSimulator (id : SimulatorId) (simulator : Simulator) :
    (bench.putSimulator id simulator).nextSession = bench.nextSession := rfl

/-- Recording events puts no new instrument on the bench. -/
@[simp] theorem nextSimulator_record (events : List Event) :
    (bench.record events).nextSimulator = bench.nextSimulator := rfl

/-- Recording events opens no session. -/
@[simp] theorem nextSession_record (events : List Event) :
    (bench.record events).nextSession = bench.nextSession := rfl

/-- Poisoning a session puts no new instrument on the bench. -/
@[simp] theorem nextSimulator_poison (session : SessionId) :
    (bench.poison session).nextSimulator = bench.nextSimulator := rfl

/-- Poisoning a session opens no other. -/
@[simp] theorem nextSession_poison (session : SessionId) :
    (bench.poison session).nextSession = bench.nextSession := rfl

/-- Recording twice records one list after the other. -/
@[simp] theorem record_record (first second : List Event) :
    (bench.record first).record second = bench.record (first ++ second) := by
  simp [record]

/-- Recording nothing changes nothing. -/
@[simp] theorem record_nil : bench.record [] = bench := by
  simp [record]

end Bench

namespace Simulator

variable (simulator : Simulator) (index : Nat) (value : Level)

/-- The stored levels after a command that was answered: an accepted one stores the quantized
level, and a refused one stores nothing. -/
def storedAfter (answer : Except SessionFault Unit) : List Level :=
  match answer with
  | .ok () => simulator.values.set index (quantize simulator.step value)
  | .error _ => simulator.values

/-- A command leaves the instrument as it was but for its log, its pending refusals and its
stored levels. -/
theorem set_simulator :
    (simulator.set index value).simulator =
      { simulator with
        calls := simulator.calls ++ [.set index value]
        refusedSets := simulator.refusedSets - 1
        values := simulator.storedAfter index value (simulator.set index value).answer } := by
  unfold set
  simp only [log]
  by_cases pending : 0 < simulator.refusedSets
  · simp [pending, storedAfter]
  have unused : simulator.refusedSets - 1 = simulator.refusedSets := by omega
  by_cases silent : simulator.unresponsive.contains index
  · simp only [pending, silent, ↓reduceIte, storedAfter, unused]
  by_cases present : index < simulator.values.length
  · simp only [pending, silent, present, ↓reduceIte, storedAfter, unused]
    rfl
  · simp only [pending, silent, present, ↓reduceIte, storedAfter, unused]
    rfl

/-- A read leaves the instrument as it was but for its log and its pending refusals. -/
theorem get_simulator :
    (simulator.get index).simulator =
      { simulator with
        calls := simulator.calls ++ [.get index]
        refusedGets := simulator.refusedGets - 1 } := by
  unfold get
  simp only [log]
  by_cases pending : 0 < simulator.refusedGets
  · simp [pending]
  have unused : simulator.refusedGets - 1 = simulator.refusedGets := by omega
  by_cases silent : simulator.unresponsive.contains index
  · simp only [pending, silent, ↓reduceIte, unused]
  · simp only [pending, silent, ↓reduceIte, unused]
    cases simulator.values[index]? <;> rfl

/-- What an instrument is set to: everything but its log and its stored levels. -/
def settings : Simulator := { simulator with calls := [], values := [] }

/-- A command that is accepted found no refusal pending and names a channel of the instrument. -/
theorem set_ok (accepted : (simulator.set index value).answer = .ok ()) :
    simulator.refusedSets = 0 ∧ index < simulator.values.length := by
  unfold set at accepted
  simp only [log] at accepted
  by_cases pending : 0 < simulator.refusedSets
  · simp [pending] at accepted
  by_cases silent : simulator.unresponsive.contains index
  · simp only [pending, silent, ↓reduceIte] at accepted
    cases accepted
  by_cases present : index < simulator.values.length
  · exact ⟨by omega, present⟩
  · simp only [pending, silent, present, ↓reduceIte] at accepted
    cases accepted

/-- A command that is accepted names a channel that responds. -/
theorem responds_of_set_ok (accepted : (simulator.set index value).answer = .ok ()) :
    index ∉ simulator.unresponsive := by
  intro silent
  have idle := (set_ok simulator index value accepted).1
  unfold set at accepted
  simp [log, idle, silent] at accepted

/-- A command that is accepted leaves the settings alone. -/
theorem set_settings_of_ok (accepted : (simulator.set index value).answer = .ok ()) :
    (simulator.set index value).simulator.settings = simulator.settings := by
  have idle := (set_ok simulator index value accepted).1
  rw [set_simulator]
  simp [settings, idle]

/-- A command that is accepted stores the quantized level. -/
theorem set_values_of_ok (accepted : (simulator.set index value).answer = .ok ()) :
    (simulator.set index value).simulator.values =
      simulator.values.set index (quantize simulator.step value) := by
  rw [set_simulator, accepted]
  rfl

/-- A command that names a channel of an idle instrument is accepted. -/
theorem set_accepts {simulator : Simulator} {index : Nat} (value : Level)
    (idle : simulator.refusedSets = 0) (responsive : index ∉ simulator.unresponsive)
    (present : index < simulator.values.length) :
    (simulator.set index value).answer = .ok () := by
  unfold set
  simp [log, idle, responsive, present]

/-- A read of a channel of an idle instrument is answered by the stored level. -/
theorem get_answers {simulator : Simulator} {index : Nat} {value : Level}
    (idle : simulator.refusedGets = 0) (responsive : index ∉ simulator.unresponsive)
    (present : simulator.values[index]? = some value) :
    (simulator.get index).answer = .ok value := by
  unfold get
  simp [log, idle, responsive, present]

end Simulator

end Attenuation
