import Attenuation.Proofs.Lab

/-!
# Limits

No instrument ever receives a command from an attenuator that its reported maximum does not allow.
`Bench.Admits` is the command that an instrument may receive, `Bench.Guards` is what a bench keeps
while only attenuators command its instruments, and the deeds of every footprint guard the bench.
So every operation of a history that does not reach around the attenuators does.
-/

namespace Attenuation

namespace Bench

/-- The log of an instrument, empty for one that is not on the bench. -/
def log (bench : Bench) (id : SimulatorId) : List Call :=
  if id < bench.nextSimulator then (bench.simulator id).calls else []

/-- A command that an instrument may receive while attenuators are asked for levels: an attenuator
that is calibrated was asked for a finite level, the command is for the channel of that attenuator
and is the level plus the offset, and the instrument reports a maximum that the sum is not above. -/
structure Admits (bench : Bench) (asked : Attenuator → Level → Prop) (id : SimulatorId)
    (index : Nat) (raw : Level) : Prop where
  /-- An attenuator of the channel was asked for a level. -/
  source : ∃ attenuator value, asked attenuator value ∧ bench.Calibrated attenuator ∧
    attenuator.simulatorId bench = id ∧ attenuator.index = index ∧ value.isFinite ∧
    raw = value + attenuator.offset
  /-- The instrument reports a maximum that the level is not above. -/
  limit : ∃ maximum, (bench.simulator id).maximum = some maximum ∧ ¬ maximum < raw

/-- An instrument has the channel of a command that it may receive. -/
theorem Admits.channel {bench : Bench} {asked : Attenuator → Level → Prop} {id : SimulatorId}
    {index : Nat} {raw : Level} (admitted : bench.Admits asked id index raw) :
    index < (bench.simulator id).channelCount := by
  obtain ⟨⟨attenuator, value, -, calibrated, own, channel, -, -⟩, -⟩ := admitted
  rw [← own, ← channel]
  exact calibrated.channel

/-- What a bench keeps of an earlier one while its instruments receive commands only from
attenuators that are asked for levels. -/
structure Guards (asked : Attenuator → Level → Prop) (before after : Bench) : Prop
    extends Extends before after where
  /-- An instrument reports the maximum that it reported. -/
  maximum : ∀ id < before.nextSimulator,
    (after.simulator id).maximum = (before.simulator id).maximum
  /-- Every command received since is one that the instrument admits. -/
  received : ∀ id, ∃ received, after.log id = before.log id ++ received ∧
    ∀ index raw, .set index raw ∈ received → after.Admits asked id index raw

namespace Guards

variable {asked : Attenuator → Level → Prop}

/-- A command that was admitted is admitted by every later bench. -/
theorem admits {before after : Bench} (grown : before.Guards asked after) {id : SimulatorId}
    {index : Nat} {raw : Level} (admitted : before.Admits asked id index raw) :
    after.Admits asked id index raw := by
  obtain ⟨⟨attenuator, value, source, calibrated, own, channel, finite, sum⟩, maximum, known,
    below⟩ := admitted
  have inside : id < before.nextSimulator := by
    rw [← own]
    exact calibrated.isOpen.2
  refine ⟨⟨attenuator, value, source, grown.calibrated calibrated, ?_, channel, finite, sum⟩,
    maximum, ?_, below⟩
  · rw [grown.simulatorId calibrated.isOpen, own]
  · rw [grown.maximum id inside, known]

/-- A bench keeps what it has. -/
theorem refl (bench : Bench) : bench.Guards asked bench where
  toExtends := .refl bench
  maximum _ _ := rfl
  received id := ⟨[], by simp⟩

/-- What is kept twice is kept. -/
theorem trans {before middle after : Bench} (early : before.Guards asked middle)
    (late : middle.Guards asked after) : before.Guards asked after where
  toExtends := early.toExtends.trans late.toExtends
  maximum id inside :=
    (late.maximum id (Nat.lt_of_lt_of_le inside early.simulators)).trans
      (early.maximum id inside)
  received id := by
    obtain ⟨first, begun, admittedFirst⟩ := early.received id
    obtain ⟨second, ended, admittedSecond⟩ := late.received id
    refine ⟨first ++ second, by rw [ended, begun, List.append_assoc], ?_⟩
    intro index raw member
    rcases List.mem_append.mp member with inside | inside
    · exact late.admits (admittedFirst index raw inside)
    · exact admittedSecond index raw inside

instance : IsPreorder Bench (Guards asked) where
  refl := refl
  trans _ _ _ := trans

/-- A bench on which the same instruments stand keeps everything. -/
theorem of_same {before after : Bench} (grown : before.Extends after)
    (simulators : after.nextSimulator = before.nextSimulator)
    (same : ∀ id, after.simulator id = before.simulator id) : before.Guards asked after where
  toExtends := grown
  maximum id _ := by rw [same]
  received id := ⟨[], by simp [log, simulators, same]⟩

/-- An instrument that reports the maximum it reported, and logged one admitted call more, keeps
everything. -/
theorem putSimulator {bench : Bench} {id : SimulatorId} {simulator : Simulator} {call : Call}
    (channels : simulator.channelCount = (bench.simulator id).channelCount)
    (maximum : simulator.maximum = (bench.simulator id).maximum)
    (logged : simulator.calls = (bench.simulator id).calls ++ [call])
    (admitted : ∀ index raw, call = .set index raw →
      (bench.putSimulator id simulator).Admits asked id index raw) :
    bench.Guards asked (bench.putSimulator id simulator) where
  toExtends := .putSimulator channels
  maximum other _ := by
    rw [simulator_putSimulator]
    by_cases own : other = id
    · rw [if_pos own, own, maximum]
    · rw [if_neg own]
  received other := by
    unfold log
    rw [nextSimulator_putSimulator, simulator_putSimulator]
    by_cases present : other < bench.nextSimulator
    · by_cases own : other = id
      · subst own
        refine ⟨[call], by simp [present, logged], ?_⟩
        intro index raw member
        exact admitted index raw (List.mem_singleton.mp member).symm
      · exact ⟨[], by simp [present, own]⟩
    · exact ⟨[], by simp [present]⟩

/-- A command that a calibrated attenuator passes on keeps everything. -/
theorem driven {bench : Bench} {attenuator : Attenuator} {value : Level}
    (calibrated : bench.Calibrated attenuator) (source : asked attenuator value)
    (reaches : attenuator.verdict value bench = .reaches) :
    bench.Guards asked (attenuator.driven value bench) := by
  obtain ⟨finite, maximum, known, below⟩ := Attenuator.of_reaches reaches
  have answered := Attenuator.response_simulator attenuator value bench
  have recorded (here : Bench) (events : List Event) : here.Guards asked (here.record events) :=
    of_same (.record here events) rfl fun _ => rfl
  refine ((recorded bench [attenuator.settingEvent value]).trans
    (putSimulator ?_ ?_ (?_ : _ = _ ++ [attenuator.command value]) ?_)).trans (recorded _ _)
  · rw [answered]
    rfl
  · rw [answered]
    rfl
  · rw [answered]
    rfl
  · intro index raw same
    cases same
    refine ⟨⟨attenuator, value, source, ⟨calibrated.isOpen, ?_, calibrated.offset⟩, rfl, rfl,
      finite, rfl⟩, maximum, ?_, below⟩
    · have reached : (attenuator.response value bench).simulator.channelCount =
          (attenuator.simulator bench).channelCount := by rw [answered]
      unfold Attenuator.simulator
      rw [simulator_putSimulator, if_pos (by rfl), reached]
      exact calibrated.channel
    · rw [simulator_putSimulator, if_pos rfl, answered]
      exact known

/-- A new instrument has received nothing. -/
theorem addSimulator (bench : Bench) (config : SimulatorConfig) :
    bench.Guards asked (bench.addSimulator config).2 := by
  have grown := Deed.extends_perform (show (Deed.addSimulator config).Possible bench from trivial)
  have stands (id : SimulatorId) : (bench.addSimulator config).2.simulator id =
      if id = bench.nextSimulator then .ofConfig config else bench.simulator id :=
    Slots.get_put bench.simulators bench.nextSimulator id _
  refine ⟨grown, fun id inside => ?_, fun id => ⟨[], ?_, fun _ _ member => by cases member⟩⟩
  · rw [stands, if_neg (Nat.ne_of_lt inside)]
  · have counted : (bench.addSimulator config).2.nextSimulator = bench.nextSimulator + 1 := rfl
    unfold log
    rw [stands, counted, List.append_nil]
    by_cases new : id = bench.nextSimulator
    · subst new
      rw [if_pos rfl, if_pos (Nat.lt_succ_self _), if_neg (Nat.lt_irrefl _)]
      rfl
    · by_cases old : id < bench.nextSimulator
      · rw [if_neg new, if_pos old, if_pos (Nat.lt_succ_of_lt old)]
      · have absent : ¬ id < bench.nextSimulator + 1 := fun inside =>
          (Nat.lt_or_eq_of_le (Nat.lt_succ_iff.mp inside)).elim old new
        rw [if_neg old, if_neg absent]

/-- A deed of a footprint keeps everything. -/
theorem perform {footprint : Footprint} {bench : Bench} {deed : Deed}
    (sort : footprint.Allows deed) (possible : deed.Possible bench) :
    bench.Guards footprint.asks (deed.perform bench) := by
  have grown := Deed.extends_perform possible
  cases deed with
  | record events => exact of_same grown rfl fun _ => rfl
  | crash session => exact of_same grown rfl fun _ => rfl
  | get session index =>
    have logged : bench.Guards footprint.asks (bench.putSimulator
        (bench.session session).simulator
        ((bench.simulator (bench.session session).simulator).get index).simulator) := by
      refine putSimulator ?_ ?_ (?_ : _ = _ ++ [.get index]) fun _ _ same => by cases same
      all_goals rw [Simulator.get_simulator]
    exact logged.trans (of_same (.record _ _) rfl fun _ => rfl)
  | set attenuator value => exact driven possible.1 sort possible.2
  | setRaw session index value => exact sort.elim
  | addSimulator config => exact addSimulator bench config
  | openSession id trap => exact of_same grown rfl fun _ => rfl
  | probe id => exact of_same grown rfl fun _ => rfl
  | adjust id adjustment => exact sort.elim

end Guards

end Bench

/-- Whether a call commands its channel. -/
def Call.isCommand : Call → Bool
  | .set _ _ => true
  | .get _ => false

/-- Whether an operation commands an instrument past the attenuators. -/
def Operation.reachesAround : Operation → Bool
  | .setRaw _ _ _ => true
  | .batch _ calls => calls.any Call.isCommand
  | .abandon _ calls => calls.any Call.isCommand
  | _ => false

/-- Calls that command no channel do what a footprint allows that reads what they read. -/
theorem Deed.IsAmong.allows {session : SessionId} {calls : List Call} {deed : Deed}
    {footprint : Footprint} (among : deed.IsAmong session calls)
    (managed : calls.any Call.isCommand = false)
    (reads : ∀ index, .get index ∈ calls → footprint.reads session index) :
    footprint.Allows deed := by
  rcases among with quiet | ⟨index, value, inside, rfl⟩ | ⟨index, inside, rfl⟩
  · exact Footprint.allows_quiet deed quiet
  · exact absurd rfl (List.any_eq_false.mp managed _ inside)
  · exact reads index inside

/-- An operation that is no change from outside and commands no instrument past the attenuators does
what its footprint allows. -/
theorem Operation.footprint_allows {held : Holdings} {operation : Operation} {deed : Deed}
    (managed : operation.reachesAround = false)
    (inside : ∀ target adjustment, operation ≠ .adjust target adjustment)
    (sort : operation.Allows held deed) : (operation.footprint held).Allows deed := by
  cases operation with
  | adjust target adjustment => exact absurd rfl (inside target adjustment)
  | setRaw session index value => cases managed
  | batch session calls => exact sort.allows managed fun _ member => ⟨rfl, member⟩
  | abandon session calls => exact sort.allows managed fun _ member => ⟨rfl, member⟩
  | _ => exact sort

namespace Lab

/-- A change from outside appends nothing to a log, but may clear it. -/
theorem log_adjust (bench : Bench) (target id : SimulatorId)
    (adjustment : Simulator.Adjustment) :
    ((Deed.adjust target adjustment).perform bench).log id <+: bench.log id := by
  change (bench.putSimulator target _).log id <+: _
  unfold Bench.log
  rw [Bench.nextSimulator_putSimulator, Bench.simulator_putSimulator]
  by_cases present : id < bench.nextSimulator
  · rw [if_pos present, if_pos present]
    by_cases own : id = target
    · rw [if_pos own, own]
      cases adjustment with
      | clearCalls => exact List.nil_prefix
      | _ => exact List.prefix_refl _
    · simp only [if_neg own, List.prefix_rfl]
  · simp only [if_neg present, List.prefix_rfl]

/-- The logs after a change from outside are parts of those before it. -/
theorem log_perform_adjust (history : List Operation) (target id : SimulatorId)
    (adjustment : Simulator.Adjustment) :
    ((after history).perform (.adjust target adjustment)).bench.log id <+:
      (after history).bench.log id := by
  have shed {bench : Bench}
      (reached : (after history).bench.Evolves (· = .adjust target adjustment) bench) :
      bench.log id <+: (after history).bench.log id := by
    induction reached with
    | refl => exact List.prefix_refl _
    | tail _ move ih =>
      obtain ⟨deed, rfl, -, rfl⟩ := move
      exact (log_adjust _ target id adjustment).trans ih
  exact shed (perform_evolves (after_calibrated history) (.adjust target adjustment)).1

/-- What an instrument receives during an operation that commands no instrument past the
attenuators is admitted afterwards, and the instrument reports the maximum that it reported. -/
theorem received_admitted (history : List Operation) (operation : Operation)
    (managed : operation.reachesAround = false) (id : SimulatorId) :
    let before := after history
    let later := before.perform operation
    ∃ kept received, kept <+: before.bench.log id ∧ later.bench.log id = kept ++ received ∧
      ∀ index raw, .set index raw ∈ received →
        later.bench.Admits (operation.Asks before.held) id index raw ∧
        (id < before.bench.nextSimulator →
          (later.bench.simulator id).maximum = (before.bench.simulator id).maximum) := by
  intro before later
  by_cases adjusts : ∃ target adjustment, operation = .adjust target adjustment
  · obtain ⟨target, adjustment, rfl⟩ := adjusts
    exact ⟨later.bench.log id, [], log_perform_adjust history target id adjustment,
      (List.append_nil _).symm, fun _ _ member => by cases member⟩
  · have inside (target : SimulatorId) (adjustment : Simulator.Adjustment) :
        operation ≠ .adjust target adjustment := fun same => adjusts ⟨target, adjustment, same⟩
    have evolved := (perform_evolves (after_calibrated history) operation).1
    have guarded : before.bench.Guards (operation.footprint before.held).asks later.bench :=
      (evolved.mono fun _ => Operation.footprint_allows managed inside).lift
        fun _ _ sort possible => Bench.Guards.perform sort possible
    obtain ⟨received, logged, admitted⟩ := guarded.received id
    exact ⟨before.bench.log id, received, List.prefix_refl _, logged, fun index raw member =>
      ⟨admitted index raw member, guarded.maximum id⟩⟩

/-- **Limits are enforced.** Take any history and any operation after it that does not command
an instrument past the attenuators. What an instrument has in its log afterwards is a part of what
it had before, followed by what it received during the operation. Every command among that is for
a channel of the instrument; it is the sum of a finite level, which the operation asked of an
attenuator of this channel, and the finite offset of that attenuator; and the instrument reports a
maximum that the sum is not above, the same before the operation and after it. -/
theorem limits_enforced (history : List Operation) (operation : Operation)
    (managed : operation.reachesAround = false) (id : SimulatorId) :
    let before := after history
    let later := before.perform operation
    ∃ kept received, kept <+: before.bench.log id ∧ later.bench.log id = kept ++ received ∧
      ∀ index raw, .set index raw ∈ received →
        index < (later.bench.simulator id).channelCount ∧
        (∃ attenuator value, operation.Asks before.held attenuator value ∧
          attenuator.simulatorId later.bench = id ∧ attenuator.index = index ∧
          value.isFinite ∧ attenuator.offset.isFinite ∧ raw = value + attenuator.offset) ∧
        ∃ maximum, (later.bench.simulator id).maximum = some maximum ∧ ¬ maximum < raw ∧
          (id < before.bench.nextSimulator →
            (before.bench.simulator id).maximum = some maximum) := by
  intro before later
  obtain ⟨kept, received, front, logged, admitted⟩ :=
    received_admitted history operation managed id
  refine ⟨kept, received, front, logged, fun index raw member => ?_⟩
  obtain ⟨admits, same⟩ := admitted index raw member
  have channels := admits.channel
  obtain ⟨⟨attenuator, value, asked, calibrated, own, channel, finite, sum⟩, maximum, known,
    below⟩ := admits
  refine ⟨channels, ⟨attenuator, value, asked, own, channel, finite, calibrated.offset,
    sum⟩, maximum, known, below, fun inside => ?_⟩
  rw [← same inside, known]

/-- An instrument with four channels up to 95 dB, a session to it, and an attenuator of its second
channel with an offset of half a decibel. -/
def oneAttenuator : List Operation :=
  [.addSimulator .standard, .openSession 0 Trap.none, .createAttenuator 0 1 0.5]

/-- A level of 60 dB reaches the instrument of that history as 60.5 dB, which the limits allow. -/
theorem limits_enforced_oneAttenuator :
    let later := (after oneAttenuator).perform (.setLevel (.own 0) 60.0)
    later.bench.log 0 = [.set 1 60.5] ∧
      ∃ maximum, (later.bench.simulator 0).maximum = some maximum ∧ ¬ maximum < 60.5 := by
  intro later
  have unlogged : (after oneAttenuator).bench.log 0 = [] := by rfl
  have sent : later.bench.log 0 = [.set 1 60.5] := by rfl
  obtain ⟨kept, received, front, logged, admitted⟩ :=
    limits_enforced oneAttenuator (.setLevel (.own 0) 60.0) rfl 0
  rw [unlogged, List.prefix_nil] at front
  rw [front, List.nil_append, sent] at logged
  have member : Call.set 1 60.5 ∈ received := by
    rw [← logged]
    exact List.mem_singleton_self _
  obtain ⟨-, -, maximum, known, below, -⟩ := admitted 1 60.5 member
  exact ⟨sent, maximum, known, below⟩

end Lab

end Attenuation
