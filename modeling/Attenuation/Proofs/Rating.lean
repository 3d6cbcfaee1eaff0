import Attenuation.Proofs.Limits
import Attenuation.Proofs.Quantize

/-!
# Ratings

The limit of an instrument is checked for the level that is commanded, and the instrument rounds
that level to its step before it stores it. So what is stored is at most the maximum, or at most
what the step makes of the maximum itself. `Bench.Rates` is what a bench keeps of one instrument
while only attenuators command it.
-/

namespace Attenuation

namespace Simulator

/-- A level that an instrument may hold: if its maximum is finite and not below zero, the level is
not above the maximum, or it is not above what the step of the instrument makes of the maximum. A
step that is not finite bounds nothing. -/
def MayHold (simulator : Simulator) (level : Level) : Prop :=
  ∀ maximum, simulator.maximum = some maximum → maximum.isFinite → 0.0 ≤ maximum →
    level ≤ maximum ∨ ∃ step, simulator.step = some step ∧
      (step.isFinite → level ≤ quantize (some step) maximum)

/-- Whether the step of an instrument is positive, if it has one. -/
def StepPositive (simulator : Simulator) : Prop := ∀ step, simulator.step = some step → 0.0 < step

/-- A step that takes effect is positive. -/
theorem stepPositive_of_effective {simulator : Simulator} {given : Option Level}
    (takes : simulator.step = effectiveStep given) : simulator.StepPositive := by
  intro step effective
  rw [takes, effectiveStep, Option.filter_eq_some_iff] at effective
  exact of_decide_eq_true effective.2

/-- What an instrument stores for a sum of finite levels that its maximum allows is a level that it
may hold. -/
theorem mayHold_quantize {simulator : Simulator} (positive : simulator.StepPositive)
    {level offset maximum : Level} (finite : level.isFinite) (offsetFinite : offset.isFinite)
    (known : simulator.maximum = some maximum) (within : ¬ maximum < level + offset) :
    simulator.MayHold (quantize simulator.step (level + offset)) := by
  intro own same maximumFinite _
  have number := (Level.add_nearest finite offsetFinite).isNumber
  cases known.symm.trans same
  have maximumNumber := Level.isNaN_of_isFinite maximumFinite
  rw [Level.lt_iff maximumNumber number, not_lt, ← Level.le_iff number maximumNumber] at within
  cases effective : simulator.step with
  | none => exact .inl within
  | some step =>
    refine .inr ⟨step, rfl, fun stepFinite => ?_⟩
    have above := positive step effective
    rw [Level.lt_iff rfl (Level.isNaN_of_isFinite stepFinite)] at above
    exact Level.quantize_mono stepFinite above number maximumNumber within

end Simulator

namespace Bench

/-- The stored levels of an instrument, none for one that is not on the bench. -/
def stored (bench : Bench) (id : SimulatorId) : List Level :=
  if id < bench.nextSimulator then (bench.simulator id).values else []

/-- What a bench keeps of one instrument while only attenuators command it. -/
structure Rates (id : SimulatorId) (before after : Bench) : Prop where
  /-- No instrument is taken away. -/
  simulators : before.nextSimulator ≤ after.nextSimulator
  /-- The instrument reports the maximum that it reported. -/
  maximum : id < before.nextSimulator →
    (after.simulator id).maximum = (before.simulator id).maximum
  /-- The instrument has the step that it had. -/
  step : id < before.nextSimulator → (after.simulator id).step = (before.simulator id).step
  /-- The step of the instrument stays positive. -/
  positive : (before.simulator id).StepPositive → (after.simulator id).StepPositive
  /-- Every level stored since is one that the instrument may hold. -/
  stored : (before.simulator id).StepPositive → ∀ level ∈ after.stored id,
    level ∈ before.stored id ∨ (after.simulator id).MayHold level

namespace Rates

variable {id : SimulatorId}

/-- A bench keeps what it has. -/
theorem refl (bench : Bench) : bench.Rates id bench where
  simulators := Nat.le_refl _
  maximum _ := rfl
  step _ := rfl
  positive known := known
  stored _ _ member := .inl member

/-- What is kept twice is kept. -/
theorem trans {before middle after : Bench} (early : before.Rates id middle)
    (late : middle.Rates id after) : before.Rates id after where
  simulators := early.simulators.trans late.simulators
  maximum inside :=
    (late.maximum (inside.trans_le early.simulators)).trans (early.maximum inside)
  step inside := (late.step (inside.trans_le early.simulators)).trans (early.step inside)
  positive known := late.positive (early.positive known)
  stored known level member := by
    rcases late.stored (early.positive known) level member with held | new
    · have inside : id < middle.nextSimulator := by
        by_contra absent
        rw [Bench.stored, if_neg absent] at held
        cases held
      refine (early.stored known level held).imp_right fun bounded => ?_
      unfold Simulator.MayHold
      rw [late.maximum inside, late.step inside]
      exact bounded
    · exact .inr new

instance : IsPreorder Bench (Rates id) where
  refl := refl
  trans _ _ _ := trans

/-- A bench on which the instrument stands as it stood keeps everything. -/
theorem of_same {before after : Bench} (simulators : after.nextSimulator = before.nextSimulator)
    (same : after.simulator id = before.simulator id) : before.Rates id after where
  simulators := simulators.ge
  maximum _ := by rw [same]
  step _ := by rw [same]
  positive known := by rwa [same]
  stored _ level member := .inl (by rwa [Bench.stored, simulators, same] at member)

/-- An instrument whose maximum and step stay, and which stores a level more that it may hold,
keeps everything. -/
theorem putSimulator {bench : Bench} {target : SimulatorId} {simulator : Simulator}
    (maximum : simulator.maximum = (bench.simulator target).maximum)
    (step : simulator.step = (bench.simulator target).step)
    (holds : (bench.simulator target).StepPositive → ∀ level ∈ simulator.values,
      level ∈ (bench.simulator target).values ∨ (bench.simulator target).MayHold level) :
    bench.Rates id (bench.putSimulator target simulator) := by
  by_cases own : id = target
  · subst own
    have put : (bench.putSimulator id simulator).simulator id = simulator := by simp
    refine ⟨Nat.le_refl _, fun _ => by rw [put, maximum], fun _ => by rw [put, step],
      fun known => ?_, fun known level member => ?_⟩
    · rw [put]
      intro effective has
      exact known effective (step ▸ has)
    · unfold Bench.stored at member ⊢
      rw [put] at member ⊢
      rw [nextSimulator_putSimulator] at member
      split at member
      · rename_i inside
        rw [if_pos inside]
        refine (holds known level member).imp_right fun bounded => ?_
        unfold Simulator.MayHold
        rw [maximum, step]
        exact bounded
      · cases member
  · exact of_same rfl (by rw [simulator_putSimulator, if_neg own])

/-- A command that a calibrated attenuator passes on keeps everything. -/
theorem driven {bench : Bench} {attenuator : Attenuator} {value : Level}
    (calibrated : bench.Calibrated attenuator)
    (reaches : attenuator.verdict value bench = .reaches) :
    bench.Rates id (attenuator.driven value bench) := by
  obtain ⟨finite, maximum, known, within⟩ := Attenuator.of_reaches reaches
  have answered := Attenuator.response_simulator attenuator value bench
  have recorded (here : Bench) (events : List Event) : here.Rates id (here.record events) :=
    of_same rfl rfl
  refine ((recorded bench [attenuator.settingEvent value]).trans (putSimulator ?_ ?_ ?_)).trans
    (recorded _ _)
  · rw [answered]
    rfl
  · rw [answered]
    rfl
  · intro positive level member
    rw [answered] at member
    change level ∈ (attenuator.simulator bench).storedAfter _ _ _ at member
    unfold Simulator.storedAfter at member
    split at member
    · rcases List.mem_or_eq_of_mem_set member with earlier | rfl
      · exact .inl earlier
      · exact .inr (Simulator.mayHold_quantize positive finite calibrated.offset known within)
    · exact .inl member

/-- A new instrument holds nothing but zero. -/
theorem addSimulator (bench : Bench) (config : SimulatorConfig) :
    bench.Rates id (bench.addSimulator config).2 := by
  have stands (other : SimulatorId) : (bench.addSimulator config).2.simulator other =
      if other = bench.nextSimulator then .ofConfig config else bench.simulator other :=
    Slots.get_put bench.simulators bench.nextSimulator other _
  have counted : (bench.addSimulator config).2.nextSimulator = bench.nextSimulator + 1 := rfl
  by_cases new : id = bench.nextSimulator
  · subst new
    have made := stands bench.nextSimulator
    rw [if_pos rfl] at made
    refine ⟨Nat.le_succ _, fun inside => absurd inside (Nat.lt_irrefl _),
      fun inside => absurd inside (Nat.lt_irrefl _), fun _ => ?_, fun _ level member => .inr ?_⟩
    · rw [made]
      exact Simulator.stepPositive_of_effective rfl
    · rw [Bench.stored, counted, if_pos (Nat.lt_succ_self _), made] at member
      rw [made]
      cases List.eq_of_mem_replicate member
      exact fun maximum _ _ nonneg => .inl nonneg
  · have old := stands id
    rw [if_neg new] at old
    refine ⟨Nat.le_succ _, fun _ => by rw [old], fun _ => by rw [old], fun known => by rwa [old],
      fun _ level member => .inl ?_⟩
    unfold Bench.stored at member ⊢
    rw [old, counted] at member
    split at member
    · rename_i inside
      rwa [if_pos (Nat.lt_of_le_of_ne (Nat.lt_succ_iff.mp inside) new)]
    · cases member

/-- A deed of a footprint keeps everything. -/
theorem perform {footprint : Footprint} {bench : Bench} {deed : Deed}
    (sort : footprint.Allows deed) (possible : deed.Possible bench) :
    bench.Rates id (deed.perform bench) := by
  cases deed with
  | record events => exact of_same rfl rfl
  | crash session => exact of_same rfl rfl
  | get session index =>
    have read : bench.Rates id (bench.putSimulator (bench.session session).simulator
        ((bench.simulator (bench.session session).simulator).get index).simulator) := by
      refine putSimulator ?_ ?_ fun _ level member => .inl ?_
      · rw [Simulator.get_simulator]
      · rw [Simulator.get_simulator]
      · rwa [Simulator.get_simulator] at member
    exact read.trans (of_same rfl rfl)
  | set attenuator value => exact driven possible.1 possible.2
  | setRaw session index value => exact sort.elim
  | addSimulator config => exact addSimulator bench config
  | openSession id trap => exact of_same rfl rfl
  | probe id => exact of_same rfl rfl
  | adjust id adjustment => exact sort.elim

end Rates

end Bench

/-- Whether a change from outside is one of the maximum or of a stored level. -/
def Simulator.Adjustment.Overrides : Simulator.Adjustment → Prop
  | .reportMaximum _ => True
  | .force _ _ => True
  | _ => False

/-- Whether an operation changes the maximum of an instrument or one of its stored levels from
outside, or commands it past the attenuators. -/
def Operation.Tampers (bench : Bench) (id : SimulatorId) : Operation → Prop
  | .adjust target adjustment => target = id ∧ adjustment.Overrides
  | .setRaw session _ _ => (bench.session session).simulator = id
  | .batch session calls => (bench.session session).simulator = id ∧ calls.any Call.isCommand
  | .abandon session calls => (bench.session session).simulator = id ∧ calls.any Call.isCommand
  | _ => False

/-- What a bench keeps while the session of a raw command reaches other instruments. -/
def Bench.RatesAside (id : SimulatorId) (session : SessionId) (before after : Bench) : Prop :=
  (before.session session).simulator ≠ id →
    before.Rates id after ∧ (after.session session).simulator ≠ id

namespace Bench.RatesAside

variable {id : SimulatorId} {session : SessionId}

instance : IsPreorder Bench (RatesAside id session) where
  refl bench other := ⟨.refl bench, other⟩
  trans _ _ _ early late other :=
    ⟨(early other).1.trans (late (early other).2).1, (late (early other).2).2⟩

/-- Recorded events and crashes keep everything. -/
theorem quiet {bench : Bench} {deed : Deed} (quiet : deed.IsQuiet) :
    bench.RatesAside id session (deed.perform bench) := by
  intro other
  cases deed with
  | record events => exact ⟨.of_same rfl rfl, other⟩
  | crash own =>
    refine ⟨.of_same rfl rfl, ?_⟩
    change ((bench.poison own).session session).simulator ≠ id
    rw [Bench.session_poison]
    by_cases same : session = own
    · rwa [if_pos same, ← same]
    · rwa [if_neg same]
  | _ => exact quiet.elim

/-- An answer of another instrument keeps everything. -/
theorem answered {α : Type} (bench : Bench) (call : Simulator → Simulator.Response α) :
    bench.RatesAside id session (Deed.answered bench session call) := by
  intro other
  refine ⟨.of_same rfl ?_, other⟩
  change (bench.putSimulator (bench.session session).simulator _).simulator id = _
  rw [Bench.simulator_putSimulator, if_neg other.symm]

end Bench.RatesAside

/-- What only reads through sessions. -/
def Footprint.reading : Footprint where
  asks _ _ := False
  reads _ _ := True
  connects := False

/-- Calls through a session keep everything of an instrument when they go to another one, or when
none of them is a command. -/
theorem Bench.Rates.of_among {before later : Bench} {id : SimulatorId} {session : SessionId}
    {calls : List Call}
    (fair : ¬ ((before.session session).simulator = id ∧ calls.any Call.isCommand))
    (evolved : before.Evolves (Deed.IsAmong session calls) later) : before.Rates id later := by
  by_cases own : (before.session session).simulator = id
  · have reads : calls.any Call.isCommand = false :=
      Bool.eq_false_iff.mpr fun commands => fair ⟨own, commands⟩
    have read : before.Evolves Footprint.reading.Allows later :=
      evolved.mono fun _ among => among.allows reads fun _ _ => trivial
    exact read.lift fun _ _ sort possible => .perform sort possible
  · have aside : before.RatesAside id session later := by
      refine evolved.lift fun bench deed among _ => ?_
      rcases among with quiet | ⟨index, value, -, rfl⟩ | ⟨index, -, rfl⟩
      · exact .quiet quiet
      · exact .answered bench fun simulator => simulator.set index value
      · exact .answered bench fun simulator => simulator.get index
    exact (aside own).1

namespace Lab

/-- The laboratory after one operation more. -/
theorem after_concat (history : List Operation) (operation : Operation) :
    after (history ++ [operation]) = (after history).perform operation := by
  simp [after, List.foldl_append]

/-- An operation that is no change from outside and does not tamper with an instrument keeps
everything of it. -/
theorem rates_perform (history : List Operation) {operation : Operation} {id : SimulatorId}
    (fair : ¬ operation.Tampers (after history).bench id)
    (inside : ∀ target adjustment, operation ≠ .adjust target adjustment) :
    (after history).bench.Rates id ((after history).perform operation).bench := by
  have evolved := (perform_evolves (after_calibrated history) operation).1
  have footprint (allows : ∀ deed, operation.Allows (after history).held deed →
      (operation.footprint (after history).held).Allows deed) :
      (after history).bench.Rates id ((after history).perform operation).bench :=
    (evolved.mono allows).lift fun _ _ sort possible => Bench.Rates.perform sort possible
  cases operation with
  | adjust target adjustment => exact absurd rfl (inside target adjustment)
  | setRaw session index value =>
    have aside : (after history).bench.RatesAside id session
        ((after history).perform (.setRaw session index value)).bench := by
      refine evolved.lift fun bench deed sort _ => ?_
      rcases sort with quiet | rfl
      · exact .quiet quiet
      · exact .answered bench fun simulator => simulator.set index value
    exact (aside fair).1
  | batch session calls => exact .of_among fair evolved
  | abandon session calls => exact .of_among fair evolved
  | _ => exact footprint fun _ sort => sort

/-- A change from outside that does not tamper with an instrument leaves its maximum and its stored
levels alone, and its step positive. -/
theorem adjust_keeps {bench : Bench} {id target : SimulatorId}
    {adjustment : Simulator.Adjustment} (fair : ¬ (target = id ∧ adjustment.Overrides)) :
    let later := (Deed.adjust target adjustment).perform bench
    (later.simulator id).maximum = (bench.simulator id).maximum ∧
      later.stored id = bench.stored id ∧
      ((bench.simulator id).StepPositive → (later.simulator id).StepPositive) := by
  intro later
  have stands : later.simulator id =
      if id = target then (bench.simulator target).adjust adjustment else bench.simulator id :=
    Bench.simulator_putSimulator bench target id _
  have counted : later.nextSimulator = bench.nextSimulator := rfl
  unfold Bench.stored
  rw [stands, counted]
  by_cases own : id = target
  · subst own
    rw [if_pos rfl]
    cases adjustment with
    | reportMaximum maximum => exact absurd ⟨rfl, trivial⟩ fair
    | force index value => exact absurd ⟨rfl, trivial⟩ fair
    | setStep step =>
      have takes : ((bench.simulator id).adjust (.setStep step)).step =
          Simulator.effectiveStep (some step) := rfl
      exact ⟨rfl, rfl, fun _ => Simulator.stepPositive_of_effective takes⟩
    | _ => exact ⟨rfl, rfl, fun known => known⟩
  · rw [if_neg own]
    exact ⟨rfl, rfl, fun known => known⟩

/-- A history in which nothing tampers with an instrument. -/
def Fair (id : SimulatorId) (history : List Operation) : Prop :=
  ∀ earlier operation, earlier ++ [operation] <+: history →
    ¬ operation.Tampers (after earlier).bench id

/-- A step that an instrument had at some time of a history. -/
def HadStep (id : SimulatorId) (history : List Operation) (step : Level) : Prop :=
  ∃ earlier, earlier <+: history ∧ ((after earlier).bench.simulator id).step = some step

/-- What holds of an instrument after a history in which nothing tampered with it. -/
structure Rated (id : SimulatorId) (history : List Operation) : Prop where
  /-- Its step is positive. -/
  positive : ((after history).bench.simulator id).StepPositive
  /-- Every level that it holds is at most its maximum, or at most what a step that it had makes of
  the maximum. -/
  stored : ∀ level ∈ (after history).bench.stored id, ∀ maximum,
    ((after history).bench.simulator id).maximum = some maximum → maximum.isFinite →
      0.0 ≤ maximum → level ≤ maximum ∨ ∃ step, HadStep id history step ∧
        (step.isFinite → level ≤ Simulator.quantize (some step) maximum)

/-- One operation more that does not tamper with an instrument leaves its levels bounded. -/
theorem Rated.perform {id : SimulatorId} {history : List Operation} (rated : Rated id history)
    {operation : Operation} (fair : ¬ operation.Tampers (after history).bench id) :
    Rated id (history ++ [operation]) := by
  have longer (step : Level) (had : HadStep id history step) :
      HadStep id (history ++ [operation]) step := by
    obtain ⟨earlier, front, effective⟩ := had
    exact ⟨earlier, front.trans (List.prefix_append _ _), effective⟩
  by_cases adjusts : ∃ target adjustment, operation = .adjust target adjustment
  · obtain ⟨target, adjustment, rfl⟩ := adjusts
    have evolved := (perform_evolves (after_calibrated history) (.adjust target adjustment)).1
    have spared {bench : Bench}
        (reached : (after history).bench.Evolves (· = .adjust target adjustment) bench) :
        (bench.simulator id).maximum = ((after history).bench.simulator id).maximum ∧
          bench.stored id = (after history).bench.stored id ∧
          (bench.simulator id).StepPositive := by
      induction reached with
      | refl => exact ⟨rfl, rfl, rated.positive⟩
      | tail _ move ih =>
        obtain ⟨deed, rfl, -, rfl⟩ := move
        obtain ⟨maximum, stored, positive⟩ := adjust_keeps fair
        exact ⟨maximum.trans ih.1, stored.trans ih.2.1, positive ih.2.2⟩
    obtain ⟨maximum, stored, positive⟩ := spared evolved
    rw [← after_concat] at maximum stored positive
    refine ⟨positive, fun level member own known finite nonneg => ?_⟩
    rw [stored] at member
    rw [maximum] at known
    exact (rated.stored level member own known finite nonneg).imp_right
      fun ⟨step, had, bounded⟩ => ⟨step, longer step had, bounded⟩
  · have rates := rates_perform history fair fun target adjustment same =>
      adjusts ⟨target, adjustment, same⟩
    rw [← after_concat] at rates
    refine ⟨rates.positive rated.positive, fun level member own known finite nonneg => ?_⟩
    rcases rates.stored rated.positive level member with held | new
    · have inside : id < (after history).bench.nextSimulator := by
        by_contra absent
        rw [Bench.stored, if_neg absent] at held
        cases held
      rw [rates.maximum inside] at known
      exact (rated.stored level held own known finite nonneg).imp_right
        fun ⟨step, had, bounded⟩ => ⟨step, longer step had, bounded⟩
    · exact (new own known finite nonneg).imp_right fun ⟨step, effective, bounded⟩ =>
        ⟨step, ⟨_, List.prefix_rfl, effective⟩, bounded⟩

/-- What comes first in a history in which nothing tampers with an instrument does not either. -/
theorem Fair.earlier {id : SimulatorId} {history earlier : List Operation} (fair : Fair id history)
    (front : earlier <+: history) : Fair id earlier :=
  fun shorter operation within => fair shorter operation (within.trans front)

/-- After a history in which nothing tampered with an instrument its levels are bounded. -/
theorem Fair.rated {id : SimulatorId} {history : List Operation} (fair : Fair id history) :
    Rated id history := by
  induction history using List.reverseRecOn with
  | nil =>
    refine ⟨fun step effective => ?_, fun level member => ?_⟩
    · cases effective
    · cases member
  | append_singleton history operation ih =>
    exact (ih (fair.earlier (List.prefix_append _ _))).perform
      (fair history operation List.prefix_rfl)

/-- **What is stored stays within the rating of the instrument, up to the rounding of the rating
itself.** Take any history in which nothing changes the maximum of an instrument or its stored
levels from outside or commands it past the attenuators, whatever else happens and whatever steps
the instrument is given. If its maximum is finite and not below zero, every level that it holds is
not above the maximum, or it is not above what a step that the instrument had makes of the maximum:
the multiple of the step that is nearest to it. A step that is not finite bounds nothing. -/
theorem rating_kept (history : List Operation) (id : SimulatorId) (fair : Fair id history)
    (present : id < (after history).bench.nextSimulator) (maximum : Level)
    (known : ((after history).bench.simulator id).maximum = some maximum)
    (finite : maximum.isFinite) (nonneg : 0.0 ≤ maximum) :
    ∀ level ∈ ((after history).bench.simulator id).values,
      level ≤ maximum ∨ ∃ step, HadStep id history step ∧
        (step.isFinite → level ≤ Simulator.quantize (some step) maximum) := by
  intro level member
  refine fair.rated.stored level ?_ maximum known finite nonneg
  rw [Bench.stored, if_pos present]
  exact member

/-- An instrument with one channel up to 10.3 dB in steps of half a decibel, whose attenuator is
commanded to the maximum. -/
def steppedMaximum : List Operation :=
  [.addSimulator ⟨"SIM-1", 1, some 10.3, some 0.5⟩, .openSession 0 Trap.none,
    .createAttenuator 0 0 0.0, .setLevel (.own 0) 10.3]

/-- Nothing tampers with the instrument of that history. -/
theorem fair_steppedMaximum : Fair 0 steppedMaximum := by
  intro earlier operation front
  have member : operation ∈ steppedMaximum := front.subset (by simp)
  simp only [steppedMaximum, List.mem_cons, List.not_mem_nil, or_false] at member
  rcases member with rfl | rfl | rfl | rfl <;> exact id

/-- An instrument that only an attenuator commanded holds a level above its maximum, because the
maximum is not a multiple of its step. -/
theorem rating_exceeded :
    Fair 0 steppedMaximum ∧
      ((after steppedMaximum).bench.simulator 0).maximum = some 10.3 ∧
      ((after steppedMaximum).bench.simulator 0).values = [10.5] ∧ ¬ (10.5 : Level) ≤ 10.3 :=
  ⟨fair_steppedMaximum, by rfl, by rfl, by decide⟩

/-- What that instrument holds is not above what its step makes of its maximum. -/
theorem rating_kept_steppedMaximum : ∃ step, HadStep 0 steppedMaximum step ∧
    (step.isFinite → (10.5 : Level) ≤ Simulator.quantize (some step) 10.3) := by
  have holds : (10.5 : Level) ∈ ((after steppedMaximum).bench.simulator 0).values := by
    have stored : ((after steppedMaximum).bench.simulator 0).values = [10.5] := by rfl
    rw [stored]
    exact List.mem_singleton_self _
  have known : ((after steppedMaximum).bench.simulator 0).maximum = some 10.3 := by rfl
  have bounded := rating_kept steppedMaximum 0 fair_steppedMaximum (by decide) 10.3 known
    (by rfl) (by decide) 10.5 holds
  exact bounded.resolve_left (by decide)

/-- An instrument whose maximum is a whole multiple of every step that it had holds nothing above
its maximum. -/
theorem rating_kept_of_multiples (history : List Operation) (id : SimulatorId)
    (fair : Fair id history) (present : id < (after history).bench.nextSimulator) (maximum : Level)
    (known : ((after history).bench.simulator id).maximum = some maximum)
    (finite : maximum.isFinite) (nonneg : 0.0 ≤ maximum)
    (multiples : ∀ step, HadStep id history step → step.isFinite ∧
      ∃ count : ℤ, |count| < 2 ^ 53 ∧ maximum.value = count * step.value) :
    ∀ level ∈ ((after history).bench.simulator id).values, level ≤ maximum := by
  intro level member
  have held : level ∈ (after history).bench.stored id := by
    rw [Bench.stored, if_pos present]
    exact member
  rcases fair.rated.stored level held maximum known finite nonneg with within | ⟨step, had, bounded⟩
  · exact within
  · obtain ⟨stepFinite, count, short, multiple⟩ := multiples step had
    obtain ⟨earlier, front, effective⟩ := had
    have above := (fair.earlier front).rated.positive step effective
    rw [Level.lt_iff rfl (Level.isNaN_of_isFinite stepFinite)] at above
    have number := Level.isNaN_of_isFinite finite
    have within := bounded stepFinite
    have levelNumber := Level.isNaN_of_le within
    rw [Level.le_iff levelNumber (Level.isNaN_quantize stepFinite above number),
      Level.quantize_multiple stepFinite above finite short multiple] at within
    rwa [Level.le_iff levelNumber number]

end Lab

end Attenuation
