import Attenuation.Proofs.Deed

/-!
# How a simulated instrument depends on its history

Everything that happens to a simulated instrument is a call of a driver or a change from outside,
through whichever session or probe. What the next call is answered is a function of these touches
alone: a pending refusal comes before an unresponsive channel, and this before a missing one. Here
the fault state that the instrument carries along is read off its history, and every instrument of
a bench is shown to be where its own history has left it.
-/

namespace Attenuation

/-- The two sorts of calls, each of which has refusals of its own. -/
inductive CallSort where
  /-- Commands. -/
  | set
  /-- Reads. -/
  | get
deriving DecidableEq

/-- The sort of a call. -/
def Call.sort : Call → CallSort
  | .set _ _ => .set
  | .get _ => .get

namespace Simulator

/-- Something that happens to an instrument. -/
inductive Touch where
  /-- A driver calls it. -/
  | call (call : Call)
  /-- It is changed from outside. -/
  | adjust (adjustment : Adjustment)

/-- An instrument after something happened to it. -/
def touch (simulator : Simulator) : Touch → Simulator
  | .call (.set index value) => (simulator.set index value).simulator
  | .call (.get index) => (simulator.get index).simulator
  | .adjust adjustment => simulator.adjust adjustment

/-- A new instrument after everything that happened to it, oldest first. -/
def after (config : SimulatorConfig) (history : List Touch) : Simulator :=
  history.foldl touch (ofConfig config)

/-- The call of a touch. -/
def Touch.call? : Touch → Option Call
  | .call made => some made
  | .adjust _ => none

/-- Whether a touch is a call of a sort. -/
def Touch.isCall (sort : CallSort) : Touch → Bool
  | .call made => made.sort = sort
  | .adjust _ => false

/-- The touch that has the next calls of a sort refused. -/
def Touch.refuse (count : Nat) : CallSort → Touch
  | .set => .adjust (.refuseSets count)
  | .get => .adjust (.refuseGets count)

/-- Whether a touch says anew how many calls of a sort are refused. -/
def Touch.Resets (sort : CallSort) (touch : Touch) : Prop :=
  touch = .adjust .heal ∨ ∃ count, touch = .refuse count sort

/-- The next call of a sort is refused: the last touch that said how many are is a refusal of more
than there have been calls of the sort since. -/
def Refuses (sort : CallSort) (history : List Touch) : Prop :=
  ∃ before count later, history = before ++ .refuse count sort :: later ∧
    (∀ touch ∈ later, ¬ touch.Resets sort) ∧ later.countP (Touch.isCall sort) < count

/-- A channel does not respond: it was silenced and nothing was healed since. -/
def Silenced (index : Nat) (history : List Touch) : Prop :=
  ∃ before later, history = before ++ .adjust (.silence index) :: later ∧
    .adjust .heal ∉ later

/-- How many of the next calls of a sort are refused. -/
def refused (simulator : Simulator) : CallSort → Nat
  | .set => simulator.refusedSets
  | .get => simulator.refusedGets

variable {config : SimulatorConfig} {history : List Touch} {sort : CallSort}

/-- What happens later happens to what came of the earlier. -/
theorem after_append (config : SimulatorConfig) (before later : List Touch) :
    after config (before ++ later) = later.foldl touch (after config before) := List.foldl_append

/-- What one touch does to the refusals of a sort. -/
theorem refused_touch (simulator : Simulator) {one : Touch} (keeps : ¬ one.Resets sort) :
    (simulator.touch one).refused sort =
      simulator.refused sort - [one].countP (Touch.isCall sort) := by
  cases one with
  | call made =>
    cases made with
    | set index value =>
      rw [touch, set_simulator]
      cases sort <;> rfl
    | get index =>
      rw [touch, get_simulator]
      cases sort <;> rfl
  | adjust adjustment =>
    cases adjustment with
    | heal => exact absurd (.inl rfl) keeps
    | refuseSets count =>
      cases sort with
      | set => exact absurd (.inr ⟨count, rfl⟩) keeps
      | get => rfl
    | refuseGets count =>
      cases sort with
      | set => rfl
      | get => exact absurd (.inr ⟨count, rfl⟩) keeps
    | _ => cases sort <;> rfl

/-- As long as nothing is said anew, every call of a sort uses up one of its refusals. -/
theorem refused_touches (simulator : Simulator) {later : List Touch}
    (keeps : ∀ touch ∈ later, ¬ touch.Resets sort) :
    (later.foldl touch simulator).refused sort =
      simulator.refused sort - later.countP (Touch.isCall sort) := by
  induction later generalizing simulator with
  | nil => rfl
  | cons one rest ih =>
    have first := refused_touch simulator (keeps one List.mem_cons_self)
    have others := ih (simulator.touch one) fun touch inside =>
      keeps touch (List.mem_cons_of_mem _ inside)
    have calls : (one :: rest).countP (Touch.isCall sort) =
        [one].countP (Touch.isCall sort) + rest.countP (Touch.isCall sort) :=
      @List.countP_append Touch (Touch.isCall sort) [one] rest
    rw [List.foldl_cons, others, first, calls, Nat.sub_sub]

/-- A refusal says how many calls are refused. -/
theorem refused_refuse (simulator : Simulator) (count : Nat) (sort : CallSort) :
    (simulator.touch (.refuse count sort)).refused sort = count := by
  cases sort <;> rfl

/-- Behind the last of some entries of a list there is none of them, unless there is none at all. -/
theorem exists_last {α : Type} (marked : α → Prop) (entries : List α) :
    (∀ entry ∈ entries, ¬ marked entry) ∨
      ∃ before last later, entries = before ++ last :: later ∧ marked last ∧
        ∀ entry ∈ later, ¬ marked entry := by
  induction entries with
  | nil => exact .inl nofun
  | cons first rest ih =>
    rcases ih with none | ⟨before, last, later, rfl, found, behind⟩
    · by_cases here : marked first
      · exact .inr ⟨[], first, rest, rfl, here, none⟩
      · exact .inl (List.forall_mem_cons.mpr ⟨here, none⟩)
    · exact .inr ⟨first :: before, last, later, rfl, found, behind⟩

/-- An instrument has refusals pending exactly when its history says so. -/
theorem refused_pos_iff (config : SimulatorConfig) (sort : CallSort) (history : List Touch) :
    0 < (after config history).refused sort ↔ Refuses sort history := by
  constructor
  · intro pending
    rcases exists_last (Touch.Resets sort) history with
      keeps | ⟨before, _, later, rfl, rfl | ⟨count, rfl⟩, keeps⟩
    · have none := refused_touches (ofConfig config) keeps
      have fresh : (ofConfig config).refused sort = 0 := by cases sort <;> rfl
      unfold after at pending
      omega
    · have none := refused_touches ((after config before).touch (.adjust .heal)) keeps
      have healed : ((after config before).touch (.adjust .heal)).refused sort = 0 := by
        cases sort <;> rfl
      rw [after_append, List.foldl_cons] at pending
      omega
    · have left := refused_touches ((after config before).touch (.refuse count sort)) keeps
      rw [refused_refuse] at left
      rw [after_append, List.foldl_cons] at pending
      exact ⟨before, count, later, rfl, keeps, by omega⟩
  · rintro ⟨before, count, later, rfl, keeps, few⟩
    rw [after_append, List.foldl_cons, refused_touches _ keeps, refused_refuse]
    omega

/-- A channel is silenced in a history by its first touch or by the others. -/
theorem silenced_cons {index : Nat} {first : Touch} {rest : List Touch} :
    Silenced index (first :: rest) ↔
      Silenced index rest ∨ (first = .adjust (.silence index) ∧ .adjust .heal ∉ rest) := by
  constructor
  · rintro ⟨before, later, split, still⟩
    cases before with
    | nil =>
      cases split
      exact .inr ⟨rfl, still⟩
    | cons _ before =>
      cases split
      exact .inl ⟨before, later, rfl, still⟩
  · rintro (⟨before, later, rfl, still⟩ | ⟨rfl, still⟩)
    · exact ⟨first :: before, later, rfl, still⟩
    · exact ⟨[], rest, rfl, still⟩

/-- What one touch does to the channels that do not respond. -/
theorem mem_unresponsive_touch (simulator : Simulator) (index : Nat) (one : Touch) :
    index ∈ (simulator.touch one).unresponsive ↔
      one = .adjust (.silence index) ∨
        (index ∈ simulator.unresponsive ∧ one ≠ .adjust .heal) := by
  cases one with
  | call made =>
    cases made with
    | set channel value =>
      rw [touch, set_simulator]
      simp
    | get channel =>
      rw [touch, get_simulator]
      simp
  | adjust adjustment =>
    cases adjustment with
    | silence channel => simp [touch, adjust, silence, eq_comm]
    | heal => simp [touch, adjust, heal]
    | _ => simp [touch, adjust, reportMaximum, setStep, force, refuseSets, refuseGets, clearCalls]

/-- A channel does not respond behind some touches when they have silenced it, or when it did not
respond before and nothing was healed. -/
theorem mem_unresponsive_touches (simulator : Simulator) (index : Nat) (later : List Touch) :
    index ∈ (later.foldl touch simulator).unresponsive ↔
      Silenced index later ∨ (index ∈ simulator.unresponsive ∧ .adjust .heal ∉ later) := by
  induction later generalizing simulator with
  | nil => simp [Silenced]
  | cons first rest ih =>
    rw [List.foldl_cons, ih, mem_unresponsive_touch, silenced_cons, List.mem_cons, not_or,
      or_assoc]
    refine or_congr_right ?_
    constructor
    · rintro ⟨rfl | ⟨before, kept⟩, still⟩
      · exact .inl ⟨rfl, still⟩
      · exact .inr ⟨before, Ne.symm kept, still⟩
    · rintro (⟨silence, still⟩ | ⟨before, kept, still⟩)
      · exact ⟨.inl silence, still⟩
      · exact ⟨.inr ⟨before, Ne.symm kept⟩, still⟩

/-- A channel does not respond exactly when the history of its instrument says so. -/
theorem mem_unresponsive_iff (config : SimulatorConfig) (index : Nat) (history : List Touch) :
    index ∈ (after config history).unresponsive ↔ Silenced index history := by
  unfold after
  rw [mem_unresponsive_touches]
  have fresh : index ∉ (ofConfig config).unresponsive := List.not_mem_nil
  exact or_iff_left fun ⟨silent, _⟩ => fresh silent

/-- What one touch does to the stored levels: an accepted command stores its level, and a level can
be put into a channel from outside. -/
inductive Stores (simulator : Simulator) : Touch → List Level → Prop where
  /-- Nothing changes. -/
  | kept {one : Touch} : Stores simulator one simulator.values
  /-- A command is accepted. -/
  | accepted {index : Nat} {value : Level} (inside : index < simulator.values.length)
      (answered : (simulator.set index value).answer = .ok ()) :
      Stores simulator (.call (.set index value))
        (simulator.values.set index (quantize simulator.step value))
  /-- A level is put into a channel from outside. -/
  | forced {index : Nat} {value : Level} (inside : index < simulator.values.length) :
      Stores simulator (.adjust (.force index value)) (simulator.values.set index value)

/-- Every touch does one of these. -/
theorem stores_touch (simulator : Simulator) (one : Touch) :
    simulator.Stores one (simulator.touch one).values := by
  cases one with
  | call made =>
    cases made with
    | set index value =>
      cases answered : (simulator.set index value).answer with
      | ok =>
        rw [touch, set_values_of_ok _ _ _ answered]
        exact .accepted (set_ok _ _ _ answered).2 answered
      | error fault =>
        rw [touch, set_simulator, answered]
        exact .kept
    | get index =>
      rw [touch, get_simulator]
      exact .kept
  | adjust adjustment =>
    cases adjustment with
    | force index value =>
      by_cases inside : index < simulator.values.length
      · exact .forced inside
      · have same : (simulator.force index value).values = simulator.values :=
          List.set_eq_of_length_le (Nat.le_of_not_lt inside)
        change simulator.Stores _ (simulator.force index value).values
        rw [same]
        exact .kept
    | _ => exact .kept

/-- A touch leaves the number of channels alone. -/
theorem length_touch (simulator : Simulator) (one : Touch) :
    (simulator.touch one).values.length = simulator.values.length := by
  have stores := simulator.stores_touch one
  generalize (simulator.touch one).values = values at stores
  cases stores with
  | kept => rfl
  | accepted => exact List.length_set
  | forced => exact List.length_set

/-- Any touches leave the number of channels alone. -/
theorem length_touches (simulator : Simulator) (later : List Touch) :
    (later.foldl touch simulator).values.length = simulator.values.length := by
  induction later generalizing simulator with
  | nil => rfl
  | cons one rest ih => rw [List.foldl_cons, ih, length_touch]

/-- An instrument has as many channels as it was made with. -/
theorem length_values (config : SimulatorConfig) (history : List Touch) :
    (after config history).values.length = config.channelCount := by
  unfold after
  rw [length_touches]
  exact List.length_replicate

/-- A call is logged, and a change from outside is not. -/
theorem calls_touch (simulator : Simulator) {one : Touch} (kept : one ≠ .adjust .clearCalls) :
    (simulator.touch one).calls = simulator.calls ++ one.call?.toList := by
  cases one with
  | call made =>
    cases made with
    | set index value => rw [touch, set_simulator]; rfl
    | get index => rw [touch, get_simulator]; rfl
  | adjust adjustment =>
    cases adjustment with
    | clearCalls => exact absurd rfl kept
    | _ => exact (List.append_nil _).symm

/-- Calls are logged in their order, and only clearing the log takes them back. -/
theorem calls_touches (simulator : Simulator) {later : List Touch}
    (kept : .adjust .clearCalls ∉ later) :
    (later.foldl touch simulator).calls = simulator.calls ++ later.filterMap Touch.call? := by
  induction later generalizing simulator with
  | nil => exact (List.append_nil _).symm
  | cons one rest ih =>
    rw [List.mem_cons, not_or] at kept
    rw [List.foldl_cons, ih _ kept.2, calls_touch simulator (Ne.symm kept.1), List.append_assoc]
    cases called : one.call? <;> simp [called]

end Simulator

/-- The channel of a call. -/
def Call.index : Call → Nat
  | .set index _ => index
  | .get index => index

/-- How a call is refused. -/
def Call.refusal : Call → SessionFault
  | .set index value =>
    .unexpectedResponse s!"SET {index} {Level.text value}" Simulator.garbledResponse
  | .get index => .unexpectedResponse s!"GET {index}" ""

namespace Simulator

variable {config : SimulatorConfig} {history : List Touch} {sort : CallSort}

/-- The fault with which a call is answered, if it is not done. -/
def fault? (simulator : Simulator) : Call → Option SessionFault
  | .set index value =>
    match (simulator.set index value).answer with
    | .ok () => none
    | .error fault => some fault
  | .get index =>
    match (simulator.get index).answer with
    | .ok _ => none
    | .error fault => some fault

/-- A call fails by the first check that it does not pass. -/
theorem fault_eq (simulator : Simulator) (made : Call) :
    simulator.fault? made =
      if 0 < simulator.refused made.sort then some made.refusal
      else if made.index ∈ simulator.unresponsive then some (.unresponsive made.index)
      else if made.index < simulator.values.length then none
      else some (.noChannel made.index) := by
  cases made with
  | set index value =>
    simp only [fault?, set, log, refused, Call.sort, Call.index, Call.refusal,
      List.contains_iff_mem]
    by_cases pending : 0 < simulator.refusedSets
    · simp only [pending, ↓reduceIte]
    by_cases silent : index ∈ simulator.unresponsive
    · simp only [pending, silent, ↓reduceIte]
    by_cases inside : index < simulator.values.length
    · simp only [pending, silent, inside, ↓reduceIte]
    · simp only [pending, silent, inside, ↓reduceIte]
  | get index =>
    simp only [fault?, get, log, refused, Call.sort, Call.index, Call.refusal,
      List.contains_iff_mem]
    by_cases pending : 0 < simulator.refusedGets
    · simp only [pending, ↓reduceIte]
    by_cases silent : index ∈ simulator.unresponsive
    · simp only [pending, silent, ↓reduceIte]
    by_cases inside : index < simulator.values.length
    · simp only [pending, silent, inside, ↓reduceIte, List.getElem?_eq_getElem]
    · simp only [pending, silent, inside, ↓reduceIte,
        List.getElem?_eq_none (Nat.le_of_not_lt inside)]

/-- A read that is done gives the stored level. -/
theorem get_ok {simulator : Simulator} {index : Nat} {value : Level}
    (answered : (simulator.get index).answer = .ok value) :
    simulator.values[index]? = some value := by
  unfold get at answered
  simp only [log] at answered
  by_cases pending : 0 < simulator.refusedGets
  · simp [pending] at answered
  by_cases silent : simulator.unresponsive.contains index
  · simp only [pending, silent, ↓reduceIte] at answered
    cases answered
  cases stored : simulator.values[index]? with
  | none => simp only [pending, silent, stored, ↓reduceIte] at answered; cases answered
  | some held => simp only [pending, silent, stored, ↓reduceIte] at answered; cases answered; rfl

/-- Everything that the history of an instrument says about it. -/
structure Lawful (config : SimulatorConfig) (history : List Touch) : Prop where
  /-- A call is refused while refusals of its sort are pending. -/
  refuses : ∀ made : Call, (after config history).fault? made = some made.refusal ↔
    Refuses made.sort history
  /-- Otherwise it fails on a channel that was silenced and not healed. -/
  silenced : ∀ made : Call,
    (after config history).fault? made = some (.unresponsive made.index) ↔
      ¬ Refuses made.sort history ∧ Silenced made.index history
  /-- Otherwise it fails on a channel that the instrument does not have. -/
  missing : ∀ made : Call, (after config history).fault? made = some (.noChannel made.index) ↔
    ¬ Refuses made.sort history ∧ ¬ Silenced made.index history ∧
      config.channelCount ≤ made.index
  /-- Otherwise it is done. -/
  done : ∀ made : Call, (after config history).fault? made = none ↔
    ¬ Refuses made.sort history ∧ ¬ Silenced made.index history ∧
      made.index < config.channelCount
  /-- A read that is done gives the stored level. -/
  reads : ∀ index value, ((after config history).get index).answer = .ok value →
    (after config history).values[index]? = some value
  /-- Every call is logged behind the ones before it, whether it is done or not, until the log is
  cleared. -/
  logs : ∀ before later, history = before ++ later → .adjust .clearCalls ∉ later →
    (after config history).calls = (after config before).calls ++ later.filterMap Touch.call?
  /-- There are as many stored levels as channels. -/
  channels : (after config history).values.length = config.channelCount
  /-- A stored level changes by an accepted command to its channel, or when it is put there from
  outside. -/
  stores : ∀ one : Touch,
    (after config history).Stores one ((after config history).touch one).values
  /-- A call uses up no refusal of the other sort. -/
  counters : ∀ (made : Call) (sort : CallSort), made.sort ≠ sort →
    ((after config history).touch (.call made)).refused sort =
      (after config history).refused sort

/-- A refusal is neither of the other faults. -/
theorem refusal_ne (made : Call) (index : Nat) :
    made.refusal ≠ .unresponsive index ∧ made.refusal ≠ .noChannel index := by
  cases made <;> exact ⟨nofun, nofun⟩

/-- How the next call fares by the history of its instrument. -/
theorem fault_after (config : SimulatorConfig) (history : List Touch) (made : Call) :
    (Refuses made.sort history ∧ (after config history).fault? made = some made.refusal) ∨
      (¬ Refuses made.sort history ∧ Silenced made.index history ∧
        (after config history).fault? made = some (.unresponsive made.index)) ∨
      (¬ Refuses made.sort history ∧ ¬ Silenced made.index history ∧
        config.channelCount ≤ made.index ∧
        (after config history).fault? made = some (.noChannel made.index)) ∨
      (¬ Refuses made.sort history ∧ ¬ Silenced made.index history ∧
        made.index < config.channelCount ∧ (after config history).fault? made = none) := by
  rw [fault_eq, length_values, ← refused_pos_iff config, ← mem_unresponsive_iff config]
  by_cases pending : 0 < (after config history).refused made.sort
  · exact .inl ⟨pending, if_pos pending⟩
  rw [if_neg pending]
  by_cases silent : made.index ∈ (after config history).unresponsive
  · exact .inr (.inl ⟨pending, silent, if_pos silent⟩)
  rw [if_neg silent]
  by_cases inside : made.index < config.channelCount
  · exact .inr (.inr (.inr ⟨pending, silent, inside, if_pos inside⟩))
  · exact .inr (.inr (.inl ⟨pending, silent, Nat.le_of_not_lt inside, if_neg inside⟩))

/-- Each way in which the next call can fare, by the history of its instrument. -/
theorem fault_iff (config : SimulatorConfig) (history : List Touch) (made : Call) :
    ((after config history).fault? made = some made.refusal ↔ Refuses made.sort history) ∧
      ((after config history).fault? made = some (.unresponsive made.index) ↔
        ¬ Refuses made.sort history ∧ Silenced made.index history) ∧
      ((after config history).fault? made = some (.noChannel made.index) ↔
        ¬ Refuses made.sort history ∧ ¬ Silenced made.index history ∧
          config.channelCount ≤ made.index) ∧
      ((after config history).fault? made = none ↔
        ¬ Refuses made.sort history ∧ ¬ Silenced made.index history ∧
          made.index < config.channelCount) := by
  obtain ⟨other, absent⟩ := refusal_ne made made.index
  rcases fault_after config history made with
    ⟨_, same⟩ | ⟨_, _, same⟩ | ⟨_, _, _, same⟩ | ⟨_, _, _, same⟩ <;>
    simp_all [Ne.symm]

/-- The history of an instrument says all of this. -/
theorem lawful (config : SimulatorConfig) (history : List Touch) : Lawful config history where
  refuses made := (fault_iff config history made).1
  silenced made := (fault_iff config history made).2.1
  missing made := (fault_iff config history made).2.2.1
  done made := (fault_iff config history made).2.2.2
  reads _ _ := get_ok
  logs before later split kept := by
    rw [split, after_append]
    exact calls_touches _ kept
  channels := length_values config history
  stores := stores_touch _
  counters made sort apart := by
    have own : [Touch.call made].countP (Touch.isCall sort) = 0 := by
      simp [Touch.isCall, apart]
    have keeps : ¬ (Touch.call made).Resets sort := by
      rintro (healed | ⟨count, refused⟩)
      · cases healed
      · cases sort <;> cases refused
    rw [refused_touch _ keeps, own, Nat.sub_zero]

end Simulator

/-- What a deed is to an instrument. -/
def Deed.touch? (bench : Bench) (id : SimulatorId) : Deed → Option Simulator.Touch
  | .get session index =>
    if (bench.session session).simulator = id then some (.call (.get index)) else none
  | .set attenuator value =>
    if attenuator.simulatorId bench = id then some (.call (attenuator.command value)) else none
  | .setRaw session index value =>
    if (bench.session session).simulator = id then some (.call (.set index value)) else none
  | .adjust other adjustment => if other = id then some (.adjust adjustment) else none
  | _ => none

namespace Bench

/-- A bench after deeds, oldest first. -/
def afterDeeds (bench : Bench) (deeds : List Deed) : Bench :=
  deeds.foldl (fun bench deed => deed.perform bench) bench

/-- What deeds are to an instrument, oldest first. -/
def touches (bench : Bench) (id : SimulatorId) : List Deed → List Simulator.Touch
  | [] => []
  | deed :: rest => (deed.touch? bench id).toList ++ (deed.perform bench).touches id rest

/-- One instrument is touched, and every other one stays. -/
theorem foldl_touch_if (bench : Bench) (other id : SimulatorId) (one : Simulator.Touch) :
    (if other = id then some one else none).toList.foldl Simulator.touch (bench.simulator id) =
      if id = other then (bench.simulator other).touch one else bench.simulator id := by
  by_cases own : id = other
  · rw [if_pos own, if_pos own.symm, own]
    rfl
  · rw [if_neg own, if_neg (Ne.symm own)]
    rfl

/-- A deed does to an instrument what it is to it. -/
theorem simulator_perform {bench : Bench} {id : SimulatorId} (inside : id < bench.nextSimulator)
    (deed : Deed) :
    (deed.perform bench).simulator id =
      (deed.touch? bench id).toList.foldl Simulator.touch (bench.simulator id) := by
  cases deed with
  | get session index =>
    exact (simulator_putSimulator bench _ id _).trans
      (foldl_touch_if bench _ id (.call (.get index))).symm
  | setRaw session index value =>
    exact (simulator_putSimulator bench _ id _).trans
      (foldl_touch_if bench _ id (.call (.set index value))).symm
  | set attenuator value =>
    exact (Attenuator.simulator_driven attenuator value bench id).trans
      (foldl_touch_if bench _ id (.call (attenuator.command value))).symm
  | adjust other adjustment =>
    exact (simulator_putSimulator bench other id _).trans
      (foldl_touch_if bench other id (.adjust adjustment)).symm
  | addSimulator config =>
    exact (Slots.get_put bench.simulators _ id _).trans (if_neg (Nat.ne_of_lt inside))
  | record events => rfl
  | crash session => rfl
  | openSession other trap => rfl
  | probe other => rfl

/-- No deed takes an instrument from a bench. -/
theorem nextSimulator_perform (bench : Bench) (deed : Deed) :
    bench.nextSimulator ≤ (deed.perform bench).nextSimulator := by
  cases deed with
  | addSimulator config => exact Nat.le_succ _
  | _ => exact Nat.le_refl _

/-- Deeds do to an instrument what they are to it. -/
theorem simulator_afterDeeds {bench : Bench} {id : SimulatorId} (inside : id < bench.nextSimulator)
    (deeds : List Deed) :
    (bench.afterDeeds deeds).simulator id =
      (bench.touches id deeds).foldl Simulator.touch (bench.simulator id) := by
  induction deeds generalizing bench with
  | nil => rfl
  | cons deed rest ih =>
    have later := ih (Nat.lt_of_lt_of_le inside (bench.nextSimulator_perform deed))
    rw [simulator_perform inside] at later
    unfold touches
    rw [List.foldl_append]
    exact later

end Bench

/-- **Histories of simulated instruments.** Whatever happened to an instrument, its history says how
the next call of either sort fares: it is refused while fewer calls of the sort have come than the
last refusal said, unless everything was healed in between; otherwise it fails on a channel that was
silenced since the last healing; otherwise on a channel that is not there; and otherwise it is done.
Calls are logged one by one and in order, the stored levels are as many as the channels and change
by accepted commands and from outside only, and neither sort of calls uses up refusals of the other.
Put on any bench, the instrument is at every moment where the calls through all of its sessions and
the changes from outside have left it, in the order in which they were made, and every session that
can be held passes its answer on. -/
theorem Simulator.follows_history (config : SimulatorConfig) :
    (∀ history, Lawful config history) ∧
      ∀ (start : Bench) (deeds : List Deed),
        let id := start.nextSimulator
        let bench := (start.addSimulator config).2.afterDeeds deeds
        let history := (start.addSimulator config).2.touches id deeds
        bench.simulator id = after config history ∧
          ∀ session index value, (bench.session session).simulator = id →
            (bench.session session).poisoned = false →
            ((bench.session session).trap.onSet ≠ some index →
              ((Session.setRaw session index value).run bench).1 =
                .ofExcept ((after config history).set index value).answer) ∧
            ((bench.session session).trap.onGet ≠ some index →
              ((Session.getRaw session index).run bench).1 =
                .ofExcept ((after config history).get index).answer) := by
  refine ⟨lawful config, fun start deeds => ?_⟩
  have inside : start.nextSimulator < (start.addSimulator config).2.nextSimulator :=
    Nat.lt_succ_self _
  have here := Bench.simulator_afterDeeds inside deeds
  have fresh : (start.addSimulator config).2.simulator start.nextSimulator = ofConfig config :=
    (Slots.get_put start.simulators _ _ _).trans (if_pos rfl)
  rw [fresh] at here
  refine ⟨here, fun session index value reaches free => ⟨fun safe => ?_, fun safe => ?_⟩⟩
  · rw [Session.run_setRaw, Session.run_command, Session.run_exchange, free,
      if_neg Bool.false_ne_true, if_neg safe, reaches, here]
    rfl
  · rw [Session.run_getRaw, Session.run_read, Session.run_exchange, free,
      if_neg Bool.false_ne_true, if_neg safe, reaches, here]
    rfl

end Attenuation
