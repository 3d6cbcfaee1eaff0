import Attenuation.Proofs.Assembly
import Attenuation.Proofs.Crash
import Attenuation.Proofs.Endings
import Attenuation.Proofs.SimulatorHistory

/-!
# What a fault leaves intact

A call that is refused leaves a trace in the log of its instrument and may use up a refusal, and
that is all. `Bench.Intact` says so of a whole bench: which instruments may have been called, and
which channels may hold another level. An operation of the library that fails leaves every channel
alone; a group command that stops at a member leaves alone every channel that no member in front of
it addresses.
-/

namespace Attenuation

/-- An instrument is what it was, but for the levels of some channels, the calls that it logged, and
the refusals that these calls used up. -/
structure Simulator.Intact (changed : Nat → Prop) (before after : Simulator) : Prop where
  /-- The model name is the same. -/
  model : after.model = before.model
  /-- The number of channels is the same. -/
  channelCount : after.channelCount = before.channelCount
  /-- The maximum is the same. -/
  maximum : after.maximum = before.maximum
  /-- The step is the same. -/
  step : after.step = before.step
  /-- The same channels do not respond. -/
  unresponsive : after.unresponsive = before.unresponsive
  /-- As many levels are stored. -/
  channels : after.values.length = before.values.length
  /-- The other channels hold what they held. -/
  values : ∀ index, ¬ changed index → after.values[index]? = before.values[index]?
  /-- Calls were added to the log, and each of them used up a refusal of its sort if there was
  one. -/
  received : ∃ made, after.calls = before.calls ++ made ∧
    ∀ sort, after.refused sort =
      before.refused sort - made.countP fun call => call.sort = sort

namespace Simulator.Intact

variable {changed : Nat → Prop} {before middle after simulator : Simulator}

/-- An instrument that was not called is intact. -/
theorem refl (simulator : Simulator) : simulator.Intact changed simulator :=
  ⟨rfl, rfl, rfl, rfl, rfl, rfl, fun _ _ => rfl, [], (List.append_nil _).symm, fun _ => rfl⟩

/-- An instrument that is intact twice is intact. -/
theorem trans (early : before.Intact changed middle) (late : middle.Intact changed after) :
    before.Intact changed after where
  model := late.model.trans early.model
  channelCount := late.channelCount.trans early.channelCount
  maximum := late.maximum.trans early.maximum
  step := late.step.trans early.step
  unresponsive := late.unresponsive.trans early.unresponsive
  channels := late.channels.trans early.channels
  values index kept := (late.values index kept).trans (early.values index kept)
  received := by
    obtain ⟨first, logged, used⟩ := early.received
    obtain ⟨second, loggedLater, usedLater⟩ := late.received
    refine ⟨first ++ second, by rw [loggedLater, logged, List.append_assoc], fun sort => ?_⟩
    rw [usedLater, used, List.countP_append, Nat.sub_sub]

/-- More channels may hold another level. -/
theorem mono {wide : Nat → Prop} (wider : ∀ index, changed index → wide index)
    (intact : before.Intact changed after) : before.Intact wide after :=
  { intact with
    values := fun index kept => intact.values index fun inside => kept (wider index inside) }

/-- A read leaves its instrument intact. -/
theorem get (simulator : Simulator) (index : Nat) :
    simulator.Intact changed (simulator.get index).simulator := by
  rw [get_simulator]
  refine ⟨rfl, rfl, rfl, rfl, rfl, rfl, fun _ _ => rfl, [.get index], rfl, fun sort => ?_⟩
  cases sort <;> rfl

/-- A command leaves its instrument intact, but for the channel that it names. -/
theorem set (simulator : Simulator) {index : Nat} (own : changed index) (value : Level) :
    simulator.Intact changed (simulator.set index value).simulator := by
  rw [set_simulator]
  refine ⟨rfl, rfl, rfl, rfl, rfl, ?_, fun other kept => ?_, [.set index value], rfl,
    fun sort => ?_⟩
  · unfold storedAfter
    split
    · exact List.length_set
    · rfl
  · have apart : index ≠ other := fun same => kept (same ▸ own)
    unfold storedAfter
    split
    · exact List.getElem?_set_ne apart
    · rfl
  · cases sort <;> rfl

/-- A command that is refused leaves every channel of its instrument alone. -/
theorem set_refused {index : Nat} {value : Level} {fault : SessionFault}
    (refused : (simulator.set index value).answer = .error fault) :
    simulator.Intact changed (simulator.set index value).simulator := by
  rw [set_simulator, refused]
  refine ⟨rfl, rfl, rfl, rfl, rfl, rfl, fun _ _ => rfl, [.set index value], rfl, fun sort => ?_⟩
  cases sort <;> rfl

end Simulator.Intact

/-- Everything that was on a bench is what it was, but for the instruments that were called, and of
these for the levels of some channels, their logs and their pending refusals. -/
structure Bench.Intact (called : SimulatorId → Prop) (changed : SimulatorId → Nat → Prop)
    (before after : Bench) : Prop where
  /-- No instrument is taken away. -/
  simulators : before.nextSimulator ≤ after.nextSimulator
  /-- No session is taken away. -/
  sessions : before.nextSession ≤ after.nextSession
  /-- Every session is what it was. -/
  session : ∀ session < before.nextSession, after.session session = before.session session
  /-- An instrument that was not called is what it was. -/
  apart : ∀ id < before.nextSimulator, ¬ called id → after.simulator id = before.simulator id
  /-- An instrument that was called is intact. -/
  kept : ∀ id < before.nextSimulator,
    (before.simulator id).Intact (changed id) (after.simulator id)

namespace Bench.Intact

variable {called : SimulatorId → Prop} {changed : SimulatorId → Nat → Prop}
  {before middle after bench : Bench}

/-- A bench on which nothing is done is intact. -/
theorem refl (bench : Bench) : bench.Intact called changed bench :=
  ⟨Nat.le_refl _, Nat.le_refl _, fun _ _ => rfl, fun _ _ _ => rfl, fun _ _ => .refl _⟩

/-- A bench that is intact twice is intact. -/
theorem trans (early : before.Intact called changed middle)
    (late : middle.Intact called changed after) : before.Intact called changed after where
  simulators := Nat.le_trans early.simulators late.simulators
  sessions := Nat.le_trans early.sessions late.sessions
  session id inside :=
    (late.session id (Nat.lt_of_lt_of_le inside early.sessions)).trans (early.session id inside)
  apart id inside other :=
    (late.apart id (Nat.lt_of_lt_of_le inside early.simulators) other).trans
      (early.apart id inside other)
  kept id inside :=
    (early.kept id inside).trans (late.kept id (Nat.lt_of_lt_of_le inside early.simulators))

instance : IsPreorder Bench (Bench.Intact called changed) where
  refl := refl
  trans _ _ _ := trans

/-- What is done to instruments that were not there yet leaves everything intact that was. -/
theorem beyond {anywhere : SimulatorId → Nat → Prop} (early : before.Intact called changed middle)
    (late : middle.Intact (before.nextSimulator ≤ ·) anywhere after) :
    before.Intact called changed after := by
  have still (id : SimulatorId) (inside : id < before.nextSimulator) :
      after.simulator id = middle.simulator id :=
    late.apart id (Nat.lt_of_lt_of_le inside early.simulators) (Nat.not_le_of_lt inside)
  refine ⟨Nat.le_trans early.simulators late.simulators,
    Nat.le_trans early.sessions late.sessions, fun id inside => ?_, fun id inside other => ?_,
    fun id inside => ?_⟩
  · rw [late.session id (Nat.lt_of_lt_of_le inside early.sessions), early.session id inside]
  · rw [still id inside, early.apart id inside other]
  · rw [still id inside]
    exact early.kept id inside

/-- More instruments may have been called, and more channels may hold another level. -/
theorem mono {wideCalled : SimulatorId → Prop} {wideChanged : SimulatorId → Nat → Prop}
    (widerCalled : ∀ id, called id → wideCalled id)
    (widerChanged : ∀ id index, changed id index → wideChanged id index)
    (intact : before.Intact called changed after) :
    before.Intact wideCalled wideChanged after :=
  { intact with
    apart := fun id inside other => intact.apart id inside fun call => other (widerCalled id call)
    kept := fun id inside => (intact.kept id inside).mono (widerChanged id) }

/-- Recorded events leave a bench intact. -/
theorem record (bench : Bench) (events : List Event) :
    bench.Intact called changed (bench.record events) :=
  ⟨Nat.le_refl _, Nat.le_refl _, fun _ _ => rfl, fun _ _ _ => rfl, fun _ _ => .refl _⟩

/-- An answer of an instrument that is called leaves a bench as intact as the instrument. -/
theorem answered {id : SimulatorId} {simulator : Simulator} (call : called id)
    (kept : (bench.simulator id).Intact (changed id) simulator) (events : List Event) :
    bench.Intact called changed ((bench.putSimulator id simulator).record events) where
  simulators := Nat.le_refl _
  sessions := Nat.le_refl _
  session _ _ := rfl
  apart other _ uncalled := by
    have different : other ≠ id := fun same => uncalled (same ▸ call)
    rw [simulator_record, simulator_putSimulator, if_neg different]
  kept other _ := by
    rw [simulator_record, simulator_putSimulator]
    by_cases own : other = id
    · rw [if_pos own, own]
      exact kept
    · rw [if_neg own]
      exact .refl _

/-- A connected driver leaves everything intact that was on the bench before. -/
theorem connect (bench : Bench) (driver : Driver) :
    bench.Intact called changed (bench.connect driver).2 where
  simulators := by
    rw [nextSimulator_connect]
    exact Nat.le_succ _
  sessions := by
    rw [nextSession_connect]
    exact Nat.le_succ _
  session id inside := by rw [session_connect, if_neg (Nat.ne_of_lt inside)]
  apart id inside _ := by rw [simulator_connect, if_neg (Nat.ne_of_lt inside)]
  kept id inside := by
    rw [simulator_connect, if_neg (Nat.ne_of_lt inside)]
    exact .refl _

end Bench.Intact

namespace Session

variable {called : SimulatorId → Prop} {changed : SimulatorId → Nat → Prop} {bench : Bench}

/-- A call that reaches an instrument leaves the bench as its answer leaves the instrument. -/
theorem exchange_ends {α : Type} {id : SimulatorId} {call : Simulator → Simulator.Response α}
    {stored : SimulatorId → Nat → Prop} (own : called id)
    (accepted : (bench.simulator id).Intact (stored id) (call (bench.simulator id)).simulator)
    (refused : ∀ fault, (call (bench.simulator id)).answer = .error fault →
      (bench.simulator id).Intact (changed id) (call (bench.simulator id)).simulator) :
    (exchange id call).Ends bench (fun _ => bench.Intact called stored)
      fun _ => bench.Intact called changed := by
  have ran := run_exchange id call bench
  cases answer : (call (bench.simulator id)).answer with
  | ok value =>
    rw [answer] at ran
    exact .of_done ran (.answered own accepted _)
  | error fault =>
    rw [answer] at ran
    exact .of_failed ran (.answered own (refused fault answer) _)

/-- What is done while a session is held leaves nothing when the session is poisoned. -/
theorem hold_bind_ends {α : Type} {id : SessionId} {next : Session → Action SessionFault α}
    {whenDone : α → Bench → Prop}
    (rest : (next (bench.session id)).Ends bench whenDone fun _ => bench.Intact called changed) :
    (hold id >>= next).Ends bench whenDone fun _ => bench.Intact called changed := by
  have ran := run_hold_bind id next bench
  by_cases poisoned : (bench.session id).poisoned
  · rw [if_pos poisoned] at ran
    exact .of_failed ran (.refl bench)
  · rw [if_neg poisoned] at ran
    exact ⟨fun value after done => rest.done value after (ran.symm.trans done),
      fun fault after failed => rest.failed fault after (ran.symm.trans failed)⟩

/-- A read through a session that is held leaves the bench intact. -/
theorem read_leaves {id : SessionId} {session : Session} (own : called session.simulator)
    (index : Nat) : (read id session index).Leaves (Bench.Intact called changed) bench := by
  unfold read
  by_cases trapped : session.trap.onGet = some index
  · rw [if_pos trapped]
    exact .of_crashed (run_crash id bench)
  · rw [if_neg trapped]
    exact exchange_ends own (.get _ index) fun _ _ => .get _ index

/-- A command through a session that is held leaves every channel alone when it fails, and every
other one when it is done. -/
theorem command_ends {id : SessionId} {session : Session} {stored : SimulatorId → Nat → Prop}
    (own : called session.simulator) {index : Nat} (addressed : stored session.simulator index)
    (value : Level) :
    (command id session index value).Ends bench (fun _ => bench.Intact called stored)
      fun _ => bench.Intact called changed := by
  unfold command
  by_cases trapped : session.trap.onSet = some index
  · rw [if_pos trapped]
    exact .of_crashed (run_crash id bench)
  · rw [if_neg trapped]
    exact exchange_ends own (.set _ addressed value) fun _ => .set_refused

/-- A raw read leaves the bench intact. -/
theorem getRaw_leaves {id : SessionId} (own : called (bench.session id).simulator) (index : Nat) :
    (getRaw id index).Leaves (Bench.Intact called changed) bench :=
  hold_bind_ends (read_leaves own index)

/-- A raw command leaves every channel alone when it fails. -/
theorem setRaw_ends {id : SessionId} {stored : SimulatorId → Nat → Prop}
    (own : called (bench.session id).simulator) {index : Nat}
    (addressed : stored (bench.session id).simulator index) (value : Level) :
    (setRaw id index value).Ends bench (fun _ => bench.Intact called stored)
      fun _ => bench.Intact called changed :=
  hold_bind_ends (command_ends own addressed value)

/-- Asking for the properties of an instrument leaves the bench intact. -/
theorem info_leaves (id : SessionId) :
    (info id).Leaves (Bench.Intact called changed) bench :=
  hold_bind_ends (.of_done rfl (.refl bench))

end Session

namespace Attenuator

variable {called : SimulatorId → Prop} {changed : SimulatorId → Nat → Prop} {bench : Bench}

/-- Creating an attenuator leaves the bench intact. -/
theorem create_leaves (session : SessionId) (index : Nat) (offset : Level) :
    (create session index offset).Leaves (Bench.Intact called changed) bench := by
  refine Action.Leaves.bind (.ofExcept _) fun _ here _ => ?_
  refine Action.Leaves.bind (Action.Leaves.mapFault (Session.info_leaves session))
    fun info between _ => ?_
  by_cases missing : info.channelCount ≤ index
  · rw [if_pos missing]
    exact .fail _
  · rw [if_neg missing]
    exact .pure _

/-- Asking for the maximum of an attenuator leaves the bench intact. -/
theorem maximum_leaves (attenuator : Attenuator) :
    attenuator.maximum.Leaves (Bench.Intact called changed) bench := by
  have asked : (Session.maximum attenuator.session).Leaves (Bench.Intact called changed) bench :=
    Action.Leaves.bind (Session.info_leaves attenuator.session) fun _ _ _ => .pure _
  refine Action.Leaves.bind (Action.Leaves.bind (Action.Leaves.mapFault asked)
    fun reported between _ => ?_) fun _ _ _ => .pure _
  cases reported with
  | none => exact .fail _
  | some maximum => exact .pure maximum

/-- A read of an attenuator leaves the bench intact. -/
theorem get_leaves {attenuator : Attenuator} (own : called (attenuator.simulatorId bench)) :
    attenuator.get.Leaves (Bench.Intact called changed) bench :=
  Action.Leaves.bind (Action.Leaves.mapFault (Session.getRaw_leaves own attenuator.index))
    fun _ _ _ => .pure _

/-- A command that reaches the instrument of an attenuator leaves the bench as it leaves the
instrument. -/
theorem intact_driven {attenuator : Attenuator} {value : Level}
    (own : called (attenuator.simulatorId bench))
    (kept : (attenuator.simulator bench).Intact (changed (attenuator.simulatorId bench))
      (attenuator.response value bench).simulator) :
    bench.Intact called changed (attenuator.driven value bench) := by
  let announced := bench.record [attenuator.settingEvent value]
  have keptLater : (announced.simulator (attenuator.simulatorId bench)).Intact
      (changed (attenuator.simulatorId bench)) (attenuator.response value bench).simulator := kept
  exact (Bench.Intact.record bench _).trans (Bench.Intact.answered own keptLater _)

/-- A command to an attenuator leaves every channel alone when it fails, and every other one when it
is done. -/
theorem set_ends {attenuator : Attenuator} {stored : SimulatorId → Nat → Prop}
    (own : called (attenuator.simulatorId bench))
    (addressed : stored (attenuator.simulatorId bench) attenuator.index) (value : Level) :
    (attenuator.set value).Ends bench (fun _ => bench.Intact called stored)
      fun _ => bench.Intact called changed := by
  have ran := run_set attenuator value bench
  cases fared : attenuator.verdict value bench with
  | notFinite =>
    rw [fared] at ran
    exact .of_failed ran (.refl bench)
  | poisoned =>
    rw [fared] at ran
    exact .of_failed ran (.refl bench)
  | maximumUnknown =>
    rw [fared] at ran
    exact .of_failed ran (.refl bench)
  | limitExceeded maximum =>
    rw [fared] at ran
    exact .of_failed ran (.record bench _)
  | crashes =>
    rw [fared] at ran
    exact .of_crashed ran
  | reaches =>
    rw [fared] at ran
    cases answer : (attenuator.response value bench).answer with
    | ok =>
      rw [answer] at ran
      exact .of_done ran (intact_driven own (.set _ addressed _))
    | error fault =>
      rw [answer] at ran
      exact .of_failed ran (intact_driven own (.set_refused answer))

end Attenuator

namespace Bench

/-- Some attenuators are behind an instrument of the bench: one of them goes to it. -/
def Behind (bench : Bench) (attenuators : List Attenuator) (id : SimulatorId) : Prop :=
  ∃ attenuator ∈ attenuators, attenuator.simulatorId bench = id

/-- Some attenuators address a channel of an instrument of the bench: one of them goes to it. -/
def Addresses (bench : Bench) (attenuators : List Attenuator) (id : SimulatorId) (index : Nat) :
    Prop :=
  ∃ attenuator ∈ attenuators, attenuator.simulatorId bench = id ∧ attenuator.index = index

/-- Attenuators are behind the same instruments as long as the sessions stay. -/
theorem behind_congr {before after : Bench}
    (same : ∀ session, after.session session = before.session session)
    (attenuators : List Attenuator) : after.Behind attenuators = before.Behind attenuators := by
  funext id
  simp only [Behind, Attenuator.simulatorId, same]

/-- Attenuators address the same channels as long as the sessions stay. -/
theorem addresses_congr {before after : Bench}
    (same : ∀ session, after.session session = before.session session)
    (attenuators : List Attenuator) :
    after.Addresses attenuators = before.Addresses attenuators := by
  funext id index
  simp only [Addresses, Attenuator.simulatorId, same]

/-- What some attenuators are behind, more of them are behind. -/
theorem Behind.mono {bench : Bench} {few many : List Attenuator} (inside : few ⊆ many)
    (id : SimulatorId) (behind : bench.Behind few id) : bench.Behind many id := by
  obtain ⟨attenuator, present, own⟩ := behind
  exact ⟨attenuator, inside present, own⟩

/-- What some attenuators address, more of them address. -/
theorem Addresses.mono {bench : Bench} {few many : List Attenuator} (inside : few ⊆ many)
    (id : SimulatorId) (index : Nat) (addressed : bench.Addresses few id index) :
    bench.Addresses many id index := by
  obtain ⟨attenuator, present, own⟩ := addressed
  exact ⟨attenuator, inside present, own⟩

/-- What one attenuator leaves and then others leave is what all of them leave. -/
theorem Intact.behind_cons {before between after : Bench} {attenuator : Attenuator}
    {behind addressed : List Attenuator}
    (same : ∀ session, between.session session = before.session session)
    (first : before.Intact (before.Behind [attenuator]) (before.Addresses [attenuator]) between)
    (later : between.Intact (between.Behind behind) (between.Addresses addressed) after) :
    before.Intact (before.Behind (attenuator :: behind))
      (before.Addresses (attenuator :: addressed)) after := by
  have own (others : List Attenuator) : [attenuator] ⊆ attenuator :: others :=
    List.cons_subset_cons attenuator (List.nil_subset others)
  rw [behind_congr same, addresses_congr same] at later
  exact (first.mono (Behind.mono (own behind)) (Addresses.mono (own addressed))).trans
    (later.mono (Behind.mono (List.subset_cons_self attenuator behind))
      (Addresses.mono (List.subset_cons_self attenuator addressed)))

end Bench

namespace Group

variable {bench : Bench}

/-- Members that are commanded in order: when all of them are done, other channels are left alone,
and when the command stops at one of them, the channels that no member in front of it addresses. -/
theorem commandFrom_ends (group : Group) (value : Level) (members : List Attenuator)
    (position : Nat) :
    (group.commandFrom value position members).Ends bench
      (fun _ => bench.Intact (bench.Behind members) (bench.Addresses members))
      fun stop after => ∃ count, stop.member = position + count ∧
        bench.Intact (bench.Behind (members.take (count + 1)))
          (bench.Addresses (members.take count)) after := by
  induction members generalizing bench position with
  | nil => exact .pure (.refl bench)
  | cons attenuator rest ih =>
    have own : bench.Behind [attenuator] (attenuator.simulatorId bench) :=
      ⟨attenuator, List.mem_cons_self, rfl⟩
    have addressed : bench.Addresses [attenuator] (attenuator.simulatorId bench)
        attenuator.index := ⟨attenuator, List.mem_cons_self, rfl, rfl⟩
    have tried : ((attenuator.set value).attempt : Action GroupStop (Except Fault Unit)).Ends bench
        (fun result => match result with
          | .ok _ => bench.Intact (bench.Behind [attenuator]) (bench.Addresses [attenuator])
          | .error _ => bench.Intact (bench.Behind [attenuator]) (bench.Addresses []))
        fun stop after => ∃ count, stop.member = position + count ∧
          bench.Intact (bench.Behind ((attenuator :: rest).take (count + 1)))
            (bench.Addresses ((attenuator :: rest).take count)) after :=
      .attempt (Attenuator.set_ends own addressed value)
    refine tried.bind fun result between ran kept => ?_
    cases result with
    | ok accepted =>
      have strikes : ((attenuator.set value).attempt :
          Action GroupStop (Except Fault Unit)).Strikes (fun _ => True) bench :=
        (Attenuator.set_strikes trivial value).attempt
      have same := strikes.spared
      rw [ran] at same
      have sessions := same nofun
      refine Action.Ends.weaken (ih (position + 1))
        (fun _ after later => .behind_cons sessions kept later) fun stop after stopped => ?_
      obtain ⟨count, reported, later⟩ := stopped
      refine ⟨count + 1, by omega, ?_⟩
      exact .behind_cons sessions kept later
    | error source =>
      refine Action.Ends.bind (.emit ?_) fun _ _ _ stopped => .fail stopped
      exact ⟨0, rfl, kept.trans (.record _ _)⟩

/-- A group command that is done leaves alone every channel that no member addresses, and one that
stops at a member every channel that no member in front of it addresses. -/
theorem set_ends (group : Group) (value : Level) :
    (group.set value).Ends bench
      (fun _ => bench.Intact (bench.Behind group.members) (bench.Addresses group.members))
      fun stop => bench.Intact (bench.Behind (group.members.take (stop.member + 1)))
        (bench.Addresses (group.members.take stop.member)) := by
  unfold set
  by_cases finite : value.isFinite
  case neg =>
    rw [if_neg finite]
    exact .fail (.refl bench)
  rw [if_pos finite]
  refine Action.Ends.bind (Action.Ends.weaken (group.commandFrom_ends value group.members 0)
    (fun _ _ kept => kept) fun stop after stopped => ?_) fun _ between _ kept => ?_
  · obtain ⟨count, reported, left⟩ := stopped
    rw [reported, Nat.zero_add]
    exact left
  · have later : bench.Intact (bench.Behind group.members) (bench.Addresses group.members)
        (between.record [.groupSet group.name group.size value]) := kept.trans (.record between _)
    exact Action.Ends.bind (.emit later) fun _ _ _ remembered => .pure remembered

/-- Reading members in order leaves the bench intact. -/
theorem allRead_leaves {called : SimulatorId → Prop} {changed : SimulatorId → Nat → Prop}
    (value : Level) {members : List Attenuator}
    (own : ∀ member ∈ members, called (member.simulatorId bench)) :
    (allRead value members).Leaves (Bench.Intact called changed) bench := by
  induction members generalizing bench with
  | nil => exact .pure true
  | cons attenuator rest ih =>
    have first : attenuator.get.Leaves (Bench.Intact called changed) bench :=
      Attenuator.get_leaves (own attenuator List.mem_cons_self)
    refine Action.Ends.bind first fun read between ran kept => ?_
    have strikes : attenuator.get.Strikes (fun _ => True) bench := Attenuator.get_strikes trivial
    have same := strikes.spared
    rw [ran] at same
    have sessions := same nofun
    by_cases equal : read == value
    · rw [if_pos equal]
      refine Action.Ends.weaken (ih fun member inside => ?_) (fun _ _ => kept.trans)
        fun _ _ => kept.trans
      have known := own member (List.mem_cons_of_mem attenuator inside)
      simpa only [Attenuator.simulatorId, sessions] using known
    · rw [if_neg equal]
      exact Action.Ends.pure kept

/-- Appending channels of an instrument leaves the bench intact. -/
theorem addFrom_leaves {called : SimulatorId → Prop} {changed : SimulatorId → Nat → Prop}
    (group : Group) (session : SessionId) (selection : Selection) :
    (group.addFrom session selection).Leaves (Bench.Intact called changed) bench :=
  Action.Leaves.bind (.mapM selection.indices fun index _ =>
    Attenuator.create_leaves session index 0.0) fun created between _ =>
      .of_done (run_extend group created between) (.record between _)

end Group

namespace Rack

variable {called : SimulatorId → Prop} {changed : SimulatorId → Nat → Prop} {bench : Bench}

/-- A snapshot leaves the bench intact. -/
theorem status_leaves (rack : Rack) :
    rack.status.Leaves (Bench.Intact called changed) bench :=
  Action.Leaves.bind (.mapM rack.instruments fun instrument _ =>
    Action.Leaves.mapFault (Session.info_leaves instrument.session)) fun _ _ _ => .pure _

/-- Connecting the driver of a descriptor leaves the bench intact. -/
theorem connect_leaves (catalog : Catalog) (config : InstrumentConfig) :
    (catalog.connect config).Leaves (Bench.Intact called changed) bench :=
  Action.Leaves.bind (.ofExcept _) fun driver between _ =>
    .of_done (Action.run_modifyGet _ between) (.connect between driver)

/-- Building an instrument leaves the bench intact. -/
theorem buildInstrument_leaves (catalog : Catalog) (config : InstrumentConfig) :
    (buildInstrument catalog config).Leaves (Bench.Intact called changed) bench := by
  refine Action.Leaves.bind (connect_leaves catalog config) fun session opened _ => ?_
  have counted : (Session.channelCount session).Leaves (Bench.Intact called changed) opened :=
    Action.Leaves.bind (Session.info_leaves session) fun _ _ _ => .pure _
  refine Action.Leaves.bind (Action.Leaves.mapFault counted) fun reported between _ => ?_
  by_cases matching : reported = config.channelCount.toNat
  case neg =>
    rw [if_neg matching]
    exact .fail _
  rw [if_pos matching]
  have created (index : Nat) (here : Bench) :
      (buildAttenuator config session index).Leaves (Bench.Intact called changed) here := by
    refine Action.Leaves.bind (Action.Leaves.mapFault (Attenuator.create_leaves session index _))
      fun attenuator _ _ => ?_
    cases config.path index with
    | none => exact .pure _
    | some path => exact .pure _
  exact Action.Leaves.bind (.mapM _ created) fun _ here _ =>
    Action.Leaves.bind (Action.Ends.emit (.record here _)) fun _ _ _ => .pure _

/-- Building a group leaves the bench intact. -/
theorem buildGroup_leaves (instruments : List RackInstrument) (config : GroupConfig) :
    (buildGroup instruments config).Leaves (Bench.Intact called changed) bench := by
  have added (group : Group) (reference : MemberRef) (here : Bench) :
      (addMember instruments group reference).Leaves (Bench.Intact called changed) here := by
    unfold addMember
    cases channelOf? instruments reference.instrument.toNat reference.index.toNat with
    | none => exact .fail _
    | some attenuator => exact Action.Ends.of_done rfl (.record here _)
  exact Action.Leaves.bind (.foldlM _ added _) fun group here _ =>
    Action.Leaves.bind (Action.Ends.emit (.record here _)) fun _ _ _ => .pure _

/-- Building a rack leaves the bench intact, whether the rack is built or not. -/
theorem build_leaves (config : RackConfig) (catalog : Catalog) :
    (build config catalog).Leaves (Bench.Intact called changed) bench :=
  Action.Leaves.bind (Action.Leaves.mapFault (.ofExcept _)) fun _ _ _ =>
    Action.Leaves.bind (.mapM _ fun descriptor _ => buildInstrument_leaves catalog descriptor)
      fun instruments _ _ =>
        Action.Leaves.bind (.mapM _ fun description _ => buildGroup_leaves instruments description)
          fun _ _ _ => .pure _

end Rack

end Attenuation
