import Attenuation.Proofs.Bystander
import Attenuation.Proofs.CommandMemory
import Attenuation.Proofs.Crash

/-!
# Poisoned sessions

A session that a crash poisoned answers nothing but that for the rest of a history, and its driver
is not called again. What is asked through it is refused at the first call that would reach the
driver: an attenuator on it is refused once its level or its offset is known to be finite, a group
stops at its first member on it, a snapshot fails and a listing says that the instrument is
unavailable. Every other session, also one to the same instrument, goes on as if nothing had
happened, and groups remember what they remembered.
-/

namespace Attenuation

/-- A session is poisoned. -/
def Bench.IsPoisoned (bench : Bench) (session : SessionId) : Prop :=
  (bench.session session).poisoned = true

/-- Everything that is asked of a session is answered by the fault that it is poisoned, and nothing
on the bench changes. -/
structure Session.Refuses (session : SessionId) (bench : Bench) : Prop where
  /-- The properties of the instrument. -/
  info : (Session.info session).run bench = (.failed .poisoned, bench)
  /-- The model name. -/
  model : (Session.model session).run bench = (.failed .poisoned, bench)
  /-- The number of channels. -/
  channelCount : (Session.channelCount session).run bench = (.failed .poisoned, bench)
  /-- The maximum. -/
  maximum : (Session.maximum session).run bench = (.failed .poisoned, bench)
  /-- A raw command. -/
  setRaw : ∀ index value, (Session.setRaw session index value).run bench =
    (.failed .poisoned, bench)
  /-- A raw read. -/
  getRaw : ∀ index, (Session.getRaw session index).run bench = (.failed .poisoned, bench)
  /-- Several calls while the session is held. -/
  batch : ∀ calls, (Session.batch session calls).run bench = (.failed .poisoned, bench)
  /-- Anything else while the session is held. -/
  held : ∀ (α : Type) (next : Session → Action SessionFault α),
    (Session.hold session >>= next).run bench = (.failed .poisoned, bench)
  /-- The description for debugging is the one of a busy session. -/
  description : ∀ ε : Type, (Session.description session : Action ε String).run bench =
    (.done Session.busyDescription, bench)

/-- An attenuator on a session is refused with the fault of the session whatever its channel is,
but not before its offset or its level is known to be finite. -/
structure Attenuator.Refused (session : SessionId) (bench : Bench) : Prop where
  /-- An attenuator with a finite offset is not created. -/
  create : ∀ index offset, offset.isFinite →
    (Attenuator.create session index offset).run bench = (.failed (.session .poisoned), bench)
  /-- An offset that is not finite is refused as such. -/
  createNotFinite : ∀ index offset, offset.isFinite = false →
    (Attenuator.create session index offset).run bench =
      (.failed (Attenuator.notFinite "offset" offset), bench)
  /-- A finite level is not commanded. -/
  set : ∀ attenuator : Attenuator, attenuator.session = session → ∀ value : Level,
    value.isFinite → (attenuator.set value).run bench = (.failed (.session .poisoned), bench)
  /-- A level that is not finite is refused as such. -/
  setNotFinite : ∀ attenuator : Attenuator, attenuator.session = session → ∀ value : Level,
    value.isFinite = false → (attenuator.set value).run bench =
      (.failed (Attenuator.notFinite "attenuation" value), bench)
  /-- The level is not read. -/
  get : ∀ attenuator : Attenuator, attenuator.session = session →
    attenuator.get.run bench = (.failed (.session .poisoned), bench)
  /-- The maximum is not read. -/
  maximum : ∀ attenuator : Attenuator, attenuator.session = session →
    attenuator.maximum.run bench = (.failed (.session .poisoned), bench)

/-- How a group command ends whose members in front of a refused one end in some way. -/
def Group.stoppedBehind (group : Group) (value : Level) (position : Nat) (member : Attenuator) :
    Outcome GroupStop Unit × Bench → Outcome GroupStop Group × Bench
  | (.done (), after) =>
    (.failed ⟨group.name, position, value, .session .poisoned⟩,
      after.record [.groupStopped group.name value position member.model member.index
        (.session .poisoned)])
  | (.failed stop, after) => (.failed stop, after)
  | (.crashed, after) => (.crashed, after)

/-- How asking a group whether it is synchronized ends whose members in front of a refused one end
in some way. -/
def Group.unreadBehind : Outcome Fault Bool × Bench → Outcome Fault Bool × Bench
  | (.done true, after) => (.failed (.session .poisoned), after)
  | ended => ended

/-- A group stops at a member on a session, whatever members are behind it. -/
structure Group.Stops (session : SessionId) (bench : Bench) : Prop where
  /-- A command of a finite level ends as the command to the members in front of it does, and where
  that is done it stops at the member. -/
  set : ∀ (group : Group) (front rest : List Attenuator) (member : Attenuator) (value : Level),
    group.members = front ++ member :: rest → member.session = session → value.isFinite →
    (group.set value).run bench = group.stoppedBehind value front.length member
      ((group.commandFrom value 0 front).run bench)
  /-- So does the command of the remembered level. -/
  synchronize : ∀ (group : Group) (front rest : List Attenuator) (member : Attenuator),
    group.members = front ++ member :: rest → member.session = session →
    group.lastCommanded.isFinite →
    group.synchronize.run bench = group.stoppedBehind group.lastCommanded front.length member
      ((group.commandFrom group.lastCommanded 0 front).run bench)
  /-- Whether the group is synchronized is decided in front of the member or not at all. -/
  isSynchronized : ∀ (group : Group) (front rest : List Attenuator) (member : Attenuator),
    group.members = front ++ member :: rest → member.session = session →
    group.isSynchronized.run bench =
      Group.unreadBehind ((Group.allRead group.lastCommanded front).run bench)
  /-- No channels of the instrument are appended. -/
  addFrom : ∀ (group : Group) (selection : Selection), selection.indices ≠ [] →
    (group.addFrom session selection).run bench = (.failed (.session .poisoned), bench)

/-- A rack with an instrument on a session has no snapshot, and its listing says of the instrument
that it is unavailable. -/
structure Rack.Unavailable (session : SessionId) (bench : Bench) : Prop where
  /-- No snapshot is taken. -/
  status : ∀ (rack : Rack), (∃ instrument ∈ rack.instruments, instrument.session = session) →
    rack.status.run bench = (.failed (.operation (.session .poisoned)), bench)
  /-- Every rack is listed, line by line. -/
  listing : ∀ (ε : Type) (rack : Rack), (rack.listing : Action ε String).run bench =
    (.done (Text.dropTrailingBlanks
      (String.join (rack.instruments.zipIdx.map fun entry => Rack.linesOn bench entry.1 entry.2) ++
        String.join (rack.groups.map Rack.listedGroup))), bench)
  /-- The line of the instrument says that it is unavailable. -/
  line : ∀ instrument : RackInstrument, instrument.session = session →
    Rack.maximumOn bench instrument =
      "unavailable (transport error: instrument session poisoned by a failed command)"

namespace Bench.IsPoisoned

variable {bench : Bench} {session : SessionId}

/-- The mark of a poisoned session is set. -/
theorem mark (poisoned : bench.IsPoisoned session) : (bench.session session).poisoned = true :=
  poisoned

/-- Nothing is done while a poisoned session is held, as it is not held. -/
theorem run_hold_bind {α : Type} (poisoned : bench.IsPoisoned session)
    (next : Session → Action SessionFault α) :
    (Session.hold session >>= next).run bench = (.failed .poisoned, bench) := by
  rw [Session.run_hold_bind, if_pos poisoned.mark]

/-- A poisoned session gives no properties. -/
theorem run_info (poisoned : bench.IsPoisoned session) :
    (Session.info session).run bench = (.failed .poisoned, bench) :=
  poisoned.run_hold_bind _

/-- A poisoned session refuses everything. -/
theorem refuses (poisoned : bench.IsPoisoned session) : Session.Refuses session bench where
  info := poisoned.run_info
  model := Action.run_bind_failed _ poisoned.run_info
  channelCount := Action.run_bind_failed _ poisoned.run_info
  maximum := Action.run_bind_failed _ poisoned.run_info
  setRaw _ _ := poisoned.run_hold_bind _
  getRaw _ := poisoned.run_hold_bind _
  batch _ := poisoned.run_hold_bind _
  held _ next := poisoned.run_hold_bind next
  description ε := by
    unfold Session.description
    rw [Action.run_bind_done _ (Action.run_attempt_failed poisoned.run_info)]
    rfl

/-- A command to an attenuator on a poisoned session fares by its level alone. -/
theorem verdict (poisoned : bench.IsPoisoned session) {attenuator : Attenuator}
    (own : attenuator.session = session) (value : Level) :
    attenuator.verdict value bench = if value.isFinite then .poisoned else .notFinite := by
  subst own
  unfold Attenuator.verdict
  rw [poisoned.mark]
  rfl

/-- A finite level is refused by an attenuator on a poisoned session. -/
theorem run_set (poisoned : bench.IsPoisoned session) {attenuator : Attenuator}
    (own : attenuator.session = session) {value : Level} (finite : value.isFinite) :
    (attenuator.set value).run bench = (.failed (.session .poisoned), bench) := by
  rw [Attenuator.run_set, poisoned.verdict own, if_pos finite]

/-- An attenuator on a poisoned session is not read. -/
theorem run_get (poisoned : bench.IsPoisoned session) {attenuator : Attenuator}
    (own : attenuator.session = session) :
    attenuator.get.run bench = (.failed (.session .poisoned), bench) := by
  subst own
  have fared : attenuator.reading bench = .poisoned := if_pos poisoned.mark
  rw [Attenuator.run_get, fared]

/-- No attenuator with a finite offset is created on a poisoned session. -/
theorem run_create (poisoned : bench.IsPoisoned session) (index : Nat) {offset : Level}
    (finite : offset.isFinite) :
    (Attenuator.create session index offset).run bench =
      (.failed (.session .poisoned), bench) := by
  rw [Attenuator.run_create, if_pos finite, if_pos poisoned.mark]

/-- Attenuators on a poisoned session are refused. -/
theorem refused (poisoned : bench.IsPoisoned session) : Attenuator.Refused session bench where
  create index offset finite := poisoned.run_create index finite
  createNotFinite index offset infinite := by
    rw [Attenuator.run_create, if_neg (by simp [infinite])]
  set attenuator own value finite := poisoned.run_set own finite
  setNotFinite attenuator own value infinite := by
    rw [Attenuator.run_set, poisoned.verdict own, if_neg (by simp [infinite])]
  get attenuator own := poisoned.run_get own
  maximum attenuator own := by
    subst own
    rw [Attenuator.run_maximum, if_pos poisoned.mark]

/-- What leaves every session as it was leaves a poisoned one poisoned. -/
theorem of_same (poisoned : bench.IsPoisoned session) {after : Bench}
    (same : after.session session = bench.session session) : after.IsPoisoned session := by
  unfold IsPoisoned
  rw [same]
  exact poisoned

/-- Members in order end as the ones in front of a member on a poisoned session do, and where these
are done the command stops at that member. -/
theorem run_commandFrom (poisoned : bench.IsPoisoned session) (group : Group)
    (front rest : List Attenuator) {member : Attenuator} (own : member.session = session)
    {value : Level} (finite : value.isFinite) (position : Nat) :
    (group.commandFrom value position (front ++ member :: rest)).run bench =
      match (group.commandFrom value position front).run bench with
      | (.done (), after) =>
        (group.stop value (position + front.length) member (.session .poisoned)).run after
      | ended => ended := by
  induction front generalizing bench position with
  | nil =>
    have refused := poisoned.run_set own finite
    have ran : (group.commandFrom value position (member :: rest)).run bench = _ :=
      Action.run_bind_done _ (Action.run_attempt_failed refused)
    rw [List.nil_append, ran]
    rfl
  | cons first others ih =>
    have strikes : (first.set value).Strikes (fun _ => True) bench :=
      Attenuator.set_strikes trivial value
    have spared := strikes.spared
    simp only [List.cons_append, Group.commandFrom, Action.run_bind, Action.run_attempt]
    cases ended : (first.set value).run bench with
    | mk outcome after =>
      rw [ended] at spared
      cases outcome with
      | done accepted =>
        have still := poisoned.of_same (spared (fun crashed => by cases crashed) session)
        have count : position + 1 + others.length = position + (first :: others).length := by
          rw [List.length_cons]
          omega
        simp only [ih still, count]
      | failed source => rfl
      | crashed => rfl

/-- A group command of a finite level stops at a member on a poisoned session at the latest. -/
theorem run_set_group (poisoned : bench.IsPoisoned session) {group : Group}
    {front rest : List Attenuator} {member : Attenuator}
    (whole : group.members = front ++ member :: rest) (own : member.session = session)
    {value : Level} (finite : value.isFinite) :
    (group.set value).run bench = group.stoppedBehind value front.length member
      ((group.commandFrom value 0 front).run bench) := by
  rw [Group.set, if_pos finite, whole, Action.run_bind,
    poisoned.run_commandFrom group front rest own finite 0, Nat.zero_add]
  cases (group.commandFrom value 0 front).run bench with
  | mk outcome after => cases outcome <;> rfl

/-- Members are read in order up to the first on a poisoned session. -/
theorem run_allRead (poisoned : bench.IsPoisoned session) (value : Level)
    (front rest : List Attenuator) {member : Attenuator} (own : member.session = session) :
    (Group.allRead value (front ++ member :: rest)).run bench =
      Group.unreadBehind ((Group.allRead value front).run bench) := by
  induction front generalizing bench with
  | nil =>
    have ran : (Group.allRead value (member :: rest)).run bench = _ :=
      Action.run_bind_failed _ (poisoned.run_get own)
    rw [List.nil_append, ran]
    rfl
  | cons first others ih =>
    have strikes : first.get.Strikes (fun _ => True) bench := Attenuator.get_strikes trivial
    have spared := strikes.spared
    simp only [List.cons_append, Group.allRead, Action.run_bind]
    cases ended : first.get.run bench with
    | mk outcome after =>
      rw [ended] at spared
      cases outcome with
      | done read =>
        have still := poisoned.of_same (spared (fun crashed => by cases crashed) session)
        by_cases equal : read == value
        · simp only [equal, ↓reduceIte]
          exact ih still
        · simp only [equal]
          rfl
      | failed source => rfl
      | crashed => rfl

/-- No channel of an instrument is appended through a poisoned session. -/
theorem run_addFrom (poisoned : bench.IsPoisoned session) (group : Group) {selection : Selection}
    (selected : selection.indices ≠ []) :
    (group.addFrom session selection).run bench = (.failed (.session .poisoned), bench) := by
  unfold Group.addFrom
  cases indices : selection.indices with
  | nil => exact absurd indices selected
  | cons index rest =>
    rw [List.mapM_cons]
    have zero : (0.0 : Level).isFinite := by decide +kernel
    have refused := poisoned.run_create index zero
    exact Action.run_bind_failed _ (Action.run_bind_failed _ refused)

/-- Groups stop at members on a poisoned session. -/
theorem stops (poisoned : bench.IsPoisoned session) : Group.Stops session bench where
  set _ _ _ _ _ whole own finite := poisoned.run_set_group whole own finite
  synchronize _ _ _ _ whole own finite := poisoned.run_set_group whole own finite
  isSynchronized group front rest member whole own := by
    unfold Group.isSynchronized
    rw [whole]
    exact poisoned.run_allRead group.lastCommanded front rest own
  addFrom group _ selected := poisoned.run_addFrom group selected

/-- No snapshot is taken of a rack with an instrument on a poisoned session. -/
theorem run_status (poisoned : bench.IsPoisoned session) {instruments : List RackInstrument}
    (present : ∃ instrument ∈ instruments, instrument.session = session) :
    (instruments.mapM fun instrument => (Session.info instrument.session).mapFault fun fault =>
      RackFault.operation (.session fault)).run bench =
      (.failed (.operation (.session .poisoned)), bench) := by
  induction instruments with
  | nil =>
    obtain ⟨instrument, inside, -⟩ := present
    exact absurd inside List.not_mem_nil
  | cons first rest ih =>
    rw [List.mapM_cons]
    have asked := Session.run_info first.session bench
    by_cases here : (bench.session first.session).poisoned
    · rw [if_pos here] at asked
      refine Action.run_bind_failed _ ?_
      rw [Action.run_mapFault_outcome, asked]
      rfl
    · rw [if_neg here] at asked
      have later : ∃ instrument ∈ rest, instrument.session = session := by
        obtain ⟨instrument, inside, own⟩ := present
        rcases List.mem_cons.mp inside with rfl | further
        · exact absurd (own ▸ poisoned.mark) here
        · exact ⟨instrument, further, own⟩
      rw [Action.run_bind, Action.run_mapFault_outcome, asked]
      exact Action.run_bind_failed _ (ih later)

/-- A rack with an instrument on a poisoned session has no snapshot and lists it as unavailable. -/
theorem unavailable (poisoned : bench.IsPoisoned session) : Rack.Unavailable session bench where
  status rack present := Action.run_bind_failed _ (poisoned.run_status present)
  listing _ rack := Rack.run_listing rack bench
  line instrument own := by
    subst own
    unfold Rack.maximumOn
    rw [if_pos poisoned.mark]
    rfl

end Bench.IsPoisoned

/-- What is done beside a session goes on: on benches that differ in the session at most, every
operation that does not call through it ends alike and leaves such benches, and the instruments
are seen and changed from outside alike. -/
structure Session.Apart (session : SessionId) : Prop where
  /-- The properties of the instrument of another session. -/
  info : ∀ other, other ≠ session → Action.Beside session (Session.info other)
  /-- A raw command through another session. -/
  setRaw : ∀ other, other ≠ session → ∀ index value,
    Action.Beside session (Session.setRaw other index value)
  /-- A raw read through another session. -/
  getRaw : ∀ other, other ≠ session → ∀ index, Action.Beside session (Session.getRaw other index)
  /-- Several calls while another session is held. -/
  batch : ∀ other, other ≠ session → ∀ calls, Action.Beside session (Session.batch other calls)
  /-- A crash behind several calls while another session is held. -/
  abandon : ∀ other, other ≠ session → ∀ calls,
    Action.Beside session (Session.abandon other calls)
  /-- The description of the instrument of another session. -/
  description : ∀ (ε : Type) other, other ≠ session →
    Action.Beside session (Session.description other : Action ε String)
  /-- An attenuator that is created on another session. -/
  create : ∀ other, other ≠ session → ∀ index offset,
    Action.Beside session (Attenuator.create other index offset)
  /-- A command to an attenuator on another session. -/
  set : ∀ attenuator : Attenuator, attenuator.session ≠ session → ∀ value,
    Action.Beside session (attenuator.set value)
  /-- A read of an attenuator on another session. -/
  get : ∀ attenuator : Attenuator, attenuator.session ≠ session →
    Action.Beside session attenuator.get
  /-- The maximum of an attenuator on another session. -/
  maximum : ∀ attenuator : Attenuator, attenuator.session ≠ session →
    Action.Beside session attenuator.maximum
  /-- A command to a group whose members are on other sessions. -/
  setGroup : ∀ group : Group, (∀ member ∈ group.members, member.session ≠ session) → ∀ value,
    Action.Beside session (group.set value)
  /-- Whether a group whose members are on other sessions is synchronized. -/
  isSynchronized : ∀ group : Group, (∀ member ∈ group.members, member.session ≠ session) →
    Action.Beside session group.isSynchronized
  /-- Channels of the instrument of another session that are appended to a group. -/
  addFrom : ∀ (group : Group) other, other ≠ session → ∀ selection,
    Action.Beside session (group.addFrom other selection)
  /-- A snapshot of a rack whose instruments are on other sessions. -/
  status : ∀ rack : Rack, (∀ instrument ∈ rack.instruments, instrument.session ≠ session) →
    Action.Beside session rack.status
  /-- The instruments are seen alike from outside. -/
  seen : ∀ first second, Bench.Beside session first second → ∀ id,
    first.simulator id = second.simulator id
  /-- The instruments are changed alike from outside. -/
  changed : ∀ first second, Bench.Beside session first second → ∀ id change,
    Bench.Beside session (first.changeSimulator id change) (second.changeSimulator id change)

/-- Every session leaves the others alone. -/
theorem Session.apart (session : SessionId) : Session.Apart session where
  info _ := Session.info_beside
  setRaw _ := Session.setRaw_beside
  getRaw _ := Session.getRaw_beside
  batch _ := Session.batch_beside
  abandon _ := Session.abandon_beside
  description _ _ := Session.description_beside
  create _ := Attenuator.create_beside
  set _ := Attenuator.set_beside
  get _ := Attenuator.get_beside
  maximum _ := Attenuator.maximum_beside
  setGroup _ := Group.set_beside
  isSynchronized _ := Group.isSynchronized_beside
  addFrom _ _ := Group.addFrom_beside
  status _ := Rack.status_beside
  seen _ _ beside := beside.simulators
  changed _ _ beside := beside.changeSimulator

/-- What is left of a session that a crash poisoned. -/
structure Session.IsLost (session : SessionId) (bench : Bench) : Prop where
  /-- Everything that is asked of it is refused. -/
  asked : Session.Refuses session bench
  /-- Attenuators on it are refused. -/
  attenuators : Attenuator.Refused session bench
  /-- Groups stop at members on it. -/
  groups : Group.Stops session bench
  /-- Racks with an instrument on it have no snapshot and list it as unavailable. -/
  racks : Rack.Unavailable session bench
  /-- A session that is opened anew, to whatever instrument, is another one and is free. -/
  anew : ∀ id trap, (bench.openSession id trap).1 ≠ session ∧
    (bench.openSession id trap).2.session (bench.openSession id trap).1 = ⟨id, trap, false⟩

/-- A poisoned session that is open is lost. -/
theorem Bench.IsPoisoned.isLost {bench : Bench} {session : SessionId}
    (poisoned : bench.IsPoisoned session) (inside : session < bench.nextSession) :
    Session.IsLost session bench where
  asked := poisoned.refuses
  attenuators := poisoned.refused
  groups := poisoned.stops
  racks := poisoned.unavailable
  anew id trap := by
    refine ⟨(Nat.ne_of_lt inside).symm, ?_⟩
    exact (Slots.get_put bench.sessions bench.nextSession bench.nextSession _).trans (if_pos rfl)

/-- Poisoned sessions that are open stay so. -/
structure Bench.KeepsPoison (before after : Bench) : Prop where
  /-- No session is taken away. -/
  sessions : before.nextSession ≤ after.nextSession
  /-- A poisoned session stays poisoned. -/
  poisoned : ∀ session < before.nextSession, before.IsPoisoned session → after.IsPoisoned session

namespace Bench.KeepsPoison

/-- A bench keeps what it has. -/
theorem refl (bench : Bench) : bench.KeepsPoison bench :=
  ⟨Nat.le_refl _, fun _ _ poisoned => poisoned⟩

/-- What is kept twice is kept. -/
theorem trans {before middle after : Bench} (early : before.KeepsPoison middle)
    (late : middle.KeepsPoison after) : before.KeepsPoison after where
  sessions := Nat.le_trans early.sessions late.sessions
  poisoned session inside poisoned :=
    late.poisoned session (Nat.lt_of_lt_of_le inside early.sessions)
      (early.poisoned session inside poisoned)

instance : IsPreorder Bench KeepsPoison where
  refl := refl
  trans _ _ _ := trans

/-- A change that leaves the sessions alone keeps the poisoned ones. -/
theorem of_same {before after : Bench} (sessions : before.nextSession = after.nextSession)
    (same : ∀ session, after.session session = before.session session) :
    before.KeepsPoison after :=
  ⟨Nat.le_of_eq sessions, fun session _ poisoned => poisoned.of_same (same session)⟩

/-- A deed keeps poisoned sessions. -/
theorem perform (bench : Bench) (deed : Deed) : bench.KeepsPoison (deed.perform bench) := by
  cases deed with
  | record events => exact .of_same rfl fun _ => rfl
  | crash other =>
    refine ⟨Nat.le_refl _, fun session _ poisoned => ?_⟩
    change ((bench.poison other).session session).poisoned = true
    rw [session_poison]
    by_cases own : session = other
    · rw [if_pos own]
    · rw [if_neg own]
      exact poisoned.mark
  | get session index => exact .of_same rfl fun _ => rfl
  | set attenuator value => exact .of_same rfl fun _ => rfl
  | setRaw session index value => exact .of_same rfl fun _ => rfl
  | addSimulator config => exact .of_same rfl fun _ => rfl
  | openSession id trap =>
    refine ⟨Nat.le_succ _, fun session inside poisoned => poisoned.of_same ?_⟩
    exact (Slots.get_put bench.sessions _ session _).trans (if_neg (Nat.ne_of_lt inside))
  | probe id => exact .of_same rfl fun _ => rfl
  | adjust id adjustment => exact .of_same rfl fun _ => rfl

end Bench.KeepsPoison

namespace Lab

/-- A driver crashes in an operation: the operation itself crashes, or the actor that it lets take a
step does, or the commands of a run of the program do. -/
inductive Crashes (lab : Lab) : Operation → Prop where
  /-- The operation crashes. -/
  | direct {operation : Operation}
      (crashed : ((operation.act lab.held).run lab.bench).1 = .crashed) :
      Crashes lab operation
  /-- An actor crashes in its step. -/
  | actor {position : Nat} {worker fallen : Worker}
      (found : lab.held.workers[position]? = some worker) (alive : worker.actor.phase ≠ .crashed)
      (left : (lab.perform (.serve position)).held.workers[position]? = some fallen)
      (crashed : fallen.actor.phase = .crashed) : Crashes lab (.serve position)
  /-- A command of the program crashes. -/
  | program {config : RackConfig} {commands : List Command} {transcript : Command.Transcript}
      (ran : ((CommandLine.operate config commands).run lab.bench).1 = .done transcript)
      (crashed : transcript.ending = .crashed) : Crashes lab (.program config commands)

/-- Every group that callers hold is the one it was, and so is every actor but the one that was
served. -/
structure KeepsGroups (before : Lab) (operation : Operation) (after : Lab) : Prop where
  /-- The groups on their own and those of racks, with what they remember. -/
  groups : ∀ place group, before.held.group? place = some group →
    after.held.group? place = some group
  /-- The actors. -/
  workers : ∀ (position : Nat) (worker : Worker), before.held.workers[position]? = some worker →
    operation ≠ .serve position → after.held.workers[position]? = some worker

/-- The commands of the program do not crash, since its drivers do not. -/
theorem program_ending {config : RackConfig} {commands : List Command} {bench : Bench}
    {transcript : Command.Transcript}
    (ran : ((CommandLine.operate config commands).run bench).1 = .done transcript) :
    transcript.ending ≠ .crashed := by
  intro crashed
  rw [CommandLine.operate_eq, Action.run_bind] at ran
  cases built : (CommandLine.rackOf config).run bench with
  | mk outcome after =>
    rw [built] at ran
    cases outcome with
    | failed fault => cases ran
    | crashed => cases ran
    | done rack =>
      obtain ⟨start, mirrors⟩ := CommandLine.rackOf_mirrors built
      obtain ⟨other, last, same, follows⟩ := Command.runAll_follows mirrors commands
      change ((Command.runAll rack commands : Action RunFault _).run after).1 = _ at ran
      rw [same] at ran
      cases ran
      rcases follows.ending with ⟨-, completed⟩ | ⟨command, fault, -, failed, -⟩
      · rw [completed] at crashed
        cases crashed
      · rw [failed] at crashed
        cases crashed

/-- An operation that crashes strikes an open session through which it calls, and the callers hold
what they held. -/
theorem struck_of_crashed {lab : Lab} {operation : Operation}
    (all : lab.held.All lab.bench.Calibrated)
    (crashed : ((operation.act lab.held).run lab.bench).1 = .crashed) :
    ∃ session, operation.Calls lab.held session ∧ lab.bench.IsOpen session ∧
      lab.bench.Struck session (lab.perform operation).bench ∧
      lab.KeepsGroups operation (lab.perform operation) := by
  have ran : (operation.act lab.held).run lab.bench =
      (.crashed, ((operation.act lab.held).run lab.bench).2) := Prod.ext crashed rfl
  obtain ⟨session, ⟨called, opened⟩, struck⟩ := Operation.act_hits all operation _ ran
  refine ⟨session, called, opened, ?_⟩
  unfold perform
  rw [ran]
  exact ⟨struck, fun _ _ found => found, fun _ _ found _ => found⟩

/-- An actor that crashes in a step strikes an open session of its group, and the callers hold what
they held of everything else. -/
theorem struck_of_fallen {lab : Lab} {position : Nat} {worker fallen : Worker}
    (all : lab.held.All lab.bench.Calibrated)
    (found : lab.held.workers[position]? = some worker) (alive : worker.actor.phase ≠ .crashed)
    (left : (lab.perform (.serve position)).held.workers[position]? = some fallen)
    (crashed : fallen.actor.phase = .crashed) :
    ∃ session, (Operation.serve position).Calls lab.held session ∧ lab.bench.IsOpen session ∧
      lab.bench.Struck session (lab.perform (.serve position)).bench ∧
      lab.KeepsGroups (.serve position) (lab.perform (.serve position)) := by
  have looked : (Operation.require lab.held.workers[position]?).run lab.bench =
      (.done worker, lab.bench) := by
    rw [found]
    rfl
  unfold perform at left ⊢
  rw [Operation.act, Action.run_bind_done _ looked, Action.run_bind] at left ⊢
  cases ended : (worker.actor.serve : Action LabFault Actor).run lab.bench with
  | mk outcome bench =>
    rw [ended] at left
    cases outcome with
    | done next =>
      have inside := (List.getElem?_eq_some_iff.mp found).1
      change (lab.held.workers.set position { worker with actor := next })[position]? = _ at left
      rw [List.getElem?_set_self inside] at left
      cases left
      obtain ⟨group, serving, member, own, struck⟩ := Actor.serve_struck ended alive crashed
      refine ⟨member.session, .inr ⟨member.index, worker, found, group, serving, member, own,
        rfl, rfl⟩, ?_, struck, fun place group held => ?_, fun other kept held apart => ?_⟩
      · have known := all.workers worker (List.mem_of_getElem? found) group
          (by rw [serving]; rfl)
        exact (known member own).isOpen
      · cases place <;> exact held
      · have elsewhere : position ≠ other := fun same => apart (by rw [same])
        exact (List.getElem?_set_ne elsewhere).trans held
    -- An actor that takes no step stays the one that was found, which had not crashed.
    | failed fault =>
      rw [found] at left
      cases left
      exact absurd crashed alive
    | crashed =>
      rw [found] at left
      cases left
      exact absurd crashed alive

/-- A crash in an operation strikes an open session through which the operation calls, and the
groups that callers hold stay. -/
theorem Crashes.struck {lab : Lab} {operation : Operation} (crash : lab.Crashes operation)
    (all : lab.held.All lab.bench.Calibrated) :
    ∃ session, operation.Calls lab.held session ∧ lab.bench.IsOpen session ∧
      lab.bench.Struck session (lab.perform operation).bench ∧
      lab.KeepsGroups operation (lab.perform operation) := by
  cases crash with
  | direct crashed => exact struck_of_crashed all crashed
  | actor found alive left crashed => exact struck_of_fallen all found alive left crashed
  | program ran crashed => exact absurd crashed (program_ending ran)

/-- A session that is open and poisoned stays so through every history. -/
theorem foldl_keepsPoison (later : List Operation) {lab : Lab}
    (all : lab.held.All lab.bench.Calibrated) :
    lab.bench.KeepsPoison (later.foldl perform lab).bench := by
  induction later generalizing lab with
  | nil => exact .refl lab.bench
  | cons operation rest ih =>
    obtain ⟨evolved, left⟩ := perform_evolves all operation
    have first : lab.bench.KeepsPoison (lab.perform operation).bench :=
      evolved.lift fun bench deed _ _ => .perform bench deed
    exact first.trans (ih left)

/-- **A crash poisons its session for the rest of the history.** When a driver crashes in an
operation, it strikes one session, one through which the operation calls, and every group that
callers hold stays as it is. However the history goes on, the session is lost: everything asked of
it is refused without a call to its driver. Whatever does not call through it goes on as if it were
not there. -/
theorem crash_poisons (before later : List Operation) {operation : Operation}
    (crash : (after before).Crashes operation) :
    ∃ session, operation.Calls (after before).held session ∧
      (after before).bench.Struck session (after (before ++ [operation])).bench ∧
      (after before).KeepsGroups operation (after (before ++ [operation])) ∧
      Session.IsLost session (after (before ++ operation :: later)).bench ∧
      Session.Apart session := by
  have all := after_calibrated before
  obtain ⟨session, called, opened, struck, kept⟩ := crash.struck all
  have one : after (before ++ [operation]) = (after before).perform operation := by
    simp [after, List.foldl_append]
  have whole : after (before ++ operation :: later) =
      later.foldl perform ((after before).perform operation) := by
    simp [after, List.foldl_append]
  obtain ⟨evolved, left⟩ := perform_evolves all operation
  have lasting := foldl_keepsPoison later left
  have inside : session < ((after before).perform operation).bench.nextSession :=
    Nat.lt_of_lt_of_le opened.1 evolved.grown.sessions
  have hit : ((after before).perform operation).bench.IsPoisoned session := by
    unfold Bench.IsPoisoned
    rw [struck.poisoned]
  have lost := (lasting.poisoned session inside hit).isLost
    (Nat.lt_of_lt_of_le inside lasting.sessions)
  exact ⟨session, called, one ▸ struck, one ▸ kept, whole ▸ lost, Session.apart session⟩

/-- An instrument with two sessions, one of which crashes on its first channel, and an attenuator
on each. -/
def trapped : List Operation :=
  [.addSimulator .standard, .openSession 0 ⟨some 0, none⟩, .openSession 0 Trap.none,
    .createAttenuator 0 0 0.0, .createAttenuator 1 0 0.0]

/-- The session of the attenuator that crashed is lost, and the attenuator on the other session
commands the same instrument. When the driver of the other session crashes behind its call of the
instrument, that session is lost, and the instrument has the level. -/
theorem crash_poisons_trapped :
    (after trapped).Crashes (.setLevel (.own 0) 10.0) ∧
      Session.IsLost 0
        (after (trapped ++ .setLevel (.own 0) 10.0 :: [.setLevel (.own 1) 10.0])).bench ∧
      ((after (trapped ++ .setLevel (.own 0) 10.0 :: [.setLevel (.own 1) 10.0])).bench.simulator
        0).sets.length = 1 ∧
      (after trapped).Crashes (.abandon 1 [.set 0 10.0]) ∧
      Session.IsLost 1
        (after (trapped ++ .abandon 1 [.set 0 10.0] :: [.getLevel (.own 1)])).bench ∧
      ((after (trapped ++ .abandon 1 [.set 0 10.0] :: [.getLevel (.own 1)])).bench.simulator
        0).values = [10.0, 0.0, 0.0, 0.0] := by
  have crash : (after trapped).Crashes (.setLevel (.own 0) 10.0) :=
    .direct (Outcome.eq_crashed (by decide +kernel))
  obtain ⟨session, called, -, -, lost, -⟩ := crash_poisons trapped [.setLevel (.own 1) 10.0] crash
  have first : ((after trapped).held.attenuator? (.own 0)).map (·.session) = some 0 := by
    decide +kernel
  have behind : (after trapped).Crashes (.abandon 1 [.set 0 10.0]) :=
    .direct (Outcome.eq_crashed (by decide +kernel))
  obtain ⟨_, rfl, -, -, abandoned, -⟩ := crash_poisons trapped [.getLevel (.own 1)] behind
  rcases called with ⟨attenuator, value, ⟨found, -⟩, rfl⟩ | ⟨index, read⟩
  · rw [found] at first
    have own : attenuator.session = 0 := Option.some.inj first
    rw [own] at lost
    exact ⟨crash, lost, by decide +kernel, behind, abandoned, by decide +kernel⟩
  · exact read.elim

end Lab

end Attenuation
