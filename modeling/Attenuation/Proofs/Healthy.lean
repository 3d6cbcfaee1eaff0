import Attenuation.Proofs.ActorRun
import Attenuation.Proofs.Double
import Attenuation.Proofs.GroupCommand

/-!
# Channels without faults

A command to a reliable attenuator does not crash and uses no refusal up, so it leaves every
instrument set as it was; where moreover the channel responds, only the maximum of the instrument
decides whether a finite level is accepted. A healthy attenuator can be commanded and read, and its
instrument stores levels as they are. Commands and reads keep attenuators healthy whatever they are
asked for. A level that fits every member of a group is accepted by all of them, and afterwards
every member reads it back, also where members share a channel.
-/

namespace Attenuation

namespace Level

open Float.Model (UnpackedFloat)
open Float.Model.UnpackedFloat (Sign)

/-- What the bits say of a level that is raised by an offset and lowered by another one. -/
def backBits (level offset other : UnpackedFloat) : Bool :=
  (Float.Model.pack (.sub .binary64
    (Float.Model.pack (.add .binary64 level other)).unpack offset)).unpack.beq level

/-- A zero is read back as a zero, with whatever sign. -/
theorem backBits_zero (level offset other : Sign) :
    backBits (.zero level) (.zero offset) (.zero other) := by
  cases level <;> cases offset <;> cases other <;> decide

/-- Only a zero notices which zero is added to it. -/
theorem add_zero (level : UnpackedFloat) (sign other : Sign) :
    (∃ zero, level = .zero zero) ∨
      level.add .binary64 (.zero sign) = level.add .binary64 (.zero other) := by
  cases level with
  | zero zero => exact .inl ⟨zero, rfl⟩
  | _ => exact .inr rfl

/-- A level that is read back with its own offset is read back where it was sent with an equal
one. -/
theorem reads_back {level offset other : Level} (equal : other == offset)
    (back : level + offset - offset == level) : level + other - offset == level := by
  change backBits level.toModel.unpack offset.toModel.unpack other.toModel.unpack
  have own : backBits level.toModel.unpack offset.toModel.unpack offset.toModel.unpack := back
  rcases eq_of_beq equal with same | ⟨sign, zero, first, second⟩
  · rw [same]
    exact own
  · rw [second] at own ⊢
    rw [first]
    rcases add_zero level.toModel.unpack sign zero with ⟨whole, found⟩ | same
    · rw [found]
      exact backBits_zero whole zero sign
    · unfold backBits at own ⊢
      rw [same]
      exact own

end Level

namespace Attenuator

/-- An attenuator whose commands fare by nothing that a command changes: its session can be held,
its driver does not crash on the channel, and no refusal is pending at its instrument. -/
structure Reliable (attenuator : Attenuator) (bench : Bench) : Prop where
  /-- The session can be held. -/
  free : (bench.session attenuator.session).poisoned = false
  /-- The driver does not crash when the channel is commanded. -/
  settable : (bench.session attenuator.session).trap.onSet ≠ some attenuator.index
  /-- The instrument refuses no command. -/
  takesSets : (attenuator.simulator bench).refusedSets = 0

/-- An attenuator on which nothing is in the way of commands, whatever becomes of reads. -/
structure Commandable (attenuator : Attenuator) (bench : Bench) : Prop
    extends Reliable attenuator bench where
  /-- The channel responds. -/
  responsive : attenuator.index ∉ (attenuator.simulator bench).unresponsive
  /-- The instrument has the channel. -/
  present : attenuator.index < (attenuator.simulator bench).values.length

/-- An attenuator on which nothing is in the way of commands and reads. -/
structure Healthy (attenuator : Attenuator) (bench : Bench) : Prop where
  /-- The session can be held. -/
  free : (bench.session attenuator.session).poisoned = false
  /-- The driver does not crash when the channel is commanded. -/
  settable : (bench.session attenuator.session).trap.onSet ≠ some attenuator.index
  /-- The driver does not crash when the channel is read. -/
  readable : (bench.session attenuator.session).trap.onGet ≠ some attenuator.index
  /-- The instrument refuses no command. -/
  takesSets : (attenuator.simulator bench).refusedSets = 0
  /-- The instrument refuses no read. -/
  takesGets : (attenuator.simulator bench).refusedGets = 0
  /-- Every channel responds. -/
  responsive : (attenuator.simulator bench).unresponsive = []
  /-- Levels are stored as they are. -/
  step : (attenuator.simulator bench).step = none
  /-- The instrument has the channel. -/
  present : attenuator.index < (attenuator.simulator bench).values.length

/-- An attenuator on which nothing is in the way of reads, whatever becomes of commands. -/
structure Audible (attenuator : Attenuator) (bench : Bench) : Prop where
  /-- The session can be held. -/
  free : (bench.session attenuator.session).poisoned = false
  /-- The driver does not crash when the channel is read. -/
  readable : (bench.session attenuator.session).trap.onGet ≠ some attenuator.index
  /-- The instrument refuses no read. -/
  takesGets : (attenuator.simulator bench).refusedGets = 0
  /-- The channel responds. -/
  responsive : attenuator.index ∉ (attenuator.simulator bench).unresponsive
  /-- The instrument has the channel. -/
  present : attenuator.index < (attenuator.simulator bench).values.length

/-- A finite level fits an attenuator when its raw level is not above the maximum of the instrument
and gives the level again when the offset is taken off. -/
def Fits (attenuator : Attenuator) (bench : Bench) (value : Level) : Prop :=
  (∃ maximum, (attenuator.simulator bench).maximum = some maximum ∧
    ¬ maximum < attenuator.raw value) ∧
  attenuator.raw value - attenuator.offset == value

/-- An attenuator accepts a level when its command is done. -/
def Accepts (attenuator : Attenuator) (bench : Bench) (value : Level) : Prop :=
  ((attenuator.set value).run bench).1 = .done ()

/-- An attenuator rejects a level when its command fails because the raw level is above the maximum
of the instrument. No instrument is reached then. -/
def Rejects (attenuator : Attenuator) (bench : Bench) (value maximum : Level) : Prop :=
  (attenuator.set value).run bench =
    (.failed (.limitExceeded value attenuator.offset maximum), bench.record
      [.rejected attenuator.model attenuator.index value (attenuator.raw value) maximum])

/-- An attenuator reads a level when it asks its channel. -/
def Reads (attenuator : Attenuator) (bench : Bench) (value : Level) : Prop :=
  ∃ raw, (attenuator.simulator bench).values[attenuator.index]? = some raw ∧
    raw - attenuator.offset == value

/-- Between two benches an attenuator keeps its session, and its instrument everything but its log
and its stored levels. -/
structure Kept (attenuator : Attenuator) (before after : Bench) : Prop where
  /-- The session is as it was. -/
  session : after.session attenuator.session = before.session attenuator.session
  /-- The instrument is set as it was. -/
  settings : (attenuator.simulator after).settings = (attenuator.simulator before).settings
  /-- The instrument has the channels that it had. -/
  channels : (attenuator.simulator after).values.length =
    (attenuator.simulator before).values.length

/-- Between two benches nobody disturbs an attenuator: moreover its channel holds what it held. -/
structure Undisturbed (attenuator : Attenuator) (before after : Bench) : Prop
    extends Kept attenuator before after where
  /-- The channel holds what it held. -/
  stored : (attenuator.simulator after).values[attenuator.index]? =
    (attenuator.simulator before).values[attenuator.index]?

variable {attenuator : Attenuator} {before middle after bench : Bench} {value : Level}

/-- What is kept twice is kept. -/
theorem Kept.trans (first : attenuator.Kept before middle) (second : attenuator.Kept middle after) :
    attenuator.Kept before after :=
  ⟨second.session.trans first.session, second.settings.trans first.settings,
    second.channels.trans first.channels⟩

/-- What is kept from one bench to another is kept the other way too. -/
theorem Kept.symm (kept : attenuator.Kept before after) : attenuator.Kept after before :=
  ⟨kept.session.symm, kept.settings.symm, kept.channels.symm⟩

/-- Who is not disturbed twice is not disturbed. -/
theorem Undisturbed.trans (first : attenuator.Undisturbed before middle)
    (second : attenuator.Undisturbed middle after) : attenuator.Undisturbed before after :=
  ⟨first.toKept.trans second.toKept, second.stored.trans first.stored⟩

/-- Who is not disturbed is not disturbed the other way either. -/
theorem Undisturbed.symm (undisturbed : attenuator.Undisturbed before after) :
    attenuator.Undisturbed after before :=
  ⟨undisturbed.toKept.symm, undisturbed.stored.symm⟩

/-- Nobody is disturbed where nothing changes. -/
theorem Undisturbed.refl (attenuator : Attenuator) (bench : Bench) :
    attenuator.Undisturbed bench bench := ⟨⟨rfl, rfl, rfl⟩, rfl⟩

/-- Events disturb nobody. -/
theorem Undisturbed.record (attenuator : Attenuator) (bench : Bench) (events : List Event) :
    attenuator.Undisturbed bench (bench.record events) := ⟨⟨rfl, rfl, rfl⟩, rfl⟩

/-- What is kept of the instrument is the same field by field. -/
theorem Kept.field {α : Type} (kept : attenuator.Kept before after) (field : Simulator → α)
    (own : ∀ simulator : Simulator, field simulator.settings = field simulator) :
    field (attenuator.simulator after) = field (attenuator.simulator before) := by
  rw [← own, kept.settings, own]

/-- A healthy attenuator is reliable. -/
theorem Healthy.reliable (healthy : attenuator.Healthy bench) : attenuator.Reliable bench :=
  ⟨healthy.free, healthy.settable, healthy.takesSets⟩

/-- A reliable attenuator is reliable as long as it is kept. -/
theorem Reliable.keep (reliable : attenuator.Reliable before)
    (kept : attenuator.Kept before after) : attenuator.Reliable after where
  free := by rw [kept.session, reliable.free]
  settable := by rw [kept.session]; exact reliable.settable
  takesSets := (kept.field Simulator.refusedSets fun _ => rfl).trans reliable.takesSets

/-- A healthy attenuator is healthy as long as it is kept. -/
theorem Healthy.keep (healthy : attenuator.Healthy before) (kept : attenuator.Kept before after) :
    attenuator.Healthy after where
  free := (healthy.reliable.keep kept).free
  settable := (healthy.reliable.keep kept).settable
  readable := by rw [kept.session]; exact healthy.readable
  takesSets := (healthy.reliable.keep kept).takesSets
  takesGets := (kept.field Simulator.refusedGets fun _ => rfl).trans healthy.takesGets
  responsive := (kept.field Simulator.unresponsive fun _ => rfl).trans healthy.responsive
  step := (kept.field Simulator.step fun _ => rfl).trans healthy.step
  present := by rw [kept.channels]; exact healthy.present

/-- A healthy attenuator is audible. -/
theorem Healthy.audible (healthy : attenuator.Healthy bench) : attenuator.Audible bench where
  free := healthy.free
  readable := healthy.readable
  takesGets := healthy.takesGets
  responsive := by rw [healthy.responsive]; exact List.not_mem_nil
  present := healthy.present

/-- A healthy attenuator is commandable. -/
theorem Healthy.commandable (healthy : attenuator.Healthy bench) : attenuator.Commandable bench where
  toReliable := healthy.reliable
  responsive := healthy.audible.responsive
  present := healthy.present

/-- An audible attenuator is audible as long as it is kept. -/
theorem Audible.keep (audible : attenuator.Audible before) (kept : attenuator.Kept before after) :
    attenuator.Audible after where
  free := by rw [kept.session]; exact audible.free
  readable := by rw [kept.session]; exact audible.readable
  takesGets := (kept.field Simulator.refusedGets fun _ => rfl).trans audible.takesGets
  responsive := by
    rw [show (attenuator.simulator after).unresponsive = _ from
      kept.field Simulator.unresponsive fun _ => rfl]
    exact audible.responsive
  present := by rw [kept.channels]; exact audible.present

/-- A level that fits an attenuator fits it as long as it is kept. -/
theorem Fits.keep (fits : attenuator.Fits before value) (kept : attenuator.Kept before after) :
    attenuator.Fits after value := by
  obtain ⟨⟨maximum, known, inside⟩, back⟩ := fits
  exact ⟨⟨maximum, (kept.field Simulator.maximum fun _ => rfl).trans known, inside⟩, back⟩

/-- An attenuator reads what it read as long as nobody disturbs it. -/
theorem Reads.keep (reads : attenuator.Reads before value)
    (undisturbed : attenuator.Undisturbed before after) : attenuator.Reads after value := by
  obtain ⟨raw, stored, back⟩ := reads
  exact ⟨raw, undisturbed.stored.trans stored, back⟩

/-- Attenuators are kept when sessions stay and no instrument changes more than its log and the
levels of its channels. -/
theorem Kept.of_benches (session : ∀ id, after.session id = before.session id)
    (settings : ∀ id, (after.simulator id).settings = (before.simulator id).settings)
    (channels : ∀ id, (after.simulator id).values.length = (before.simulator id).values.length) :
    attenuator.Kept before after := by
  have behind : attenuator.simulatorId after = attenuator.simulatorId before :=
    congrArg Session.simulator (session attenuator.session)
  refine ⟨session _, ?_, ?_⟩
  · rw [simulator, behind]
    exact settings _
  · rw [simulator, behind]
    exact channels _

/-- A command whose driver crashes is one to the channel on which it does. -/
theorem trapped_of_crashes (crashes : attenuator.verdict value bench = .crashes) :
    (bench.session attenuator.session).trap.onSet = some attenuator.index := by
  by_contra elsewhere
  obtain ⟨-, decided⟩ := of_passed (.inl crashes)
  rw [if_neg elsewhere, crashes] at decided
  cases decided

/-- A command that reaches an instrument without pending refusals keeps every attenuator. -/
theorem kept_driven (idle : (attenuator.simulator bench).refusedSets = 0) (value : Level)
    (other : Attenuator) : other.Kept bench (attenuator.driven value bench) := by
  refine .of_benches (fun _ => rfl) (fun id => ?_) fun id => ?_
  · rw [simulator_driven]
    by_cases own : id = attenuator.simulatorId bench
    · rw [if_pos own, own, response_simulator]
      simp only [Simulator.settings, simulator] at idle ⊢
      rw [idle]
    · rw [if_neg own]
  · rw [simulator_driven]
    by_cases own : id = attenuator.simulatorId bench
    · rw [if_pos own, own, response_simulator]
      unfold Simulator.storedAfter
      split
      · exact List.length_set
      · rfl
    · rw [if_neg own]

namespace Reliable

/-- A command to a reliable attenuator does not crash and keeps every attenuator. -/
theorem set_keeps (reliable : attenuator.Reliable bench) (value : Level) :
    ((attenuator.set value).run bench).1 ≠ .crashed ∧
      ∀ other : Attenuator, other.Kept bench ((attenuator.set value).run bench).2 := by
  have still (other : Attenuator) : other.Kept bench bench := (Undisturbed.refl other bench).toKept
  rw [run_set]
  cases fared : attenuator.verdict value bench with
  | notFinite => exact ⟨nofun, still⟩
  | poisoned => exact ⟨nofun, still⟩
  | maximumUnknown => exact ⟨nofun, still⟩
  | limitExceeded maximum =>
    exact ⟨nofun, fun other => (Undisturbed.record other bench _).toKept⟩
  | crashes => exact absurd (trapped_of_crashes fared) reliable.settable
  | reaches =>
    refine ⟨?_, kept_driven reliable.takesSets value⟩
    cases (attenuator.response value bench).answer <;> exact nofun

end Reliable

namespace Commandable

/-- Whether a commandable attenuator accepts a finite level is decided by the maximum of the
instrument alone. -/
theorem decided (commandable : attenuator.Commandable bench) {maximum : Level}
    (known : (attenuator.simulator bench).maximum = some maximum) (finite : value.isFinite) :
    if maximum < attenuator.raw value then attenuator.Rejects bench value maximum
    else attenuator.Accepts bench value := by
  by_cases above : maximum < attenuator.raw value
  · rw [if_pos above, Rejects, run_set]
    simp [verdict, finite, commandable.free, known, above]
  · rw [if_neg above, Accepts, set_done_iff]
    constructor
    · simp [verdict, finite, commandable.free, known, above, commandable.settable]
    · exact Simulator.set_accepts _ commandable.takesSets commandable.responsive
        commandable.present

end Commandable

namespace Healthy

/-- A healthy attenuator accepts a finite level that fits it. -/
theorem accepts (healthy : attenuator.Healthy bench) (finite : value.isFinite)
    (fits : attenuator.Fits bench value) : attenuator.Accepts bench value := by
  obtain ⟨⟨maximum, known, inside⟩, -⟩ := fits
  simpa only [if_neg inside] using healthy.commandable.decided known finite

end Healthy

namespace Audible

/-- The answer of an instrument to a read disturbs nobody. -/
theorem undisturbed_asked (audible : attenuator.Audible bench) (other : Attenuator) :
    other.Undisturbed bench (attenuator.asked bench) := by
  have logged : (attenuator.reply bench).simulator =
      (attenuator.simulator bench).log (.get attenuator.index) := by
    have idle := audible.takesGets
    rw [reply_simulator, idle, Nat.zero_sub, ← idle]
    rfl
  have behind (id : SimulatorId) {α : Type} (part : Simulator → α)
      (blind : ∀ simulator call, part (simulator.log call) = part simulator) :
      part ((attenuator.asked bench).simulator id) = part (bench.simulator id) := by
    rw [simulator_asked]
    by_cases own : id = attenuator.simulatorId bench
    · rw [if_pos own, logged, blind, own]
      rfl
    · rw [if_neg own]
  exact ⟨⟨rfl, behind _ Simulator.settings fun _ _ => rfl,
    behind _ (fun simulator => simulator.values.length) fun _ _ => rfl⟩,
    behind _ (fun simulator => simulator.values[other.index]?) fun _ _ => rfl⟩

/-- An audible attenuator gives the level that its channel holds without the offset. -/
theorem get_done (audible : attenuator.Audible bench) {raw : Level}
    (stored : (attenuator.simulator bench).values[attenuator.index]? = some raw) :
    attenuator.get.run bench = (.done (raw - attenuator.offset), attenuator.asked bench) := by
  have reaches : attenuator.reading bench = .reaches := by
    rw [reading, audible.free, if_neg Bool.false_ne_true, if_neg audible.readable]
  have answer : (attenuator.reply bench).answer = .ok raw :=
    Simulator.get_answers audible.takesGets audible.responsive stored
  rw [run_get, reaches, answer]
  rfl

/-- An audible attenuator reads a level exactly when its read gives the level. -/
theorem reads_iff (audible : attenuator.Audible bench) (value : Level) :
    ∃ level, attenuator.get.run bench = (.done level, attenuator.asked bench) ∧
      (attenuator.Reads bench value ↔ (level == value) = true) := by
  have stored := List.getElem?_eq_getElem audible.present
  refine ⟨_, audible.get_done stored, fun ⟨raw, held, back⟩ => ?_, fun back => ⟨_, stored, back⟩⟩
  rw [stored] at held
  cases held
  exact back

end Audible

end Attenuator

namespace Group

open Attenuator (Undisturbed)

variable {group : Group} {bench : Bench} {value : Level}

/-- Members that share a channel have equal offsets. -/
def Aligned (group : Group) (bench : Bench) : Prop :=
  ∀ member ∈ group.members, ∀ other ∈ group.members,
    other.simulatorId bench = member.simulatorId bench → other.index = member.index →
      other.offset == member.offset

/-- Commanding reliable members in order does not crash and keeps every attenuator. -/
theorem commandFrom_reliable (group : Group) (value : Level) {members : List Attenuator}
    (reliable : ∀ member ∈ members, member.Reliable bench) (position : Nat) :
    ((group.commandFrom value position members).run bench).1 ≠ .crashed ∧
      ∀ other : Attenuator,
        other.Kept bench ((group.commandFrom value position members).run bench).2 := by
  induction members generalizing bench position with
  | nil =>
    refine ⟨fun crashed => ?_, fun other => (Undisturbed.refl other bench).toKept⟩
    cases crashed
  | cons member rest ih =>
    obtain ⟨sound, kept⟩ := (reliable member List.mem_cons_self).set_keeps value
    unfold commandFrom
    rw [Action.run_bind, Action.run_attempt]
    cases ended : (member.set value).run bench with
    | mk outcome after =>
      rw [ended] at sound kept
      cases outcome with
      | crashed => exact absurd rfl sound
      | failed source =>
        refine ⟨fun crashed => ?_,
          fun other => (kept other).trans (Undisturbed.record other after _).toKept⟩
        cases crashed
      | done =>
        have behind := ih (fun later inside =>
          (reliable later (List.mem_cons_of_mem _ inside)).keep (kept later)) (position + 1)
        exact ⟨behind.1, fun other => (kept other).trans (behind.2 other)⟩

/-- A command to a group of reliable members does not crash and keeps every attenuator. -/
theorem set_reliable (reliable : ∀ member ∈ group.members, member.Reliable bench)
    (value : Level) :
    ((group.set value).run bench).1 ≠ .crashed ∧
      ∀ other : Attenuator, other.Kept bench ((group.set value).run bench).2 := by
  have commanded := group.commandFrom_reliable value reliable 0
  unfold set
  by_cases finite : value.isFinite
  · rw [if_pos finite, Action.run_bind]
    cases ended : (group.commandFrom value 0 group.members).run bench with
    | mk outcome after =>
      rw [ended] at commanded
      cases outcome with
      | crashed => exact absurd rfl commanded.1
      | failed stop => exact ⟨nofun, commanded.2⟩
      | done =>
        exact ⟨nofun, fun other =>
          (commanded.2 other).trans (Undisturbed.record other after _).toKept⟩
  · rw [if_neg finite]
    exact ⟨nofun, fun other => (Undisturbed.refl other bench).toKept⟩

/-- A command to a group of healthy members does not crash and keeps every attenuator. -/
theorem set_healthy (healthy : ∀ member ∈ group.members, member.Healthy bench) (value : Level) :
    ((group.set value).run bench).1 ≠ .crashed ∧
      ∀ other : Attenuator, other.Kept bench ((group.set value).run bench).2 :=
  set_reliable (fun member inside => (healthy member inside).reliable) value

/-- Commanding some of the healthy members of a group keeps every attenuator. -/
theorem reached_keeps (healthy : ∀ member ∈ group.members, member.Healthy bench) (value : Level)
    (position : Nat) (other : Attenuator) :
    other.Kept bench (group.reached value bench position) := by
  induction position generalizing other with
  | zero => exact (Undisturbed.refl other bench).toKept
  | succ position ih =>
    cases found : group.members[position]? with
    | none =>
      have all : group.members.take (position + 1) = group.members.take position := by
        rw [List.take_add_one, found]
        exact List.append_nil _
      unfold reached at ih ⊢
      rw [all]
      exact ih other
    | some member =>
      have well := (healthy member (List.mem_of_getElem? found)).keep (ih member)
      rw [reached_succ found]
      exact (ih other).trans ((well.reliable.set_keeps value).2 other)

/-- The channel of a member is addressed by a member, and by one of them last. -/
theorem lastAddressing_of_mem {member : Attenuator} (inside : member ∈ group.members)
    (bench : Bench) :
    ∃ other, group.lastAddressing? bench group.size (member.simulatorId bench) member.index =
        some other ∧ other ∈ group.members ∧
      other.simulatorId bench = member.simulatorId bench ∧ other.index = member.index := by
  unfold lastAddressing? size
  rw [List.take_length]
  have own : member ∈ group.members.filter fun other =>
      other.simulatorId bench = member.simulatorId bench ∧ other.index = member.index := by
    simp [inside]
  obtain ⟨other, last⟩ :=
    Option.isSome_iff_exists.mp (List.getLast?_isSome.mpr (List.ne_nil_of_mem own))
  obtain ⟨belongs, shared⟩ := List.mem_filter.mp (List.mem_of_getLast? last)
  exact ⟨other, last, belongs, by simpa using shared⟩

/-- A finite level that fits every member of a group of healthy members is accepted by all of them,
and then every member reads it, although members may share channels. -/
theorem set_done (healthy : ∀ member ∈ group.members, member.Healthy bench)
    (aligned : group.Aligned bench) (finite : value.isFinite)
    (fits : ∀ member ∈ group.members, member.Fits bench value) :
    ∃ after, (group.set value).run bench = (.done { group with lastCommanded := value }, after) ∧
      ∀ member ∈ group.members, member.Reads after value := by
  have accepts (position : Nat) (member : Attenuator)
      (found : group.members[position]? = some member) :
      ((member.set value).run (group.reached value bench position)).1 = .done () := by
    have inside := List.mem_of_getElem? found
    have kept := reached_keeps healthy value position member
    exact ((healthy member inside).keep kept).accepts finite ((fits member inside).keep kept)
  obtain ⟨count, result, accepted, ends, commanded⟩ := set_endsAt group bench finite
  cases ends with
  | failed found failed => rw [accepts _ _ found] at failed; cases failed
  | crashed found crashed => rw [accepts _ _ found] at crashed; cases crashed
  | last =>
    refine ⟨_, commanded, fun member inside => ?_⟩
    obtain ⟨other, last, belongs, shared, same⟩ := lastAddressing_of_mem inside bench
    have stored := accepted.stored_eq (member.simulatorId bench) member.index
    unfold storedBefore at stored
    rw [last] at stored
    have step : (bench.simulator (member.simulatorId bench)).step = none :=
      (healthy member inside).step
    rw [step] at stored
    have behind := accepted.simulatorId_eq member
    refine ⟨other.raw value, ?_, ?_⟩
    · rw [Attenuator.simulator, Attenuator.simulatorId, Bench.session_record,
        Bench.simulator_record]
      unfold Attenuator.simulatorId at behind
      rw [behind]
      exact stored
    · exact Level.reads_back (aligned member inside other belongs shared same)
        (fits member inside).2

/-- Whether audible members read a level is answered without a fault, which disturbs nobody, and
the answer says whether all of them read it. -/
theorem allRead_audible {members : List Attenuator}
    (audible : ∀ member ∈ members, member.Audible bench) (value : Level) :
    ∃ answer after, (allRead value members).run bench = (.done answer, after) ∧
      (∀ other : Attenuator, other.Undisturbed bench after) ∧
      (answer = true ↔ ∀ member ∈ members, member.Reads bench value) := by
  induction members generalizing bench with
  | nil =>
    exact ⟨true, bench, rfl, fun other => .refl other bench, fun _ => nofun, fun _ => rfl⟩
  | cons member rest ih =>
    have first := audible member List.mem_cons_self
    obtain ⟨level, ran, reads⟩ := first.reads_iff value
    have still := first.undisturbed_asked
    unfold allRead
    rw [Action.run_bind_done _ ran, List.forall_mem_cons, reads]
    by_cases equal : level == value
    · obtain ⟨answer, after, asked, undisturbed, all⟩ := ih fun later inside =>
        (audible later (List.mem_cons_of_mem _ inside)).keep (still later).toKept
      rw [if_pos equal]
      refine ⟨answer, after, asked, fun other => (still other).trans (undisturbed other), ?_⟩
      have same (later : Attenuator) : later.Reads (member.asked bench) value ↔
          later.Reads bench value :=
        ⟨fun held => held.keep (still later).symm, fun held => held.keep (still later)⟩
      simp only [all, same, equal, true_and]
    · rw [if_neg equal]
      exact ⟨false, member.asked bench, rfl, still, nofun, fun both => absurd both.1 equal⟩

end Group

end Attenuation
