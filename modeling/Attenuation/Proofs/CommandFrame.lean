import Attenuation.Proofs.GroupLookup
import Attenuation.Proofs.Intact

/-!
# What commands leave alone

A command calls the channels that it asks for a level and the channels that it reads, and no other
one. Everything that is not behind such a call is what it was, whether the command is carried out,
fails at any point, or crashes a driver: `Footprint.Confines` says so of two benches. With it goes
what a command leaves of the rack itself, which is the remembered level of the group that it sets
and nothing else.

None of this asks anything of the rack. Its groups may share members and instruments, and its
attenuators need not belong to open sessions.
-/

namespace Attenuation

namespace Footprint

/-- A call through a session is in a footprint: it reads a channel that is read, or it commands the
channel of an attenuator to what the attenuator makes of a level that it is asked for. -/
def Calls (footprint : Footprint) (session : SessionId) : Call → Prop
  | .set index raw => ∃ attenuator value, footprint.asks attenuator value ∧
      attenuator.session = session ∧ attenuator.command value = .set index raw
  | .get index => footprint.reads session index

/-- Between two benches nothing changed but by calls of a footprint. -/
structure Confines (footprint : Footprint) (before after : Bench) : Prop where
  /-- Every session reaches the instrument that it reached. -/
  wiring : ∀ session, (after.session session).simulator = (before.session session).simulator
  /-- A session without calls is what it was. -/
  spared : ∀ session, (∀ call, ¬ footprint.Calls session call) →
    after.session session = before.session session
  /-- An instrument is intact but for the channels that it may be commanded on. -/
  kept : ∀ id, (before.simulator id).Intact (fun index => ∃ session raw,
    footprint.Calls session (.set index raw) ∧ (before.session session).simulator = id)
    (after.simulator id)
  /-- An instrument received only calls of the footprint, through sessions that reach it. -/
  received : ∀ id, ∃ made, (after.simulator id).calls = (before.simulator id).calls ++ made ∧
    ∀ call ∈ made, ∃ session, footprint.Calls session call ∧
      (before.session session).simulator = id

namespace Confines

variable {footprint : Footprint} {before middle after bench : Bench}

/-- Where no instrument changed, no call was received. -/
theorem of_simulator_eq (same : ∀ id, after.simulator id = before.simulator id)
    (wiring : ∀ session, (after.session session).simulator = (before.session session).simulator)
    (spared : ∀ session, (∀ call, ¬ footprint.Calls session call) →
      after.session session = before.session session) : footprint.Confines before after where
  wiring := wiring
  spared := spared
  kept id := by
    rw [same]
    exact .refl _
  received id := by
    rw [same]
    exact ⟨[], (List.append_nil _).symm, fun _ member => absurd member List.not_mem_nil⟩

/-- Where nothing changed, nothing changed by other calls. -/
theorem refl (bench : Bench) : footprint.Confines bench bench :=
  of_simulator_eq (fun _ => rfl) (fun _ => rfl) fun _ _ => rfl

/-- What changed twice by calls of a footprint changed by calls of it. -/
theorem trans (early : footprint.Confines before middle)
    (late : footprint.Confines middle after) : footprint.Confines before after where
  wiring session := (late.wiring session).trans (early.wiring session)
  spared session silent := (late.spared session silent).trans (early.spared session silent)
  kept id := by
    have later := late.kept id
    simp only [early.wiring] at later
    exact (early.kept id).trans later
  received id := by
    obtain ⟨first, logged, allowed⟩ := early.received id
    obtain ⟨second, loggedLater, allowedLater⟩ := late.received id
    simp only [early.wiring] at allowedLater
    refine ⟨first ++ second, by rw [loggedLater, logged, List.append_assoc], fun call member => ?_⟩
    exact (List.mem_append.mp member).elim (allowed call) (allowedLater call)

instance : IsPreorder Bench footprint.Confines where
  refl := refl
  trans _ _ _ := trans

/-- Recorded events change nothing else. -/
theorem record (bench : Bench) (events : List Event) :
    footprint.Confines bench (bench.record events) :=
  of_simulator_eq (fun _ => rfl) (fun _ => rfl) fun _ _ => rfl

/-- A crash changes the session of its call and nothing else. -/
theorem poison {session : SessionId} {call : Call} (allowed : footprint.Calls session call)
    (bench : Bench) : footprint.Confines bench (bench.poison session) := by
  refine of_simulator_eq (fun _ => rfl) (fun other => ?_) fun other silent => ?_
  · rw [Bench.session_poison]
    split
    · rename_i own
      rw [own]
    · rfl
  · rw [Bench.session_poison, if_neg]
    rintro rfl
    exact silent call allowed

/-- The answer of an instrument to a call changes what the call changes. -/
theorem answered {session : SessionId} {call : Call} {simulator : Simulator}
    (allowed : footprint.Calls session call)
    (kept : ∀ changed : Nat → Prop, (∀ index raw, call = .set index raw → changed index) →
      (bench.simulator (bench.session session).simulator).Intact changed simulator)
    (logged : simulator.calls =
      (bench.simulator (bench.session session).simulator).calls ++ [call])
    (events : List Event) :
    footprint.Confines bench
      ((bench.putSimulator (bench.session session).simulator simulator).record events) where
  wiring _ := rfl
  spared _ _ := rfl
  kept id := by
    rw [Bench.simulator_record, Bench.simulator_putSimulator]
    by_cases own : id = (bench.session session).simulator
    · rw [if_pos own, own]
      exact kept _ fun index raw same => ⟨session, raw, same ▸ allowed, rfl⟩
    · rw [if_neg own]
      exact .refl _
  received id := by
    rw [Bench.simulator_record, Bench.simulator_putSimulator]
    by_cases own : id = (bench.session session).simulator
    · rw [if_pos own, own]
      refine ⟨[call], logged, fun other member => ?_⟩
      rw [List.mem_singleton.mp member]
      exact ⟨session, allowed, rfl⟩
    · rw [if_neg own]
      exact ⟨[], (List.append_nil _).symm, fun _ member => absurd member List.not_mem_nil⟩

end Confines

end Footprint

namespace Bench

/-- Between two benches only channels that some attenuators address came to hold another level. -/
def ChangesOnly (channels : List Attenuator) (before after : Bench) : Prop :=
  ∀ id index, ¬ before.Addresses channels id index →
    (after.simulator id).values[index]? = (before.simulator id).values[index]?

/-- Between two benches nothing was done to the instruments but that channels were read which some
attenuators address. -/
structure ReadsOnly (channels : List Attenuator) (before after : Bench) : Prop where
  /-- Every channel holds the level that it held. -/
  values : ∀ id, (after.simulator id).values = (before.simulator id).values
  /-- Every call that was received reads a channel that an attenuator addresses. -/
  received : ∀ id, ∃ made, (after.simulator id).calls = (before.simulator id).calls ++ made ∧
    ∀ call ∈ made, ∃ index, call = .get index ∧ before.Addresses channels id index
  /-- No driver crashed but in the session of an attenuator. -/
  sessions : ∀ session, (∀ attenuator ∈ channels, attenuator.session ≠ session) →
    after.session session = before.session session

end Bench

namespace Footprint.Confines

variable {footprint : Footprint} {before after : Bench} {channels : List Attenuator}

/-- Where some attenuators are asked and no others, only their channels come to hold another
level. -/
theorem changesOnly (confined : footprint.Confines before after)
    (own : ∀ attenuator value, footprint.asks attenuator value → attenuator ∈ channels) :
    before.ChangesOnly channels after := by
  intro id index apart
  refine (confined.kept id).values index ?_
  rintro ⟨_, raw, ⟨attenuator, value, asked, rfl, same⟩, reached⟩
  exact apart ⟨attenuator, own attenuator value asked, reached, (Call.set.inj same).1⟩

/-- Where no attenuator is asked, and the channels of some are read and no others, a call reads one
of these. -/
theorem exists_read {session : SessionId} {call : Call}
    (silent : ∀ attenuator value, ¬ footprint.asks attenuator value)
    (own : ∀ session index, footprint.reads session index →
      ∃ attenuator ∈ channels, attenuator.session = session ∧ attenuator.index = index)
    (called : footprint.Calls session call) :
    ∃ attenuator ∈ channels, attenuator.session = session ∧ call = .get attenuator.index := by
  cases call with
  | set index raw =>
    obtain ⟨attenuator, value, asked, -, -⟩ := called
    exact absurd asked (silent attenuator value)
  | get index =>
    obtain ⟨attenuator, inside, same, rfl⟩ := own session index called
    exact ⟨attenuator, inside, same, rfl⟩

/-- Where no attenuator is asked, and the channels of some are read and no others, only these are
read. -/
theorem readsOnly (confined : footprint.Confines before after)
    (silent : ∀ attenuator value, ¬ footprint.asks attenuator value)
    (own : ∀ session index, footprint.reads session index →
      ∃ attenuator ∈ channels, attenuator.session = session ∧ attenuator.index = index) :
    before.ReadsOnly channels after where
  values id := by
    refine List.ext_getElem? fun index => (confined.kept id).values index ?_
    rintro ⟨_, raw, ⟨attenuator, value, asked, -, -⟩, -⟩
    exact silent attenuator value asked
  received id := by
    obtain ⟨made, logged, allowed⟩ := confined.received id
    refine ⟨made, logged, fun call member => ?_⟩
    obtain ⟨session, called, reached⟩ := allowed call member
    obtain ⟨attenuator, inside, rfl, read⟩ := exists_read silent own called
    exact ⟨attenuator.index, read, attenuator, inside, reached, rfl⟩
  sessions session apart := by
    refine confined.spared session fun call called => ?_
    obtain ⟨attenuator, inside, same, -⟩ := exists_read silent own called
    exact apart attenuator inside same

end Footprint.Confines

namespace Attenuator

variable {footprint : Footprint} {attenuator : Attenuator} {bench : Bench}

/-- A command to an attenuator calls its channel. -/
theorem set_confined {value : Level} (asked : footprint.asks attenuator value) :
    (attenuator.set value).Keeps footprint.Confines bench := by
  have allowed : footprint.Calls attenuator.session (attenuator.command value) :=
    ⟨attenuator, value, asked, rfl, rfl⟩
  refine set_keeps_of Footprint.Confines.record (fun _ => .poison allowed _) fun _ => ?_
  refine (Footprint.Confines.record bench _).trans (.answered allowed (fun changed own => ?_) ?_ _)
  · exact Simulator.Intact.set _ (own attenuator.index _ rfl) _
  · rw [response_simulator]
    rfl

/-- A read of an attenuator calls its channel. -/
theorem get_confined (read : footprint.reads attenuator.session attenuator.index) :
    attenuator.get.Keeps footprint.Confines bench := by
  have allowed : footprint.Calls attenuator.session (.get attenuator.index) := read
  have ran := run_get attenuator bench
  cases fared : attenuator.reading bench with
  | poisoned =>
    rw [fared] at ran
    exact .of_run ran (.refl bench) fun _ _ => trivial
  | crashes =>
    rw [fared] at ran
    exact .of_run ran (.poison allowed bench) fun _ _ => trivial
  | reaches =>
    rw [fared] at ran
    refine .of_run ran (.answered allowed (fun changed _ => ?_) ?_ _) fun _ _ => trivial
    · exact Simulator.Intact.get _ _
    · rw [reply_simulator]
      rfl

end Attenuator

/-- A group that is put in the place of the first group of a name leaves the others where and as they
are. -/
theorem Rack.replaceFirst_append {name : String} {group : Group} {front : List Group}
    (named : group.name = name) (before : ∀ other ∈ front, other.name ≠ name) (changed : Group)
    (back : List Group) :
    replaceFirst name changed (front ++ group :: back) = front ++ changed :: back := by
  induction front with
  | nil => rw [List.nil_append, replaceFirst, if_pos (by simpa using named), List.nil_append]
  | cons first rest ih =>
    have apart : ¬ (first.name == name) = true := by simpa using before first List.mem_cons_self
    rw [List.cons_append, replaceFirst, if_neg apart,
      ih fun other inside => before other (List.mem_cons_of_mem first inside), List.cons_append]

namespace Command

/-- A command changes nothing but by calls of its footprint, and a command that is carried out leaves
its rack. -/
theorem run_confined (command : Command) (rack : Rack) (bench : Bench) :
    (command.run rack).Yields (command.footprint rack).Confines bench
      fun answer _ => answer.2 = command.rackAfter rack :=
  run_yields_of (fun before events => .record before events) command
    (fun _ _ asked _ _ => Attenuator.set_confined asked)
    fun _ read _ _ => Attenuator.get_confined read

/-- The attenuators that a command is for: the members of the group that it names, or the one of the
channel that it names. -/
def targets (command : Command) (rack : Rack) : List Attenuator :=
  match command with
  | .list | .status | .get _ => []
  | .set name _ | .sync name | .check name => (rack.group? name).elim [] Group.members
  | .getChannel instrument index | .setChannel instrument index _ =>
    (rack.attenuator? instrument index).toList

/-- The attenuators that a command asks for a level are among those that it is for. -/
theorem Asks.mem_targets {command : Command} {rack : Rack} {attenuator : Attenuator}
    {value : Level} (asked : command.Asks rack attenuator value) :
    attenuator ∈ command.targets rack := by
  cases command with
  | set name level =>
    obtain ⟨group, found, inside, -⟩ := asked
    simpa [targets, found] using inside
  | sync name =>
    obtain ⟨group, found, inside, -⟩ := asked
    simpa [targets, found] using inside
  | setChannel instrument index level =>
    obtain ⟨found, -⟩ := asked
    simp [targets, found]
  | _ => exact asked.elim

/-- The channels that a command reads are those of attenuators that it is for. -/
theorem Reads.exists_target {command : Command} {rack : Rack} {session : SessionId} {index : Nat}
    (read : command.Reads rack session index) :
    ∃ attenuator ∈ command.targets rack,
      attenuator.session = session ∧ attenuator.index = index := by
  cases command with
  | check name =>
    obtain ⟨group, found, member, inside, same⟩ := read
    exact ⟨member, by simpa [targets, found] using inside, same⟩
  | getChannel instrument channel =>
    obtain ⟨attenuator, found, same⟩ := read
    exact ⟨attenuator, by simp [targets, found], same⟩
  | _ => exact read.elim

/-- A command that is carried out leaves its rack, and any other one the rack that it was given. -/
theorem rackLeft_eq_or (command : Command) (rack : Rack) (bench : Bench) :
    command.rackLeft rack bench = rack ∨
      command.rackLeft rack bench = command.rackAfter rack := by
  have left := (command.run_confined rack bench).2
  unfold rackLeft
  cases ended : ((command.run rack).run bench).1 with
  | done answer => exact .inr (left answer ended)
  | failed fault => exact .inl rfl
  | crashed => exact .inl rfl

/-- **What commands leave alone.** Whatever rack a command is given, and whether it is carried out,
fails or crashes a driver: listing, snapshots and remembered levels change nothing at all. Checking
a group and reading a channel change nothing of the rack and read the channels of the group or that
channel, and nothing else is done to the instruments. Commanding a channel or a group changes no
level but that of the channel or those of the group. No group is changed by it but the one that is
set, the first of its name, and of that one the remembered level alone. -/
theorem run_leaves_rest (command : Command) (rack : Rack) (bench : Bench) :
    let after := ((command.run rack).run bench).2
    let left := command.rackLeft rack bench
    let targets := command.targets rack
    match command with
    | .list | .status | .get _ => left = rack ∧ after = bench
    | .check _ | .getChannel _ _ => left = rack ∧ bench.ReadsOnly targets after
    | .setChannel _ _ _ | .sync _ => left = rack ∧ bench.ChangesOnly targets after
    | .set name value => bench.ChangesOnly targets after ∧ (left = rack ∨
        ∃ front group back, rack.groups = front ++ group :: back ∧ group.name = name ∧
          (∀ other ∈ front, other.name ≠ name) ∧
          left = { rack with groups := front ++ { group with lastCommanded := value } :: back }) := by
  intro after left targets
  have confined : (command.footprint rack).Confines bench after :=
    (command.run_confined rack bench).1
  have changes : bench.ChangesOnly targets after :=
    confined.changesOnly fun _ _ asked => asked.mem_targets
  have reads (silent : ∀ attenuator value, ¬ command.Asks rack attenuator value) :
      bench.ReadsOnly targets after :=
    confined.readsOnly silent fun _ _ read => read.exists_target
  have kept : left = rack ∨ left = command.rackAfter rack := command.rackLeft_eq_or rack bench
  cases command with
  | list =>
    have idle : (Command.list.run rack).Keeps Eq bench :=
      rack.listing_keeps.bind fun _ _ _ _ => .pure trivial
    exact ⟨or_self_iff.mp kept, idle.1.symm⟩
  | status =>
    have idle : (Command.status.run rack).Keeps Eq bench :=
      (rack.status_keeps.mapFault _).bind fun _ _ _ _ => .pure trivial
    exact ⟨or_self_iff.mp kept, idle.1.symm⟩
  | get name =>
    have idle : ((Command.get name).run rack).Keeps Eq bench :=
      (group_yields rack name).bind fun _ _ _ _ => .pure trivial
    exact ⟨or_self_iff.mp kept, idle.1.symm⟩
  | check name => exact ⟨or_self_iff.mp kept, reads fun _ _ => id⟩
  | getChannel instrument index => exact ⟨or_self_iff.mp kept, reads fun _ _ => id⟩
  | setChannel instrument index value => exact ⟨or_self_iff.mp kept, changes⟩
  | sync name => exact ⟨or_self_iff.mp kept, changes⟩
  | set name value =>
    refine ⟨changes, ?_⟩
    cases found : rack.group? name with
    | none =>
      rw [rackAfter, found] at kept
      exact .inl (or_self_iff.mp kept)
    | some group =>
      rw [rackAfter, found] at kept
      refine kept.imp_right fun put => ?_
      obtain ⟨front, back, split, named, before⟩ := Rack.exists_split_of_find found
      have placed := Rack.replaceFirst_append named before
        { group with lastCommanded := value } back
      rw [← split] at placed
      exact ⟨front, group, back, split, named, before,
        put.trans (congrArg (Rack.mk rack.instruments) placed)⟩

end Command

end Attenuation
