import Attenuation.Proofs.Healthy

/-!
# Clients of one actor see whole sets

Any number of clients share an actor whose group sits on channels without faults, while others use
the rest of the bench. A set that a client sends commands all members before the next request is
taken, so from the first set on the members of the group read back what the group remembers, and
whoever asks is told so. The invariant is `Hub.Shared`; it holds the requests that the actor has
carried out, oldest first and with their answers.
-/

namespace Attenuation

variable {allowed : Level → Prop} {group : Group} {bench after : Bench}

/-- A group of healthy members for which the allowed levels fit, and whose members have equal
offsets where they share a channel. -/
structure Group.Steady (allowed : Level → Prop) (group : Group) (bench : Bench) : Prop where
  /-- Nothing is in the way of commands and reads. -/
  healthy : ∀ member ∈ group.members, member.Healthy bench
  /-- Members that share a channel have equal offsets. -/
  aligned : group.Aligned bench
  /-- Allowed levels are finite. -/
  finite : ∀ value, allowed value → value.isFinite
  /-- Allowed levels fit every member. -/
  fits : ∀ value, allowed value → ∀ member ∈ group.members, member.Fits bench value

/-- A group that remembers an allowed level, which its members read back. -/
structure Group.Settled (allowed : Level → Prop) (group : Group) (bench : Bench) : Prop where
  /-- The remembered level is an allowed one. -/
  remembers : allowed group.lastCommanded
  /-- Every member reads it. -/
  reads : ∀ member ∈ group.members, member.Reads bench group.lastCommanded

/-- A request that clients may make: any but a shutdown, and sets of allowed levels. -/
def Request.Proper (allowed : Level → Prop) (request : Request) : Prop :=
  request ≠ .shutdown ∧ ∀ value, request = .set value → allowed value

namespace Group

/-- A steady group is steady as long as its members are kept. -/
theorem Steady.keep (steady : group.Steady allowed bench)
    (kept : ∀ member ∈ group.members, member.Kept bench after) : group.Steady allowed after where
  healthy member inside := (steady.healthy member inside).keep (kept member inside)
  aligned member inside other belongs shared := by
    unfold Attenuator.simulatorId at shared
    rw [(kept member inside).session, (kept other belongs).session] at shared
    exact steady.aligned member inside other belongs shared
  finite := steady.finite
  fits value fit member inside := (steady.fits value fit member inside).keep (kept member inside)

/-- Members that nobody disturbs read what they have read. -/
theorem Settled.keep (settled : group.Settled allowed bench)
    (undisturbed : ∀ member ∈ group.members, member.Undisturbed bench after) :
    group.Settled allowed after :=
  ⟨settled.remembers, fun member inside =>
    (settled.reads member inside).keep (undisturbed member inside)⟩

/-- A set of an allowed level to a steady group is done and leaves the group settled. -/
theorem Steady.set_done (steady : group.Steady allowed bench) {value : Level}
    (fit : allowed value) :
    ∃ after, (group.set value).run bench = (.done { group with lastCommanded := value }, after) ∧
      { group with lastCommanded := value }.Steady allowed after ∧
      { group with lastCommanded := value }.Settled allowed after := by
  obtain ⟨after, ran, reads⟩ := Group.set_done steady.healthy steady.aligned
    (steady.finite value fit) (steady.fits value fit)
  have kept := (group.set_healthy steady.healthy value).2
  rw [ran] at kept
  have same := steady.keep fun member _ => kept member
  exact ⟨after, ran, ⟨same.healthy, same.aligned, same.finite, same.fits⟩, fit, reads⟩

/-- Carrying out a proper request does not crash and keeps a steady group steady. A set is done and
leaves the group settled, a settled group stays settled, and whoever asks it is told so. -/
theorem Steady.carryOut (steady : group.Steady allowed bench) {request : Request}
    (proper : request.Proper allowed) :
    ∃ own answer after, (group.carryOut request : Action Empty (Group × Answer)).run bench =
        (.done (own, answer), after) ∧
      own.members = group.members ∧ own.Steady allowed after ∧
      (group.Settled allowed bench ∨ (∃ value, request = .set value) →
        own.Settled allowed after) ∧
      (∀ value, request = .set value → answer = .ok .done) ∧
      (group.Settled allowed bench → request = .isSynchronized →
        answer = .ok (.synchronized true)) := by
  have noted (events : List Event) : group.Steady allowed (bench.record events) :=
    steady.keep fun member _ => (Attenuator.Undisturbed.record member bench events).toKept
  cases request with
  | shutdown => exact absurd rfl proper.1
  | get =>
    exact ⟨group, _, bench, rfl, rfl, steady, fun settled => settled.resolve_right nofun, nofun,
      nofun⟩
  | set value =>
    obtain ⟨after, ran, still, settled⟩ :=
      (noted [.actorSetting group.name value]).set_done (proper.2 value rfl)
    have carried : (group.carryOut (.set value) : Action Empty (Group × Answer)).run bench =
        (.done ({ group with lastCommanded := value }, .ok .done), after) :=
      Action.run_bind_done _ (Action.run_attempt_done ran)
    exact ⟨_, _, after, carried, rfl, still, fun _ => settled, fun _ _ => rfl, nofun⟩
  | isSynchronized =>
    obtain ⟨answer, after, ran, undisturbed, all⟩ :=
      allRead_audible (fun member inside => (steady.healthy member inside).audible)
        group.lastCommanded
    have carried : (group.carryOut .isSynchronized : Action Empty (Group × Answer)).run bench =
        (.done (group, .ok (.synchronized answer)), after) :=
      Action.run_bind_done _ (Action.run_attempt_done ran)
    refine ⟨_, _, after, carried, rfl, steady.keep fun member _ => (undisturbed member).toKept,
      fun settled => ?_, nofun, fun settled _ => by rw [all.mpr settled.reads]⟩
    exact (settled.resolve_right nofun).keep fun member _ => undisturbed member
  | synchronize =>
    let noted := bench.record [.actorSynchronizing group.name]
    have ready : group.Steady allowed noted :=
      steady.keep fun member _ => (Attenuator.Undisturbed.record member bench _).toKept
    have healthy := group.set_healthy ready.healthy group.lastCommanded
    have restored (settled : group.Settled allowed bench) := ready.set_done settled.remembers
    cases ended : (group.set group.lastCommanded).run noted with
    | mk outcome after =>
      rw [ended] at healthy
      have still := ready.keep fun member _ => healthy.2 member
      cases outcome with
      | crashed => exact absurd rfl healthy.1
      | failed stop =>
        have carried : (group.carryOut .synchronize : Action Empty (Group × Answer)).run bench =
            (.done (group, .error (.ofStop stop)), after) :=
          Action.run_bind_done _ (Action.run_attempt_failed ended)
        refine ⟨_, _, after, carried, rfl, still, fun settled => ?_, nofun, nofun⟩
        obtain ⟨_, ran, -⟩ := restored (settled.resolve_right nofun)
        rw [ended] at ran
        cases ran
      | done own =>
        obtain ⟨-, same⟩ := done_of_set ended
        have carried : (group.carryOut .synchronize : Action Empty (Group × Answer)).run bench =
            (.done (own, .ok .done), after) :=
          Action.run_bind_done _ (Action.run_attempt_done ended)
        subst same
        refine ⟨_, _, after, carried, rfl, ⟨still.healthy, still.aligned, still.finite, still.fits⟩,
          fun settled => ?_, nofun, nofun⟩
        obtain ⟨_, ran, -, reads⟩ := restored (settled.resolve_right nofun)
        rw [ended] at ran
        cases ran
        exact reads

end Group

/-- A move of a client or of the actor, or anything that others do to the bench in between. -/
inductive Turn where
  /-- A client or the actor moves. -/
  | move (move : Move)
  /-- Others change the bench. -/
  | meanwhile (change : Bench → Bench)

/-- Clients make proper requests, and others leave the instruments of a group set as they are and
its channels alone. -/
def Turn.Proper (allowed : Level → Prop) (group : Group) : Turn → Prop
  | .move (.send _ request) => request.Proper allowed
  | .move _ => True
  | .meanwhile change =>
    ∀ bench, ∀ member ∈ group.members, member.Undisturbed bench (change bench)

/-- Whether it is the turn of the actor. -/
def Turn.isServe : Turn → Bool
  | .move made => made.isServe
  | .meanwhile _ => false

/-- What is sent in a turn. -/
def Turn.sent? : Turn → Option (Nat × Request)
  | .move made => made.sent?
  | .meanwhile _ => none

/-- Requests that were carried out one after the other see whole sets: every set was done, and who
asked behind a set whether the group is synchronized was told so. -/
def SeesWholeSets (ran : List (Mail × Answer)) : Prop :=
  ∀ before mail answer later, ran = before ++ (mail, answer) :: later →
    (∀ value, mail.request = .set value → answer = .ok .done) ∧
    (mail.request = .isSynchronized →
      (∃ entry ∈ before, ∃ value, entry.1.request = .set value) →
        answer = .ok (.synchronized true))

/-- Without a request there is nothing to see. -/
theorem SeesWholeSets.nil : SeesWholeSets [] := fun before _ _ _ split => by
  cases before <;> cases split

/-- One request more that sees whole sets. -/
theorem SeesWholeSets.append {ran : List (Mail × Answer)} (whole : SeesWholeSets ran) {mail : Mail}
    {answer : Answer} (done : ∀ value, mail.request = .set value → answer = .ok .done)
    (told : mail.request = .isSynchronized →
      (∃ entry ∈ ran, ∃ value, entry.1.request = .set value) → answer = .ok (.synchronized true)) :
    SeesWholeSets (ran ++ [(mail, answer)]) := by
  intro before known given later split
  rcases List.eq_nil_or_concat later with rfl | ⟨front, last, rfl⟩
  · obtain ⟨rfl, same⟩ := List.append_inj' split rfl
    cases same
    exact ⟨done, told⟩
  · rw [List.concat_eq_append, ← List.cons_append, ← List.append_assoc] at split
    obtain ⟨rfl, -⟩ := List.append_inj' split rfl
    exact whole before known given front rfl

namespace Hub

variable {buffer : Nat} {hub : Hub} {ran : List (Mail × Answer)} {pending : List Mail}

/-- Take a turn. -/
def turn (hub : Hub) : Turn → Action Empty Hub
  | .move made => hub.step made
  | .meanwhile change => do
    Action.modify change
    return hub

/-- Hand a group to an actor and take turns. -/
def runAmong (group : Group) (buffer : Nat) (turns : List Turn) : Action Empty Hub := do
  let actor ← Actor.spawn group buffer
  turns.foldlM turn ⟨actor, []⟩

/-- The answers to requests that were carried out, by their numbers. -/
def given (ran : List (Mail × Answer)) : List (Nat × Answer) :=
  ran.map fun entry => (entry.1.ticket, entry.2)

/-- The actor serves a steady group, which is settled once a set was carried out, or it has lost its
last handle and carried out everything. -/
inductive Serves (allowed : Level → Prop) (group : Group) (hub : Hub) (bench : Bench)
    (ran : List (Mail × Answer)) (pending : List Mail) : Prop where
  /-- The actor serves. -/
  | serving {own : Group} (phase : hub.actor.phase = .serving own)
      (members : own.members = group.members) (steady : own.Steady allowed bench)
      (settled : (∃ entry ∈ ran, ∃ value, entry.1.request = .set value) →
        own.Settled allowed bench)
      (queue : hub.actor.Queued pending (given ran))
  /-- Nobody can ask for anything more. -/
  | left (closed : hub.actor.isClosed) (lost : hub.actor.handles = 0) (all : pending = [])
      (queue : hub.actor.Emptied pending (given ran))

/-- The invariant of clients that share an actor: what was sent are the requests that were carried
out, in this order, and then the ones that are pending. -/
structure Shared (allowed : Level → Prop) (group : Group) (hub : Hub) (bench : Bench)
    (ran : List (Mail × Answer)) (pending : List Mail) : Prop where
  /-- Requests are numbered in the order in which they were sent. -/
  tickets : hub.mails.map Mail.ticket = List.range hub.sent.length
  /-- The next number is the next one in the order. -/
  next : hub.actor.nextTicket = hub.sent.length
  /-- The mailbox holds something. -/
  capacity : 0 < hub.actor.capacity
  /-- Nothing is lost or reordered. -/
  order : hub.mails = ran.map Prod.fst ++ pending
  /-- Everything that was sent is proper. -/
  proper : ∀ mail ∈ hub.mails, mail.request.Proper allowed
  /-- What was carried out has seen whole sets. -/
  whole : SeesWholeSets ran
  /-- The actor and its queue. -/
  serves : hub.Serves allowed group bench ran pending

/-- A new actor shares a steady group. -/
theorem Shared.spawned (steady : group.Steady allowed bench) (buffer : Nat) :
    ∃ actor after, (Actor.spawn group buffer : Action Empty Actor).run bench =
        (.done actor, after) ∧
      Shared allowed group ⟨actor, []⟩ after [] [] := by
  refine ⟨_, _, rfl, rfl, rfl, ?_, rfl, nofun, .nil, .serving rfl rfl ?_ nofun ?_⟩
  · exact Nat.lt_of_lt_of_le Nat.one_pos (Nat.le_max_right buffer 1)
  · exact steady.keep fun member _ => (Attenuator.Undisturbed.record member bench _).toKept
  · exact ⟨rfl, Nat.zero_le _, fun waits => absurd rfl waits, List.Perm.refl _⟩

/-- A client that has a handle can send a proper request. -/
theorem Shared.send (shared : hub.Shared allowed group bench ran pending)
    (handle : hub.actor.handles ≠ 0) (client : Nat) {request : Request}
    (proper : request.Proper allowed) :
    Shared allowed group
      ⟨(hub.actor.send request).2,
        hub.sent ++ [⟨client, ⟨(hub.actor.send request).1, request⟩⟩]⟩ bench ran
      (pending ++ [⟨hub.actor.nextTicket, request⟩]) := by
  obtain ⟨tickets, next, capacity, order, known, whole, serves⟩ := shared
  obtain ⟨ticket, later, bounded, held⟩ := hub.actor.send_frame request
  generalize made : (⟨(hub.actor.send request).2,
    hub.sent ++ [⟨client, ⟨(hub.actor.send request).1, request⟩⟩]⟩ : Hub) = posted
  have sender : posted.actor = (hub.actor.send request).2 := by rw [← made]
  have count : posted.sent.length = hub.sent.length + 1 := by simp [← made]
  have mails : posted.mails = hub.mails ++ [⟨hub.actor.nextTicket, request⟩] := by
    simp [← made, Hub.mails, ticket]
  refine ⟨?_, ?_, ?_, ?_, ?_, whole, ?_⟩
  · rw [mails, List.map_append, tickets, count, List.range_succ, next]
    rfl
  · rw [sender, later, next, count]
  · rw [sender, bounded]
    exact capacity
  · rw [mails, order, List.append_assoc]
  · rw [mails]
    intro mail inside
    rcases List.mem_append.mp inside with early | last
    · exact known mail early
    · rw [List.mem_singleton.mp last]
      exact proper
  · cases serves with
    | left closed lost => exact absurd lost handle
    | serving phase members steady settled queue =>
      refine .serving (by rw [sender, Actor.phase_send, phase]) members steady settled ?_
      rw [sender]
      exact queue.send phase request

/-- Handles come and go, and none comes back after the last one was dropped. -/
theorem Shared.handles (shared : hub.Shared allowed group bench ran pending) (count : Nat)
    (lost : hub.actor.handles = 0 → count = 0) :
    Shared allowed group { hub with actor := { hub.actor with handles := count } } bench ran
      pending := by
  obtain ⟨tickets, next, capacity, order, known, whole, serves⟩ := shared
  refine ⟨tickets, next, capacity, order, known, whole, ?_⟩
  cases serves with
  | serving phase members steady settled queue =>
    exact .serving phase members steady settled
      ⟨queue.order, queue.bound, queue.full, queue.answered⟩
  | left closed gone all queue =>
    exact .left closed (lost gone) all ⟨queue.mailbox, queue.waiting, queue.answered⟩

/-- Others may do what they like as long as they leave the group alone. -/
theorem Shared.meanwhile (shared : hub.Shared allowed group bench ran pending)
    (undisturbed : ∀ member ∈ group.members, member.Undisturbed bench after) :
    hub.Shared allowed group after ran pending := by
  obtain ⟨tickets, next, capacity, order, known, whole, serves⟩ := shared
  refine ⟨tickets, next, capacity, order, known, whole, ?_⟩
  cases serves with
  | left closed lost all queue => exact .left closed lost all queue
  | serving phase members steady settled queue =>
    rw [← members] at undisturbed
    refine .serving phase members (steady.keep fun member inside =>
      (undisturbed member inside).toKept) (fun set => (settled set).keep undisturbed) queue

/-- Proper requests are not acknowledged before they are carried out. -/
theorem acknowledgements_of_proper {mails : List Mail}
    (proper : ∀ mail ∈ mails, mail.request.Proper allowed) :
    Actor.acknowledgements mails = [] := by
  have none : mails.filter Actor.isShutdown = [] := by
    rw [List.filter_eq_nil_iff]
    intro mail inside asked
    exact (proper mail inside).1 (Actor.isShutdown_iff.mp asked)
  unfold Actor.acknowledgements
  rw [none]
  rfl

/-- The request at hand is the first pending one, and it is proper. -/
theorem Shared.take (shared : hub.Shared allowed group bench ran pending)
    (queue : hub.actor.Queued pending (given ran)) {mail : Mail} {rest : List Mail}
    (mailbox : hub.actor.mailbox = mail :: rest) :
    mail.request.Proper allowed ∧ ∃ later, pending = mail :: later ∧
      { hub.actor with mailbox := rest }.refill.Queued later (given ran) := by
  obtain ⟨later, split, taken⟩ := queue.take mailbox
  have inside : mail ∈ hub.mails := by
    rw [shared.order, split]
    exact List.mem_append_right _ List.mem_cons_self
  have proper := shared.proper mail inside
  have alone : ∀ other ∈ [mail], other.request.Proper allowed := by simpa using proper
  have quiet : Actor.acknowledgements [mail] = [] := acknowledgements_of_proper alone
  rw [quiet, List.append_nil] at taken
  exact ⟨proper, later, split, taken⟩

/-- A step of the actor carries out the request at hand, if there is one. -/
theorem Shared.serve (shared : hub.Shared allowed group bench ran pending) {actor : Actor}
    (step : hub.actor.Step bench actor after) :
    ∃ later left, Shared allowed group { hub with actor } after later left ∧
      (left = [] ∧ later = ran ∨ later.length = ran.length + 1) := by
  cases serves : shared.serves with
  | left closed lost all queue =>
    obtain ⟨rfl, rfl⟩ := step.eq_of_closed closed
    exact ⟨ran, pending, shared, .inl ⟨all, rfl⟩⟩
  | @serving own phase members steady settled queue =>
    cases step with
    | closed closed =>
      unfold Actor.isClosed at closed
      rw [phase] at closed
      cases closed
    | idle _ mailbox =>
      exact ⟨ran, pending, shared, .inl ⟨queue.all_of_idle shared.capacity mailbox, rfl⟩⟩
    | @abandoned stopping _ mailbox lost =>
      have all := queue.all_of_idle shared.capacity mailbox
      have emptied := queue.close (.stopped stopping)
      have stopped := hub.actor.close_eq (.stopped stopping)
      refine ⟨ran, pending, ⟨shared.tickets, ?_, ?_, shared.order, shared.proper, shared.whole,
        .left ?_ ?_ all emptied⟩, .inl ⟨all, rfl⟩⟩
      · rw [stopped]
        exact shared.next
      · rw [stopped]
        exact shared.capacity
      · rw [stopped]
        rfl
      · rw [stopped]
        exact lost
    | shutdown _ mailbox asked => exact absurd asked (shared.take queue mailbox).1.1
    | crashed serving mailbox _ crashed =>
      rw [phase] at serving
      cases serving
      obtain ⟨_, _, _, carried, -⟩ := steady.carryOut (shared.take queue mailbox).1
      rw [crashed] at carried
      cases carried
    | @answered _ result mail rest value _ serving mailbox _ answered =>
      rw [phase] at serving
      cases serving
      obtain ⟨proper, later, rfl, taken⟩ := shared.take queue mailbox
      obtain ⟨_, _, _, carried, same, still, synced, done, told⟩ := steady.carryOut proper
      rw [answered] at carried
      cases carried
      have sets : (∃ entry ∈ ran ++ [(mail, value)], ∃ level, entry.1.request = .set level) →
          result.Settled allowed after := by
        rintro ⟨entry, inside, set⟩
        rcases List.mem_append.mp inside with early | last
        · exact synced (.inl (settled ⟨entry, early, set⟩))
        · rw [List.mem_singleton.mp last] at set
          exact synced (.inr set)
      have queued := (taken.withPhase (.serving result)).answer mail.ticket value
      have one : given (ran ++ [(mail, value)]) = given ran ++ [(mail.ticket, value)] :=
        List.map_append
      rw [← one] at queued
      refine ⟨ran ++ [(mail, value)], later, ⟨shared.tickets, ?_, ?_, ?_, shared.proper,
        shared.whole.append done fun asked set => told (settled set) asked,
        .serving rfl (same.trans members) still sets queued⟩, .inr List.length_append⟩
      · rw [Actor.answer, Actor.refill_eq]
        exact shared.next
      · rw [Actor.answer, Actor.refill_eq]
        exact shared.capacity
      · rw [List.map_append, List.append_assoc]
        exact shared.order

/-- Every turn keeps the invariant, and the actor carries out a request in each of its own until
none is left. -/
theorem Shared.turn (shared : hub.Shared allowed group bench ran pending) {turn : Turn}
    (proper : turn.Proper allowed group) :
    ∃ next left later rest, (hub.turn turn).run bench = (.done next, left) ∧
      next.Shared allowed group left later rest ∧ hub.sent <+: next.sent ∧
      min hub.sent.length (ran.length + [turn].countP Turn.isServe) ≤ later.length := by
  have still : min hub.sent.length (ran.length + 0) ≤ ran.length := Nat.min_le_right _ _
  cases turn with
  | meanwhile change =>
    exact ⟨hub, change bench, ran, pending, rfl, shared.meanwhile (proper bench), List.prefix_rfl,
      still⟩
  | move made =>
    cases made with
    | send client request =>
      simp only [Hub.turn, Hub.step]
      by_cases gone : hub.actor.handles = 0
      · rw [if_pos gone]
        exact ⟨hub, bench, ran, pending, rfl, shared, List.prefix_rfl, still⟩
      · rw [if_neg gone]
        exact ⟨_, bench, ran, _, rfl, shared.send gone client proper, List.prefix_append _ _,
          still⟩
    | serve =>
      obtain ⟨actor, left, served, step⟩ := hub.actor.serve_step bench
      obtain ⟨later, rest, kept, progress⟩ := shared.serve step
      refine ⟨_, left, later, rest, Action.run_bind_done _ served, kept, List.prefix_rfl, ?_⟩
      have one : [Turn.move Move.serve].countP Turn.isServe = 1 := rfl
      rcases progress with ⟨rfl, rfl⟩ | more
      · have all := congrArg List.length kept.order
        rw [length_mails, List.append_nil, List.length_map] at all
        exact Nat.le_trans (Nat.min_le_left _ _) (Nat.le_of_eq all)
      · omega
    | addHandle =>
      simp only [Hub.turn, Hub.step]
      by_cases gone : hub.actor.handles = 0
      · rw [if_pos gone]
        exact ⟨hub, bench, ran, pending, rfl, shared, List.prefix_rfl, still⟩
      · rw [if_neg gone]
        exact ⟨_, bench, ran, pending, rfl, shared.handles _ fun lost => absurd lost gone,
          List.prefix_rfl, still⟩
    | dropHandle =>
      exact ⟨_, bench, ran, pending, rfl, shared.handles _ fun lost => by rw [lost],
        List.prefix_rfl, still⟩

/-- Any turns keep the invariant, and the actor carries out a request in each of its own until
none is left. -/
theorem Shared.turns (shared : hub.Shared allowed group bench ran pending) {turns : List Turn}
    (proper : ∀ turn ∈ turns, turn.Proper allowed group) :
    ∃ last left later rest, (turns.foldlM Hub.turn hub : Action Empty Hub).run bench =
        (.done last, left) ∧
      last.Shared allowed group left later rest ∧ hub.sent <+: last.sent ∧
      min hub.sent.length (ran.length + turns.countP Turn.isServe) ≤ later.length := by
  induction turns generalizing hub bench ran pending with
  | nil =>
    exact ⟨hub, bench, ran, pending, rfl, shared, List.prefix_rfl, Nat.min_le_right _ _⟩
  | cons turn others ih =>
    obtain ⟨next, between, middle, waiting, taken, kept, sent, one⟩ :=
      shared.turn (proper turn List.mem_cons_self)
    obtain ⟨last, left, later, rest, went, still, more, reached⟩ :=
      ih kept fun other inside => proper other (List.mem_cons_of_mem _ inside)
    refine ⟨last, left, later, rest, ?_, still, sent.trans more, ?_⟩
    · rw [List.foldlM_cons, Action.run_bind_done _ taken]
      exact went
    · have length := sent.length_le
      have steps : (turn :: others).countP Turn.isServe =
          [turn].countP Turn.isServe + others.countP Turn.isServe :=
        @List.countP_append Turn Turn.isServe [turn] others
      omega

/-- Every turn sends what it says, while there is a handle. -/
theorem Posted.turns {sends : List (Nat × Request)} (posted : hub.Posted sends)
    {turns : List Turn} {last : Hub}
    (went : (turns.foldlM Hub.turn hub : Action Empty Hub).run bench = (.done last, after)) :
    last.Posted (sends ++ turns.filterMap Turn.sent?) := by
  induction turns generalizing hub bench sends with
  | nil =>
    cases went
    rw [List.filterMap_nil, List.append_nil]
    exact posted
  | cons turn others ih =>
    rw [List.foldlM_cons] at went
    obtain ⟨next, between, taken, rest⟩ := Action.run_bind_eq_done.mp went
    cases turn with
    | meanwhile change =>
      cases taken
      exact ih posted rest
    | move made =>
      have behind := ih (posted.step taken) rest
      rw [List.append_assoc] at behind
      cases sent : made.sent? with
      | none => simpa [Turn.sent?, sent] using behind
      | some send => simpa [Turn.sent?, sent] using behind

/-- Exactly the requests that were carried out are answered, each with its own answer. -/
theorem Shared.answer_iff (shared : hub.Shared allowed group bench ran pending) {ticket : Nat}
    {value : Answer} :
    hub.actor.answer? ticket = some value ↔ ∃ mail, (mail, value) ∈ ran ∧ mail.ticket = ticket := by
  have answered : hub.actor.answers.Perm (given ran) := by
    cases shared.serves with
    | serving _ _ _ _ queue =>
      have proper : ∀ mail ∈ hub.actor.mailbox, mail.request.Proper allowed := by
        intro mail inside
        refine shared.proper mail ?_
        rw [shared.order, ← queue.order]
        exact List.mem_append_right _ (List.mem_append_left _ inside)
      have quiet : Actor.acknowledgements hub.actor.mailbox = [] :=
        acknowledgements_of_proper proper
      have answered := queue.answered
      rw [quiet, List.append_nil] at answered
      exact answered
    | left _ _ all queue =>
      have answered := queue.answered
      rw [all, Actor.refusals, List.map_nil, List.append_nil] at answered
      exact answered
  have distinct : (hub.actor.answers.map Prod.fst).Nodup := by
    have tickets := shared.tickets
    rw [shared.order, List.map_append, List.map_map] at tickets
    have whole : (ran.map (Mail.ticket ∘ Prod.fst) ++ pending.map Mail.ticket).Nodup :=
      tickets ▸ List.nodup_range
    rw [(answered.map Prod.fst).nodup_iff, given, List.map_map]
    exact (List.nodup_append.mp whole).1
  unfold Actor.answer?
  rw [lookup_eq_some distinct, answered.mem_iff]
  unfold given
  rw [List.mem_map]
  constructor
  · rintro ⟨⟨mail, found⟩, inside, same⟩
    cases same
    exact ⟨mail, inside, rfl⟩
  · rintro ⟨mail, inside, rfl⟩
    exact ⟨(mail, value), inside, rfl⟩

/-- The first requests that were sent are those that were carried out. -/
theorem Shared.is_answered (shared : hub.Shared allowed group bench ran pending) {ticket : Nat}
    (early : ticket < ran.length) : (hub.actor.answer? ticket).isSome := by
  have tickets := congrArg (fun list => list[ticket]?) shared.tickets
  have order := congrArg List.length shared.order
  rw [length_mails, List.length_append, List.length_map] at order
  rw [shared.order, List.map_append, List.map_map,
    List.getElem?_append_left (by rw [List.length_map]; exact early), List.getElem?_map,
    List.getElem?_eq_getElem early, List.getElem?_range (by omega)] at tickets
  have found := shared.answer_iff.mpr
    ⟨ran[ticket].1, List.getElem_mem early, Option.some.inj tickets⟩
  rw [found]
  rfl

/-- **Clients of one actor see whole sets.** Take a steady group and hand it to an actor with any
buffer. Let any number of clients make proper requests and the actor serve them in any interleaving,
while others do anything in between that leaves the channels of the group alone. The requests that
the actor has carried out are the first ones that were sent, in this order, and exactly these are
answered. Every set among them was done, and everyone who asked behind a set whether the group is
synchronized was told so, whichever sets were carried out in between. Nobody waits forever: as many
steps of the actor as there are requests, among any other turns, answer them all. -/
theorem runAmong_sees_whole_sets (allowed : Level → Prop) (group : Group) (buffer : Nat)
    (start : Bench) (turns : List Turn) (steady : group.Steady allowed start)
    (proper : ∀ turn ∈ turns, turn.Proper allowed group) :
    ∃ hub after ran pending, (runAmong group buffer turns).run start = (.done hub, after) ∧
      hub.Posted (turns.filterMap Turn.sent?) ∧
      hub.mails.map Mail.ticket = List.range hub.sent.length ∧
      hub.mails = ran.map Prod.fst ++ pending ∧
      (∀ ticket value, hub.actor.answer? ticket = some value ↔
        ∃ mail, (mail, value) ∈ ran ∧ mail.ticket = ticket) ∧
      SeesWholeSets ran ∧
      ∀ more : List Turn, (∀ turn ∈ more, turn.Proper allowed group) →
        hub.sent.length ≤ more.countP Turn.isServe →
        ∃ last left, (runAmong group buffer (turns ++ more)).run start = (.done last, left) ∧
          ∀ ticket < hub.sent.length, (last.actor.answer? ticket).isSome := by
  obtain ⟨actor, between, spawned, shared⟩ := Shared.spawned steady buffer
  obtain ⟨hub, after, ran, pending, went, shared, -, -⟩ := shared.turns proper
  have nothing : Posted ⟨actor, []⟩ [] := ⟨List.prefix_rfl, fun _ => rfl⟩
  refine ⟨hub, after, ran, pending, ?_, nothing.turns went, shared.tickets, shared.order,
    fun _ _ => shared.answer_iff, shared.whole, fun more others enough => ?_⟩
  · unfold runAmong
    rw [Action.run_bind_done _ spawned]
    exact went
  obtain ⟨last, left, later, rest, further, still, -, reached⟩ := shared.turns others
  refine ⟨last, left, ?_, fun ticket sent => still.is_answered (by omega)⟩
  unfold runAmong
  rw [Action.run_bind_done _ spawned, List.foldlM_append, Action.run_bind_done _ went]
  exact further

/-- Three members on one instrument, two of which share a channel. -/
def twins : Group where
  name := "twins"
  members := [⟨0, "SIM-4", 0, 0.5, none⟩, ⟨0, "SIM-4", 1, 1.5, none⟩, ⟨0, "SIM-4", 0, 0.5, none⟩]
  lastCommanded := 0.0

/-- The bench of these members. -/
def twinBench : Bench := (Bench.empty.connect ⟨.standard, .none, false⟩).2

/-- One client sets the group and another one asks it, while somebody drives another channel. -/
def twinTurns : List Turn :=
  [.move (.send 0 (.set 12.0)), .move (.send 1 .isSynchronized), .move .serve,
    .meanwhile fun bench => bench.changeSimulator 0 fun simulator => simulator.force 3 7.0,
    .move .serve]

/-- Somebody drives another channel of an instrument, and its members are not disturbed. -/
theorem undisturbed_force (member : Attenuator) {index : Nat} (apart : member.index ≠ index)
    (bench : Bench) (id : SimulatorId) (value : Level) :
    member.Undisturbed bench
      (bench.changeSimulator id fun simulator => simulator.force index value) := by
  have behind {α : Type} (part : Simulator → α)
      (blind : ∀ simulator : Simulator, part (simulator.force index value) = part simulator) :
      part (member.simulator
        (bench.changeSimulator id fun simulator => simulator.force index value)) =
          part (member.simulator bench) := by
    unfold Attenuator.simulator Attenuator.simulatorId Bench.changeSimulator
    rw [Bench.session_putSimulator, Bench.simulator_putSimulator]
    by_cases own : (bench.session member.session).simulator = id
    · rw [if_pos own, blind, own]
    · rw [if_neg own]
  exact ⟨⟨rfl, behind Simulator.settings fun _ => rfl,
    behind (fun simulator => simulator.values.length) fun _ => List.length_set⟩,
    behind (fun simulator => simulator.values[member.index]?) fun _ =>
      List.getElem?_set_ne apart.symm⟩

/-- The client that asks behind the set is answered, and has seen it whole. -/
theorem runAmong_sees_whole_sets_twins :
    twins.Steady (fun level => level = 12.0) twinBench ∧
      (∀ turn ∈ twinTurns, turn.Proper (fun level => level = 12.0) twins) ∧
      ∃ hub after ran mail answer,
        (runAmong twins 1 twinTurns).run twinBench = (.done hub, after) ∧
        hub.actor.answer? 1 = some answer ∧ (mail, answer) ∈ ran ∧ mail.ticket = 1 ∧
        SeesWholeSets ran := by
  have healthy (index : Nat) (inside : index < 4) (offset : Level) :
      (⟨0, "SIM-4", index, offset, none⟩ : Attenuator).Healthy twinBench :=
    ⟨rfl, nofun, nofun, rfl, rfl, rfl, rfl, inside⟩
  have steady : twins.Steady (fun level => level = 12.0) twinBench := by
    refine ⟨?_, by unfold Group.Aligned; decide +kernel, ?_, ?_⟩
    · simp only [twins, List.forall_mem_cons]
      exact ⟨healthy 0 (by decide) _, healthy 1 (by decide) _, healthy 0 (by decide) _, nofun⟩
    · rintro _ rfl
      decide
    · rintro _ rfl
      simp only [twins, List.forall_mem_cons]
      exact ⟨⟨⟨95.0, rfl, by decide⟩, by decide⟩, ⟨⟨95.0, rfl, by decide⟩, by decide⟩,
        ⟨⟨95.0, rfl, by decide⟩, by decide⟩, nofun⟩
  have apart : ∀ member ∈ twins.members, member.index ≠ 3 := by decide
  have proper : ∀ turn ∈ twinTurns, turn.Proper (fun level => level = 12.0) twins := by
    simp only [twinTurns, List.forall_mem_cons]
    refine ⟨⟨nofun, ?_⟩, ⟨nofun, nofun⟩, trivial, ?_, trivial, nofun⟩
    · rintro _ ⟨⟩
      rfl
    · exact fun bench member inside => undisturbed_force member (apart member inside) bench 0 7.0
  obtain ⟨hub, after, ran, -, went, -, -, -, answers, whole, -⟩ :=
    runAmong_sees_whole_sets _ twins 1 twinBench twinTurns steady proper
  have answered : (((runAmong twins 1 twinTurns).run twinBench).1.value?.bind fun hub =>
      hub.actor.answer? 1).isSome = true := by decide +kernel
  rw [went] at answered
  obtain ⟨answer, given⟩ := Option.isSome_iff_exists.mp answered
  obtain ⟨mail, inside, ticket⟩ := (answers 1 answer).mp given
  exact ⟨steady, proper, hub, after, ran, mail, answer, went, given, inside, ticket, whole⟩

end Hub

end Attenuation
