import Attenuation.Proofs.Actor
import Attenuation.Proofs.Blind

/-!
# An actor does what its group does

Clients send requests to an actor and the actor serves them, in any interleaving. The same requests
can be carried out one at a time on the group itself (`Group.serveInOrder`). The two agree: at every
moment there is a number of requests that were taken out of the queue, in the order in which they
were sent, and the bench, the group and the answers are those of the direct run over exactly
these requests. The invariant is `Hub.Follows`; one lemma for each kind of move keeps it.
-/

namespace Attenuation

/-- Carry out a request directly on a group. -/
def Group.answerDirectly (group : Group) : Request → Action Empty (Group × Answer)
  | .set value => do
    match ← (group.set value).attempt with
    | .ok after => return (after, .ok .done)
    | .error stop => return (group, .error (.ofStop stop))
  | .get => return (group, .ok (.level group.lastCommanded))
  | .isSynchronized => do
    match ← group.isSynchronized.attempt with
    | .ok value => return (group, .ok (.synchronized value))
    | .error fault => return (group, .error (.operation fault))
  | .synchronize => do
    match ← group.synchronize.attempt with
    | .ok after => return (after, .ok .done)
    | .error stop => return (group, .error (.ofStop stop))
  | .shutdown => return (group, .ok .done)

/-- Where a direct run is: what became of the group, the answers so far, and the bench. -/
structure Service where
  /-- What became of the group. -/
  phase : ActorPhase
  /-- The answers so far, oldest first. -/
  answers : List Answer
  /-- The bench. -/
  bench : Bench

/-- Carry out one request more, unless a shutdown or a crash ended the run. -/
def Service.next (service : Service) (request : Request) : Service :=
  match service.phase with
  | .serving group =>
    match request with
    | .shutdown => ⟨.stopped group, service.answers ++ [.ok .done], service.bench⟩
    | request =>
      match (group.answerDirectly request).run service.bench with
      | (.done (after, answer), bench) => ⟨.serving after, service.answers ++ [answer], bench⟩
      | (.failed fault, _) => fault.elim
      | (.crashed, bench) => ⟨.crashed, service.answers ++ [.error .actorClosed], bench⟩
  | _ => service

namespace Service

variable {service : Service} {group : Group}

/-- A shutdown ends the run with the group as it is. -/
theorem next_shutdown (serving : service.phase = .serving group) :
    service.next .shutdown =
      ⟨.stopped group, service.answers ++ [.ok .done], service.bench⟩ := by
  unfold next
  rw [serving]

/-- Another request is answered by the group. -/
theorem next_of_done (serving : service.phase = .serving group) {request : Request}
    (other : request ≠ .shutdown) {result : Group × Answer} {bench : Bench}
    (ran : (group.answerDirectly request).run service.bench = (.done result, bench)) :
    service.next request = ⟨.serving result.1, service.answers ++ [result.2], bench⟩ := by
  unfold next
  rw [serving]
  cases request with
  | shutdown => exact absurd rfl other
  | _ => simp only [ran]

/-- A crash ends the run. -/
theorem next_of_crashed (serving : service.phase = .serving group) {request : Request}
    (other : request ≠ .shutdown) {bench : Bench}
    (ran : (group.answerDirectly request).run service.bench = (.crashed, bench)) :
    service.next request =
      ⟨.crashed, service.answers ++ [.error .actorClosed], bench⟩ := by
  unfold next
  rw [serving]
  cases request with
  | shutdown => exact absurd rfl other
  | _ => simp only [ran]

end Service

/-- Carry out requests on a group one at a time, up to the first shutdown. -/
def Group.serveInOrder (group : Group) (bench : Bench) (requests : List Request) : Service :=
  requests.foldl Service.next ⟨.serving group, [], bench⟩

/-- A request as a client sent it. -/
structure Post where
  /-- The client. -/
  client : Nat
  /-- The request with its number. -/
  mail : Mail

/-- An actor and everything that was sent to it. -/
structure Hub where
  /-- The actor. -/
  actor : Actor
  /-- What was sent, oldest first. -/
  sent : List Post

/-- One step of a client or of the actor. -/
inductive Move where
  /-- A client sends a request. -/
  | send (client : Nat) (request : Request)
  /-- The actor takes a step. -/
  | serve
  /-- A client copies its handle. -/
  | addHandle
  /-- A client drops its handle. -/
  | dropHandle

/-- What a client sent, without the number. -/
def Post.content (post : Post) : Nat × Request := (post.client, post.mail.request)

/-- What a move sends. -/
def Move.sent? : Move → Option (Nat × Request)
  | .send client request => some (client, request)
  | _ => none

/-- Whether a move is a step of the actor. -/
def Move.isServe : Move → Bool
  | .serve => true
  | _ => false

/-- What was sent, if it was sent by a client. -/
def sentBy (client : Nat) (content : Nat × Request) : Option Request :=
  if content.1 = client then some content.2 else none

namespace Hub

/-- Everything that was sent, as the actor sees it. -/
def mails (hub : Hub) : List Mail := hub.sent.map Post.mail

/-- Make a move. Only who has a handle can send or copy it. -/
def step (hub : Hub) : Move → Action Empty Hub
  | .send client request =>
    if hub.actor.handles = 0 then return hub
    else
      let (ticket, actor) := hub.actor.send request
      return { actor, sent := hub.sent ++ [⟨client, ⟨ticket, request⟩⟩] }
  | .serve => do return { hub with actor := ← hub.actor.serve }
  | .addHandle =>
    if hub.actor.handles = 0 then return hub
    else return { hub with actor := hub.actor.addHandle }
  | .dropHandle => return { hub with actor := hub.actor.dropHandle }

/-- Hand a group to an actor and make moves. -/
def run (group : Group) (buffer : Nat) (moves : List Move) : Action Empty Hub := do
  let actor ← Actor.spawn group buffer
  moves.foldlM step ⟨actor, []⟩

end Hub

/-- Answers with the numbers of the requests that they belong to. -/
def numbered (first : Nat) (answers : List Answer) : List (Nat × Answer) :=
  (answers.zipIdx first).map Prod.swap

/-- The numbers are consecutive. -/
theorem numbered_tickets (first : Nat) (answers : List Answer) :
    (numbered first answers).map Prod.fst = List.range' first answers.length := by
  simp [numbered, Function.comp_def, List.zipIdx_map_snd]

/-- One answer more has the next number. -/
theorem numbered_append (first : Nat) (answers later : List Answer) :
    numbered first (answers ++ later) =
      numbered first answers ++ numbered (first + answers.length) later := by
  simp [numbered, List.zipIdx_append]

/-- The answer of a number is the one in its place. -/
theorem mem_numbered {answers : List Answer} {ticket : Nat} {value : Answer} :
    (ticket, value) ∈ numbered 0 answers ↔ answers[ticket]? = some value := by
  unfold numbered
  rw [List.mem_map]
  constructor
  · rintro ⟨⟨found, place⟩, member, same⟩
    cases same
    exact List.mk_mem_zipIdx_iff_getElem?.mp member
  · intro found
    exact ⟨(value, ticket), List.mk_mem_zipIdx_iff_getElem?.mpr found, rfl⟩

/-- With distinct numbers the answer of a number is the one that was given. -/
theorem lookup_eq_some {entries : List (Nat × Answer)}
    (distinct : (entries.map Prod.fst).Nodup) {ticket : Nat} {value : Answer} :
    entries.lookup ticket = some value ↔ (ticket, value) ∈ entries := by
  induction entries with
  | nil => simp
  | cons entry rest ih =>
    obtain ⟨key, kept⟩ := entry
    rw [List.map_cons, List.nodup_cons] at distinct
    by_cases here : ticket = key
    · subst here
      have absent : (ticket, value) ∉ rest := fun member =>
        distinct.1 (List.mem_map.mpr ⟨(ticket, value), member, rfl⟩)
      simp [absent, eq_comm]
    · rw [List.lookup_cons, beq_eq_false_iff_ne.mpr here]
      simp [ih distinct.2, here]

/-- Requests that will not be served and have consecutive numbers are answered in order. -/
theorem refusals_eq_numbered {mails : List Mail} {first : Nat}
    (tickets : mails.map Mail.ticket = List.range' first mails.length) :
    Actor.refusals mails =
      numbered first (mails.map fun mail => Actor.closedAnswer mail.request) := by
  induction mails generalizing first with
  | nil => rfl
  | cons mail rest ih =>
    rw [List.map_cons, List.length_cons, List.range'_succ, List.cons.injEq] at tickets
    have later := ih tickets.2
    simp only [Actor.refusals, numbered, List.map_cons, List.zipIdx_cons] at later ⊢
    rw [later, tickets.1]
    rfl

namespace Actor

/-- The queue of an actor that serves: the requests that were not taken yet, in the order in which
they were sent, of which the mailbox holds as many as it can. The answers are those given to the
requests that were taken and the ones to shutdowns that have reached the mailbox. -/
structure Queued (actor : Actor) (pending : List Mail) (given : List (Nat × Answer)) : Prop where
  /-- Nothing is lost, doubled or reordered. -/
  order : actor.mailbox ++ actor.waiting = pending
  /-- The mailbox is bounded. -/
  bound : actor.mailbox.length ≤ actor.capacity
  /-- A request waits only in front of a full mailbox. -/
  full : actor.waiting ≠ [] → actor.mailbox.length = actor.capacity
  /-- Who has been answered. -/
  answered : actor.answers.Perm (given ++ acknowledgements actor.mailbox)

/-- The queue of an actor that has closed: nothing is left, and everything that was not taken was
answered. -/
structure Emptied (actor : Actor) (rest : List Mail) (given : List (Nat × Answer)) : Prop where
  /-- The mailbox is empty. -/
  mailbox : actor.mailbox = []
  /-- Nothing waits. -/
  waiting : actor.waiting = []
  /-- Who has been answered. -/
  answered : actor.answers.Perm (given ++ refusals rest)

variable {actor : Actor} {pending : List Mail} {given : List (Nat × Answer)}

/-- The answers to shutdowns in one mailbox behind another. -/
theorem acknowledgements_append (first second : List Mail) :
    acknowledgements (first ++ second) = acknowledgements first ++ acknowledgements second := by
  simp [acknowledgements, refusals]

/-- A mailbox that takes in what waits is as full as it can be. -/
theorem Queued.refill (order : actor.mailbox ++ actor.waiting = pending)
    (bound : actor.mailbox.length ≤ actor.capacity)
    (answered : actor.answers.Perm (given ++ acknowledgements actor.mailbox)) :
    actor.refill.Queued pending given := by
  rw [refill_eq]
  refine ⟨?_, ?_, fun left => ?_, ?_⟩
  · rw [List.append_assoc, List.take_append_drop, order]
  · have room : actor.free = actor.capacity - actor.mailbox.length := rfl
    simp only [List.length_append, List.length_take]
    omega
  · have room : actor.free = actor.capacity - actor.mailbox.length := rfl
    have long : actor.free < actor.waiting.length :=
      Nat.lt_of_not_le fun short => left (List.drop_eq_nil_of_le short)
    simp only [List.length_append, List.length_take]
    omega
  · rw [acknowledgements_append, ← List.append_assoc]
    exact answered.append_right _

/-- Taking the oldest request out of the mailbox makes room for one that waits. -/
theorem Queued.take (queued : actor.Queued pending given) {mail : Mail} {rest : List Mail}
    (mailbox : actor.mailbox = mail :: rest) :
    ∃ later, pending = mail :: later ∧
      { actor with mailbox := rest }.refill.Queued later
        (given ++ acknowledgements [mail]) := by
  obtain ⟨order, bound, -, answered⟩ := queued
  rw [mailbox] at order bound answered
  refine ⟨rest ++ actor.waiting, order.symm, Queued.refill rfl ?_ ?_⟩
  · exact Nat.le_of_succ_le bound
  · rw [List.append_assoc, ← acknowledgements_append]
    exact answered

/-- Nothing is pending where the mailbox is empty. -/
theorem Queued.all_of_idle (queued : actor.Queued pending given) (room : 0 < actor.capacity)
    (mailbox : actor.mailbox = []) : pending = [] := by
  obtain ⟨order, -, full, -⟩ := queued
  have waiting : actor.waiting = [] := by
    by_cases empty : actor.waiting = []
    · exact empty
    · have length := full empty
      rw [mailbox, List.length_nil] at length
      omega
  rw [← order, mailbox, waiting]
  rfl

/-- A request that is sent goes behind the others. -/
theorem Queued.send (queued : actor.Queued pending given) {group : Group}
    (serving : actor.phase = .serving group) (request : Request) :
    (actor.send request).2.Queued (pending ++ [⟨actor.nextTicket, request⟩]) given := by
  obtain ⟨order, bound, -, answered⟩ := queued
  rw [send_of_serving serving]
  refine Queued.refill ?_ bound answered
  rw [← order, List.append_assoc]

/-- Closing an actor answers everything that was not taken. -/
theorem Queued.close (queued : actor.Queued pending given) (phase : ActorPhase) :
    (actor.close phase).Emptied pending given := by
  obtain ⟨order, -, -, answered⟩ := queued
  rw [close_eq]
  refine ⟨rfl, rfl, ?_⟩
  have parted : (acknowledgements actor.mailbox ++
      refusals (actor.mailbox.filter fun mail => !isShutdown mail)).Perm
        (refusals actor.mailbox) := by
    unfold acknowledgements refusals
    rw [← List.map_append]
    exact (List.filter_append_perm isShutdown actor.mailbox).map _
  have together : refusals pending = refusals actor.mailbox ++ refusals actor.waiting := by
    rw [← order]
    simp [refusals]
  have split : refusals ((actor.mailbox.filter fun mail => !isShutdown mail) ++ actor.waiting) =
      refusals (actor.mailbox.filter fun mail => !isShutdown mail) ++ refusals actor.waiting := by
    simp [refusals]
  rw [together, split]
  have sorted : (given ++ acknowledgements actor.mailbox ++
      (refusals (actor.mailbox.filter fun mail => !isShutdown mail) ++
        refusals actor.waiting)).Perm
          (given ++ (refusals actor.mailbox ++ refusals actor.waiting)) := by
    rw [List.append_assoc, ← List.append_assoc (acknowledgements actor.mailbox)]
    exact (parted.append_right _).append_left given
  exact (answered.append_right _).trans sorted

/-- The queue does not depend on the phase. -/
theorem Queued.withPhase (queued : actor.Queued pending given) (phase : ActorPhase) :
    ({ actor with phase } : Actor).Queued pending given :=
  ⟨queued.order, queued.bound, queued.full, queued.answered⟩

/-- An answer to the request at hand is one answer more. -/
theorem Queued.answer (queued : actor.Queued pending given) (ticket : Nat) (value : Answer) :
    (actor.answer ticket value).Queued pending (given ++ [(ticket, value)]) := by
  obtain ⟨order, bound, full, answered⟩ := queued
  refine ⟨order, bound, full, ?_⟩
  have swapped : (given ++ acknowledgements actor.mailbox ++ [(ticket, value)]).Perm
      (given ++ [(ticket, value)] ++ acknowledgements actor.mailbox) := by
    rw [List.append_assoc, List.append_assoc]
    exact List.perm_append_comm.append_left given
  exact (answered.append_right _).trans swapped

/-- A request that is sent to an actor that has closed is answered behind the others. -/
theorem Emptied.send (emptied : actor.Emptied pending given) (closed : actor.isClosed)
    (request : Request) :
    (actor.send request).2.Emptied (pending ++ [⟨actor.nextTicket, request⟩]) given := by
  obtain ⟨mailbox, waiting, answered⟩ := emptied
  rw [send_of_closed closed]
  refine ⟨mailbox, waiting, ?_⟩
  have split : refusals (pending ++ [⟨actor.nextTicket, request⟩]) =
      refusals pending ++ refusals [⟨actor.nextTicket, request⟩] := by simp [refusals]
  rw [split, ← List.append_assoc]
  exact answered.append_right _

end Actor

namespace Group

/-- What an actor records of a request before it carries it out. -/
def announcements (group : Group) : Request → List Event
  | .set value => [.actorSetting group.name value]
  | .synchronize => [.actorSynchronizing group.name]
  | _ => []

/-- What an actor records of a request is its own. -/
theorem byActor_of_announced (group : Group) (request : Request) :
    ∀ event ∈ group.announcements request, event.byActor := by
  cases request <;> simp [announcements, Event.byActor]

/-- An actor carries out a request as the group does, but for the events in front. -/
theorem run_carryOut (group : Group) (request : Request) (bench : Bench) :
    (group.carryOut request : Action Empty (Group × Answer)).run bench =
      (group.answerDirectly request).run (bench.record (group.announcements request)) := by
  cases request with
  | set value => rfl
  | synchronize => rfl
  | get => exact (congrArg (group.answerDirectly .get).run (Bench.record_nil bench)).symm
  | isSynchronized =>
    exact (congrArg (group.answerDirectly .isSynchronized).run (Bench.record_nil bench)).symm
  | shutdown => exact (congrArg (group.answerDirectly .shutdown).run (Bench.record_nil bench)).symm

/-- Carrying out a request does not read the events. -/
theorem answerDirectly_blind (group : Group) (request : Request) :
    (group.answerDirectly request).Blind := by
  have commands (level : Level) : (do
      match ← (group.set level).attempt with
      | .ok after => return (after, .ok .done)
      | .error stop => return (group, .error (.ofStop stop)) :
      Action Empty (Group × Answer)).Blind := by
    refine (group.set_blind level).attempt.bind fun result => ?_
    cases result <;> exact .pure _
  cases request with
  | set level => exact commands level
  | synchronize => exact commands group.lastCommanded
  | isSynchronized =>
    refine group.isSynchronized_blind.attempt.bind fun result => ?_
    cases result <;> exact .pure _
  | get => exact .pure _
  | shutdown => exact .pure _

end Group

namespace Hub

variable {group : Group} {buffer taken : Nat} {start bench : Bench} {hub : Hub}

/-- The direct run over the requests that were taken out of the queue. -/
def direct (hub : Hub) (group : Group) (start : Bench) (taken : Nat) : Service :=
  group.serveInOrder start ((hub.mails.take taken).map Mail.request)

/-- The actor stopped because its last handle was dropped, when everything that was sent had been
taken. -/
def Abandoned (hub : Hub) (direct : Service) (taken : Nat) : Prop :=
  ∃ group, direct.phase = .serving group ∧ hub.actor.phase = .stopped group ∧
    hub.actor.handles = 0 ∧ taken = hub.sent.length

/-- The actor is where the direct run is, and its queue holds what was not taken. -/
inductive Agrees (hub : Hub) (direct : Service) (taken : Nat) : Prop where
  /-- The actor serves. -/
  | serving {group : Group} (own : hub.actor.phase = .serving group)
      (same : direct.phase = .serving group)
      (queue : hub.actor.Queued (hub.mails.drop taken) (numbered 0 direct.answers))
  /-- The actor has closed. -/
  | closed (ended : hub.actor.isClosed)
      (same : hub.actor.phase = direct.phase ∨ hub.Abandoned direct taken)
      (queue : hub.actor.Emptied (hub.mails.drop taken) (numbered 0 direct.answers))

/-- An actor follows the direct run over the requests that it has taken: the invariant of every
interleaving. -/
structure Follows (group : Group) (buffer : Nat) (start : Bench) (hub : Hub) (bench : Bench)
    (taken : Nat) : Prop where
  /-- Only what was sent is taken. -/
  inside : taken ≤ hub.sent.length
  /-- Requests are numbered in the order in which they were sent. -/
  tickets : hub.mails.map Mail.ticket = List.range hub.sent.length
  /-- The next number is the next one in the order. -/
  next : hub.actor.nextTicket = hub.sent.length
  /-- The mailbox has its capacity. -/
  capacity : hub.actor.capacity = max buffer 1
  /-- Every request that was taken was answered in the direct run. -/
  answered : (hub.direct group start taken).answers.length = taken
  /-- The bench is that of the direct run, but for what the actor records of itself. -/
  performed : bench.withoutActors = (hub.direct group start taken).bench.withoutActors
  /-- The group, the queue and the answers. -/
  agrees : hub.Agrees (hub.direct group start taken) taken

/-- Where the actor serves, the direct run does. -/
theorem Agrees.of_serving {direct : Service} (agrees : hub.Agrees direct taken) {own : Group}
    (serving : hub.actor.phase = .serving own) :
    direct.phase = .serving own ∧
      hub.actor.Queued (hub.mails.drop taken) (numbered 0 direct.answers) := by
  cases agrees with
  | serving known settled queue =>
    rw [known] at serving
    rw [← serving]
    exact ⟨settled, queue⟩
  | closed ended settled queue =>
    unfold Actor.isClosed at ended
    rw [serving] at ended
    cases ended

/-- There are as many requests as were sent. -/
theorem length_mails (hub : Hub) : hub.mails.length = hub.sent.length := List.length_map _

/-- The direct run goes on with the next request. -/
theorem direct_succ {mail : Mail} (found : hub.mails[taken]? = some mail) :
    hub.direct group start (taken + 1) = (hub.direct group start taken).next mail.request := by
  unfold direct Group.serveInOrder
  rw [List.take_add_one, found, List.map_append, List.foldl_append]
  rfl

/-- A new actor has taken nothing. -/
theorem Follows.spawned (group : Group) (buffer : Nat) (start : Bench) :
    ∃ actor after, (Actor.spawn group buffer : Action Empty Actor).run start =
        (.done actor, after) ∧
      Follows group buffer start ⟨actor, []⟩ after 0 := by
  refine ⟨_, _, rfl, Nat.le_refl _, rfl, rfl, rfl, rfl, ?_, .serving rfl rfl ?_⟩
  · exact start.withoutActors_record (by simp [Event.byActor])
  · exact ⟨rfl, Nat.zero_le _, fun waits => absurd rfl waits, List.Perm.refl _⟩

/-- A request that was sent waits behind the ones that were not taken. -/
theorem Follows.send (follows : hub.Follows group buffer start bench taken)
    (handle : hub.actor.handles ≠ 0) (client : Nat) (request : Request) :
    Follows group buffer start
      ⟨(hub.actor.send request).2,
        hub.sent ++ [⟨client, ⟨(hub.actor.send request).1, request⟩⟩]⟩ bench taken := by
  obtain ⟨inside, tickets, next, capacity, answered, performed, agrees⟩ := follows
  obtain ⟨ticket, later, bounded, held⟩ := hub.actor.send_frame request
  generalize made : (⟨(hub.actor.send request).2,
    hub.sent ++ [⟨client, ⟨(hub.actor.send request).1, request⟩⟩]⟩ : Hub) = posted
  have sender : posted.actor = (hub.actor.send request).2 := by rw [← made]
  have count : posted.sent.length = hub.sent.length + 1 := by simp [← made]
  have mails : posted.mails = hub.mails ++ [⟨hub.actor.nextTicket, request⟩] := by
    simp [← made, Hub.mails, ticket]
  have within : taken ≤ hub.mails.length := by rw [length_mails]; exact inside
  have same : posted.direct group start taken = hub.direct group start taken := by
    unfold direct
    rw [mails, List.take_append_of_le_length within]
  have left : posted.mails.drop taken =
      hub.mails.drop taken ++ [⟨hub.actor.nextTicket, request⟩] := by
    rw [mails, List.drop_append_of_le_length within]
  refine ⟨by omega, ?_, ?_, ?_, ?_, ?_, ?_⟩
  · rw [mails, List.map_append, tickets, count, List.range_succ, next]
    rfl
  · rw [sender, later, next, count]
  · rw [sender, bounded, capacity]
  · rw [same, answered]
  · rw [same, performed]
  · rw [same]
    cases agrees with
    | serving own settled queue =>
      refine .serving (by rw [sender, Actor.phase_send, own]) settled ?_
      rw [sender, left]
      exact queue.send own request
    | closed ended settled queue =>
      refine .closed ?_ ?_ ?_
      · unfold Actor.isClosed at ended ⊢
        rw [sender, Actor.phase_send]
        exact ended
      · rcases settled with known | ⟨_, _, _, lost, _⟩
        · exact .inl (by rw [sender, Actor.phase_send, known])
        · exact absurd lost handle
      · rw [sender, left]
        exact queue.send ended request

/-- Handles come and go without an effect on what is served, and none comes back after the last one
was dropped. -/
theorem Follows.handles (follows : hub.Follows group buffer start bench taken) (count : Nat)
    (lost : hub.actor.handles = 0 → count = 0) :
    Follows group buffer start { hub with actor := { hub.actor with handles := count } } bench
      taken := by
  obtain ⟨inside, tickets, next, capacity, answered, performed, agrees⟩ := follows
  refine ⟨inside, tickets, next, capacity, answered, performed, ?_⟩
  cases agrees with
  | serving own settled queue =>
    exact .serving own settled ⟨queue.order, queue.bound, queue.full, queue.answered⟩
  | closed ended settled queue =>
    refine .closed ended ?_ ⟨queue.mailbox, queue.waiting, queue.answered⟩
    rcases settled with known | ⟨own, serving, stopped, gone, last⟩
    · exact .inl known
    · exact .inr ⟨own, serving, stopped, lost gone, last⟩

/-- An actor that serves and has no request at hand has taken everything. -/
theorem Follows.all_of_idle (follows : hub.Follows group buffer start bench taken) {own : Group}
    (serving : hub.actor.phase = .serving own) (mailbox : hub.actor.mailbox = []) :
    taken = hub.sent.length := by
  obtain ⟨-, queue⟩ := follows.agrees.of_serving serving
  have capacity := follows.capacity
  have inside := follows.inside
  have nothing := queue.all_of_idle (by omega) mailbox
  have short := List.drop_eq_nil_iff.mp nothing
  rw [length_mails] at short
  omega

/-- An actor without a request and without a handle stops when everything was taken. -/
theorem Follows.abandon (follows : hub.Follows group buffer start bench taken) {own : Group}
    (serving : hub.actor.phase = .serving own) (mailbox : hub.actor.mailbox = [])
    (gone : hub.actor.handles = 0) :
    Follows group buffer start { hub with actor := hub.actor.close (.stopped own) }
      (bench.record [.actorStopped own.name]) taken := by
  have all := follows.all_of_idle serving mailbox
  obtain ⟨inside, tickets, next, capacity, answered, performed, agrees⟩ := follows
  obtain ⟨settled, queue⟩ := agrees.of_serving serving
  have closed := queue.close (.stopped own)
  have stopped := hub.actor.close_eq (.stopped own)
  refine ⟨inside, tickets, ?_, ?_, answered, ?_, .closed ?_ (.inr ?_) closed⟩
  · rw [stopped]
    exact next
  · rw [stopped]
    exact capacity
  · rw [bench.withoutActors_record (by simp [Event.byActor])]
    exact performed
  · rw [stopped]
    rfl
  · refine ⟨own, settled, ?_, ?_, all⟩
    · rw [stopped]
    · rw [stopped]
      exact gone

/-- The request at hand is the one after those that were taken, and taking it leaves the queue of
the requests behind it. -/
theorem Follows.take (follows : hub.Follows group buffer start bench taken) {own : Group}
    (serving : hub.actor.phase = .serving own) {mail : Mail} {rest : List Mail}
    (mailbox : hub.actor.mailbox = mail :: rest) :
    hub.mails[taken]? = some mail ∧ mail.ticket = taken ∧
      { hub.actor with mailbox := rest }.refill.Queued (hub.mails.drop (taken + 1))
        (numbered 0 (hub.direct group start taken).answers ++ Actor.acknowledgements [mail]) := by
  obtain ⟨-, queue⟩ := follows.agrees.of_serving serving
  obtain ⟨later, order, queued⟩ := queue.take mailbox
  have found : hub.mails[taken]? = some mail := by
    have head := congrArg List.head? order
    rw [List.head?_drop] at head
    exact head
  have tail : hub.mails.drop (taken + 1) = later := by
    have rest := congrArg List.tail order
    rw [List.tail_drop] at rest
    exact rest
  refine ⟨found, ?_, by rw [tail]; exact queued⟩
  have numbers := congrArg (fun tickets => tickets[taken]?) follows.tickets
  have inside : taken < hub.sent.length := by
    rw [← length_mails]
    exact (List.getElem?_eq_some_iff.mp found).1
  rw [List.getElem?_map, found, List.getElem?_range inside] at numbers
  exact Option.some.inj numbers

/-- One request more was taken. -/
theorem Follows.advance (follows : hub.Follows group buffer start bench taken) {mail : Mail}
    (found : hub.mails[taken]? = some mail) {actor : Actor} {after : Bench} (value : Answer)
    (next : actor.nextTicket = hub.actor.nextTicket)
    (capacity : actor.capacity = hub.actor.capacity)
    (answers : ((hub.direct group start taken).next mail.request).answers =
      (hub.direct group start taken).answers ++ [value])
    (performed : after.withoutActors =
      ((hub.direct group start taken).next mail.request).bench.withoutActors)
    (agrees : Agrees { hub with actor } ((hub.direct group start taken).next mail.request)
      (taken + 1)) :
    Follows group buffer start { hub with actor } after (taken + 1) := by
  have direct : Hub.direct { hub with actor } group start (taken + 1) =
      (hub.direct group start taken).next mail.request := direct_succ found
  have inside : taken < hub.sent.length := by
    rw [← length_mails]
    exact (List.getElem?_eq_some_iff.mp found).1
  refine ⟨inside, follows.tickets, next.trans follows.next, capacity.trans follows.capacity, ?_,
    ?_, ?_⟩
  · rw [direct, answers, List.length_append, follows.answered, List.length_singleton]
  · rw [direct, performed]
  · rw [direct]
    exact agrees

/-- A shutdown at hand closes the actor where the direct run stops. -/
theorem Follows.shutdown (follows : hub.Follows group buffer start bench taken) {own : Group}
    (serving : hub.actor.phase = .serving own) {mail : Mail} {rest : List Mail}
    (mailbox : hub.actor.mailbox = mail :: rest) (shutdown : mail.request = .shutdown)
    {events : List Event} (recorded : ∀ event ∈ events, event.byActor) :
    Follows group buffer start
      { hub with actor := { hub.actor with mailbox := rest }.refill.close (.stopped own) }
      (bench.record events) (taken + 1) := by
  obtain ⟨settled, -⟩ := follows.agrees.of_serving serving
  obtain ⟨found, ticket, queued⟩ := follows.take serving mailbox
  have next := Service.next_shutdown settled
  rw [← shutdown] at next
  have given : Actor.acknowledgements [mail] = [(taken, .ok .done)] := by
    simp [Actor.acknowledgements, Actor.refusals, Actor.isShutdown, Actor.closedAnswer, shutdown,
      ticket]
  rw [given] at queued
  have closed := queued.close (.stopped own)
  have stopped := { hub.actor with mailbox := rest }.refill.close_eq (.stopped own)
  refine follows.advance found (.ok .done) ?_ ?_ (by rw [next]) ?_ ?_
  · rw [stopped, Actor.refill_eq]
  · rw [stopped, Actor.refill_eq]
  · rw [next, bench.withoutActors_record recorded]
    exact follows.performed
  · rw [next]
    refine .closed ?_ (.inl ?_) ?_
    · rw [stopped]
      rfl
    · rw [stopped]
    · rw [numbered_append, follows.answered, Nat.zero_add]
      exact closed

/-- What an actor records in front of a request has no effect on how it is carried out. -/
theorem Follows.alike (follows : hub.Follows group buffer start bench taken) {own : Group}
    {request : Request} {outcome : Outcome Empty (Group × Answer)} {after : Bench}
    (ran : (own.carryOut request : Action Empty (Group × Answer)).run bench =
      (outcome, after)) :
    ∃ behind, (own.answerDirectly request).run (hub.direct group start taken).bench =
        (outcome, behind) ∧
      after.withoutActors = behind.withoutActors := by
  have same : (bench.record (own.announcements request)).withoutActors =
      (hub.direct group start taken).bench.withoutActors := by
    rw [bench.withoutActors_record (own.byActor_of_announced request)]
    exact follows.performed
  obtain ⟨ending, left⟩ := (own.answerDirectly_blind request).run_eq same
  rw [← Group.run_carryOut, ran] at ending left
  exact ⟨((own.answerDirectly request).run (hub.direct group start taken).bench).2,
    Prod.ext ending.symm rfl, left⟩

/-- A request other than a shutdown that is at hand: the direct run answers it next, and once it is
answered the queue holds the requests behind it. -/
theorem Follows.turn (follows : hub.Follows group buffer start bench taken) {own : Group}
    (serving : hub.actor.phase = .serving own) {mail : Mail} {rest : List Mail}
    (mailbox : hub.actor.mailbox = mail :: rest) (other : mail.request ≠ .shutdown)
    (phase : ActorPhase) (value : Answer) :
    hub.mails[taken]? = some mail ∧
      ({ { hub.actor with mailbox := rest }.refill with phase }.answer mail.ticket value).Queued
        (hub.mails.drop (taken + 1))
        (numbered 0 ((hub.direct group start taken).answers ++ [value])) := by
  obtain ⟨found, ticket, queued⟩ := follows.take serving mailbox
  have given : Actor.acknowledgements [mail] = [] := by
    have silent : Actor.isShutdown mail = false :=
      Bool.eq_false_iff.mpr fun asked => other (Actor.isShutdown_iff.mp asked)
    simp [Actor.acknowledgements, Actor.refusals, silent]
  rw [given, List.append_nil] at queued
  have one : numbered 0 (hub.direct group start taken).answers ++ [(mail.ticket, value)] =
      numbered 0 ((hub.direct group start taken).answers ++ [value]) := by
    rw [numbered_append, follows.answered, Nat.zero_add, ticket]
    rfl
  refine ⟨found, ?_⟩
  rw [← one]
  exact (queued.withPhase phase).answer mail.ticket value

/-- A request at hand that the group answers is answered as the direct run answers it. -/
theorem Follows.answer (follows : hub.Follows group buffer start bench taken)
    {own result : Group} (serving : hub.actor.phase = .serving own) {mail : Mail}
    {rest : List Mail} (mailbox : hub.actor.mailbox = mail :: rest)
    (other : mail.request ≠ .shutdown) {value : Answer} {after : Bench}
    (ran : (own.carryOut mail.request : Action Empty (Group × Answer)).run bench =
      (.done (result, value), after)) :
    Follows group buffer start
      { hub with actor := { { hub.actor with mailbox := rest }.refill with
        phase := .serving result }.answer mail.ticket value } after (taken + 1) := by
  obtain ⟨settled, -⟩ := follows.agrees.of_serving serving
  obtain ⟨found, queued⟩ := follows.turn serving mailbox other (.serving result) value
  obtain ⟨behind, direct, left⟩ := follows.alike ran
  have goes := Service.next_of_done settled other direct
  refine follows.advance found value ?_ ?_ (by rw [goes]) (by rw [goes, left]) ?_
  · rw [Actor.answer, Actor.refill_eq]
  · rw [Actor.answer, Actor.refill_eq]
  · rw [goes]
    exact .serving rfl rfl queued

/-- A request at hand at which a driver crashes closes the actor where the direct run crashes. -/
theorem Follows.crash (follows : hub.Follows group buffer start bench taken) {own : Group}
    (serving : hub.actor.phase = .serving own) {mail : Mail} {rest : List Mail}
    (mailbox : hub.actor.mailbox = mail :: rest) (other : mail.request ≠ .shutdown)
    {after : Bench}
    (ran : (own.carryOut mail.request : Action Empty (Group × Answer)).run bench =
      (.crashed, after)) :
    Follows group buffer start
      { hub with actor := ({ hub.actor with mailbox := rest }.refill.answer mail.ticket
        (Actor.closedAnswer mail.request)).close .crashed } after (taken + 1) := by
  obtain ⟨settled, -⟩ := follows.agrees.of_serving serving
  obtain ⟨found, queued⟩ := follows.turn serving mailbox other
    { hub.actor with mailbox := rest }.refill.phase (.error .actorClosed)
  obtain ⟨behind, direct, left⟩ := follows.alike ran
  have goes := Service.next_of_crashed settled other direct
  have refused : Actor.closedAnswer mail.request = .error .actorClosed := by
    cases request : mail.request with
    | shutdown => exact absurd request other
    | _ => rfl
  have closed := queued.close .crashed
  rw [refused]
  have ended := ({ hub.actor with mailbox := rest }.refill.answer mail.ticket
    (.error .actorClosed)).close_eq .crashed
  refine follows.advance found (.error .actorClosed) ?_ ?_ (by rw [goes]) (by rw [goes, left]) ?_
  · rw [ended, Actor.answer, Actor.refill_eq]
  · rw [ended, Actor.answer, Actor.refill_eq]
  · rw [goes]
    refine .closed ?_ (.inl ?_) closed
    · rw [ended]
      rfl
    · rw [ended]

/-- Every step of the actor keeps to the direct run, and takes one request more unless the actor
closes or has taken everything and has a handle left. -/
theorem Follows.serve (follows : hub.Follows group buffer start bench taken) {actor : Actor}
    {after : Bench} (step : hub.actor.Step bench actor after) :
    ∃ count, Follows group buffer start { hub with actor } after count ∧
      (actor.isClosed ∨ count = taken + 1 ∨
        count = taken ∧ taken = hub.sent.length ∧ hub.actor.handles ≠ 0) := by
  cases step with
  | closed closed => exact ⟨taken, follows, .inl closed⟩
  | idle serving mailbox held =>
    exact ⟨taken, follows, .inr (.inr ⟨rfl, follows.all_of_idle serving mailbox, held⟩)⟩
  | abandoned serving mailbox lost =>
    refine ⟨taken, follows.abandon serving mailbox lost, .inl ?_⟩
    rw [Actor.close_eq]
    rfl
  | shutdown serving mailbox asked =>
    exact ⟨taken + 1, follows.shutdown serving mailbox asked (by simp [Event.byActor]),
      .inr (.inl rfl)⟩
  | answered serving mailbox other ran =>
    exact ⟨taken + 1, follows.answer serving mailbox other ran, .inr (.inl rfl)⟩
  | crashed serving mailbox other ran =>
    exact ⟨taken + 1, follows.crash serving mailbox other ran, .inr (.inl rfl)⟩

/-- Every move keeps to the direct run, and only a step of the actor takes a request. -/
theorem Follows.step (follows : hub.Follows group buffer start bench taken) (move : Move) :
    ∃ later after count, (hub.step move).run bench = (.done later, after) ∧
      later.Follows group buffer start after count ∧
      (later.actor.isClosed ∨ count = taken + [move].countP Move.isServe ∨
        count = taken ∧ taken = hub.sent.length ∧ hub.actor.handles ≠ 0) := by
  cases move with
  | send client request =>
    simp only [Hub.step]
    by_cases gone : hub.actor.handles = 0
    · rw [if_pos gone]
      exact ⟨hub, bench, taken, rfl, follows, .inr (.inl rfl)⟩
    · rw [if_neg gone]
      exact ⟨_, bench, taken, rfl, follows.send gone client request, .inr (.inl rfl)⟩
  | serve =>
    obtain ⟨actor, after, ran, step⟩ := hub.actor.serve_step bench
    obtain ⟨count, kept, progress⟩ := follows.serve step
    exact ⟨_, after, count, Action.run_bind_done _ ran, kept, progress⟩
  | addHandle =>
    simp only [Hub.step]
    by_cases gone : hub.actor.handles = 0
    · rw [if_pos gone]
      exact ⟨hub, bench, taken, rfl, follows, .inr (.inl rfl)⟩
    · rw [if_neg gone]
      exact ⟨_, bench, taken, rfl, follows.handles _ fun lost => absurd lost gone,
        .inr (.inl rfl)⟩
  | dropHandle =>
    exact ⟨_, bench, taken, rfl, follows.handles _ fun lost => by rw [lost], .inr (.inl rfl)⟩

/-- Every run keeps to the direct run. -/
theorem Follows.moves (follows : hub.Follows group buffer start bench taken)
    (moves : List Move) :
    ∃ later after count, (moves.foldlM Hub.step hub : Action Empty Hub).run bench =
        (.done later, after) ∧
      later.Follows group buffer start after count := by
  induction moves generalizing hub bench taken with
  | nil => exact ⟨hub, bench, taken, rfl, follows⟩
  | cons move rest ih =>
    obtain ⟨between, middle, count, ran, kept, -⟩ := follows.step move
    obtain ⟨later, after, last, ended, follow⟩ := ih kept
    refine ⟨later, after, last, ?_, follow⟩
    rw [List.foldlM_cons, Action.run_bind_done _ ran]
    exact ended

/-- What was sent is what the clients sent, up to the moment when the last handle was dropped. -/
structure Posted (hub : Hub) (sends : List (Nat × Request)) : Prop where
  /-- Nothing else was sent, and in this order. -/
  front : hub.sent.map Post.content <+: sends
  /-- While there is a handle, everything was. -/
  whole : hub.actor.handles ≠ 0 → hub.sent.map Post.content = sends

/-- Every move sends what it says, while there is a handle. -/
theorem Posted.step {sends : List (Nat × Request)} (posted : hub.Posted sends) {move : Move}
    {later : Hub} {after : Bench} (ran : (hub.step move).run bench = (.done later, after)) :
    later.Posted (sends ++ move.sent?.toList) := by
  cases move with
  | send client request =>
    simp only [Hub.step] at ran
    by_cases gone : hub.actor.handles = 0
    · rw [if_pos gone] at ran
      cases ran
      exact ⟨posted.front.trans (List.prefix_append _ _), fun handle => absurd gone handle⟩
    · rw [if_neg gone] at ran
      cases ran
      let post : Post := ⟨client, ⟨(hub.actor.send request).1, request⟩⟩
      have same : (hub.sent ++ [post]).map Post.content = sends ++ [(client, request)] := by
        rw [List.map_append, posted.whole gone]
        rfl
      exact ⟨⟨[], (List.append_nil _).trans same⟩, fun _ => same⟩
  | serve =>
    obtain ⟨actor, _, served, ended⟩ := Action.run_bind_eq_done.mp ran
    cases ended
    have handles := (Actor.step_of_serve served).handles
    refine ⟨?_, fun handle => ?_⟩
    · simpa [Move.sent?] using posted.front
    · simpa [Move.sent?] using posted.whole (handles ▸ handle)
  | addHandle =>
    simp only [Hub.step] at ran
    by_cases gone : hub.actor.handles = 0
    · rw [if_pos gone] at ran
      cases ran
      simpa [Move.sent?] using posted
    · rw [if_neg gone] at ran
      cases ran
      refine ⟨?_, fun _ => ?_⟩
      · simpa [Move.sent?] using posted.front
      · simpa [Move.sent?] using posted.whole gone
  | dropHandle =>
    cases ran
    refine ⟨?_, fun handle => ?_⟩
    · simpa [Move.sent?] using posted.front
    · have kept : hub.actor.handles ≠ 0 := fun gone => handle (by simp [Actor.dropHandle, gone])
      simpa [Move.sent?] using posted.whole kept

/-- Every run sends what its moves say, while there is a handle. -/
theorem Posted.moves {sends : List (Nat × Request)} (posted : hub.Posted sends)
    {moves : List Move} {later : Hub} {after : Bench}
    (ran : (moves.foldlM Hub.step hub : Action Empty Hub).run bench = (.done later, after)) :
    later.Posted (sends ++ moves.filterMap Move.sent?) := by
  induction moves generalizing hub bench sends with
  | nil =>
    cases ran
    rw [List.filterMap_nil, List.append_nil]
    exact posted
  | cons move rest ih =>
    rw [List.foldlM_cons] at ran
    obtain ⟨between, middle, first, last⟩ := Action.run_bind_eq_done.mp ran
    have behind := ih (posted.step first) last
    rw [List.append_assoc] at behind
    cases sent : move.sent? with
    | none => simpa [sent] using behind
    | some send => simpa [sent] using behind

/-- Every request is answered at most once. -/
theorem Follows.distinct (follows : hub.Follows group buffer start bench taken) :
    (hub.actor.answers.map Prod.fst).Nodup := by
  obtain ⟨inside, tickets, -, -, answered, -, agrees⟩ := follows
  have numbers : (numbered 0 (hub.direct group start taken).answers).map Prod.fst =
      (List.range hub.sent.length).take taken := by
    rw [numbered_tickets, answered, List.take_range, Nat.min_eq_left inside, List.range_eq_range']
  have rest : (hub.mails.drop taken).map Mail.ticket =
      (List.range hub.sent.length).drop taken := by
    rw [List.map_drop, tickets]
  have parts (others : List (Nat × Answer))
      (inner : (others.map Prod.fst).Sublist ((hub.mails.drop taken).map Mail.ticket)) :
      ((numbered 0 (hub.direct group start taken).answers ++ others).map Prod.fst).Nodup := by
    rw [List.map_append, numbers]
    rw [rest] at inner
    have whole := (List.Sublist.refl ((List.range hub.sent.length).take taken)).append inner
    rw [List.take_append_drop] at whole
    exact whole.nodup List.nodup_range
  cases agrees with
  | serving own settled queue =>
    rw [(queue.answered.map Prod.fst).nodup_iff]
    refine parts _ ?_
    rw [← queue.order]
    have shorter : (hub.actor.mailbox.filter Actor.isShutdown).Sublist
        (hub.actor.mailbox ++ hub.actor.waiting) :=
      List.filter_sublist.trans (List.sublist_append_left _ _)
    have same : (Actor.acknowledgements hub.actor.mailbox).map Prod.fst =
        (hub.actor.mailbox.filter Actor.isShutdown).map Mail.ticket := by
      simp [Actor.acknowledgements, Actor.refusals, Function.comp_def]
    rw [same]
    exact shorter.map Mail.ticket
  | closed ended settled queue =>
    rw [(queue.answered.map Prod.fst).nodup_iff]
    refine parts _ ?_
    have same : (Actor.refusals (hub.mails.drop taken)).map Prod.fst =
        (hub.mails.drop taken).map Mail.ticket := by
      simp [Actor.refusals, Function.comp_def]
    exact same ▸ List.Sublist.refl _

/-- While the actor serves, a request is answered by the direct run or, when it is a shutdown, by
the mailbox. -/
theorem Follows.answer_of_serving (follows : hub.Follows group buffer start bench taken)
    {own : Group} (serving : hub.actor.phase = .serving own) {ticket : Nat} {value : Answer} :
    hub.actor.answer? ticket = some value ↔
      (hub.direct group start taken).answers[ticket]? = some value ∨
        value = .ok .done ∧
          ∃ mail ∈ hub.actor.mailbox, mail.ticket = ticket ∧ mail.request = .shutdown := by
  obtain ⟨-, queue⟩ := follows.agrees.of_serving serving
  have shutdowns : (ticket, value) ∈ Actor.acknowledgements hub.actor.mailbox ↔
      value = .ok .done ∧
        ∃ mail ∈ hub.actor.mailbox, mail.ticket = ticket ∧ mail.request = .shutdown := by
    unfold Actor.acknowledgements Actor.refusals
    rw [List.mem_map]
    constructor
    · rintro ⟨mail, member, same⟩
      obtain ⟨inside, shutdown⟩ := List.mem_filter.mp member
      cases request : mail.request with
      | shutdown =>
        rw [request] at same
        cases same
        exact ⟨rfl, mail, inside, rfl, request⟩
      | _ => simp [Actor.isShutdown, request] at shutdown
    · rintro ⟨rfl, mail, inside, rfl, request⟩
      refine ⟨mail, List.mem_filter.mpr ⟨inside, by simp [Actor.isShutdown, request]⟩, ?_⟩
      rw [request]
      rfl
  unfold Actor.answer?
  rw [lookup_eq_some follows.distinct, queue.answered.mem_iff, List.mem_append, mem_numbered,
    shutdowns]

/-- Once the actor has closed, a request is answered by the direct run or, when it was not taken,
as one that will not be served. -/
theorem Follows.answer_of_closed (follows : hub.Follows group buffer start bench taken)
    (closed : hub.actor.isClosed) (ticket : Nat) :
    hub.actor.answer? ticket =
      ((hub.direct group start taken).answers ++
        (hub.mails.drop taken).map fun mail => Actor.closedAnswer mail.request)[ticket]? := by
  have given : hub.actor.answers.Perm (numbered 0 (hub.direct group start taken).answers ++
      Actor.refusals (hub.mails.drop taken)) := by
    cases follows.agrees with
    | serving own settled queue =>
      unfold Actor.isClosed at closed
      rw [own] at closed
      cases closed
    | closed ended settled queue => exact queue.answered
  have numbers : (hub.mails.drop taken).map Mail.ticket =
      List.range' taken (hub.mails.drop taken).length := by
    rw [List.map_drop, follows.tickets, List.range_eq_range', List.drop_range', List.length_drop,
      length_mails, Nat.mul_one, Nat.zero_add]
  have together : numbered 0 (hub.direct group start taken).answers ++
      Actor.refusals (hub.mails.drop taken) =
        numbered 0 ((hub.direct group start taken).answers ++
          (hub.mails.drop taken).map fun mail => Actor.closedAnswer mail.request) := by
    rw [numbered_append, follows.answered, Nat.zero_add, refusals_eq_numbered numbers]
  rw [together] at given
  ext value
  unfold Actor.answer?
  rw [lookup_eq_some follows.distinct, given.mem_iff, mem_numbered]

/-- A request that was taken is answered, and every request once the actor has closed. -/
theorem Follows.is_answered (follows : hub.Follows group buffer start bench taken) {ticket : Nat}
    (finished : hub.actor.isClosed ∨ ticket < taken) (sent : ticket < hub.sent.length) :
    (hub.actor.answer? ticket).isSome := by
  have answered := follows.answered
  by_cases closed : hub.actor.isClosed
  · have inside := follows.inside
    rw [follows.answer_of_closed closed]
    simp only [isSome_getElem?, List.length_append, List.length_map, List.length_drop,
      length_mails]
    omega
  · have early := finished.resolve_left closed
    obtain ⟨own, phase⟩ := Actor.serving_of_not_isClosed closed
    have within : ticket < (hub.direct group start taken).answers.length := by omega
    have given := (follows.answer_of_serving phase).mpr (.inl (List.getElem?_eq_getElem within))
    rw [given]
    rfl

/-- As many steps of the actor as there are requests left answer everything. -/
theorem Follows.settle (follows : hub.Follows group buffer start bench taken) (steps : Nat)
    (enough : hub.actor.isClosed ∨ hub.sent.length ≤ taken + steps) :
    ∃ later after, ((List.replicate steps Move.serve).foldlM Hub.step hub :
        Action Empty Hub).run bench = (.done later, after) ∧
      ∀ ticket < hub.sent.length, (later.actor.answer? ticket).isSome := by
  induction steps generalizing hub bench taken with
  | zero =>
    exact ⟨hub, bench, rfl, fun ticket sent =>
      follows.is_answered (enough.imp_right fun all => Nat.lt_of_lt_of_le sent all) sent⟩
  | succ steps ih =>
    obtain ⟨actor, between, ran, step⟩ := hub.actor.serve_step bench
    obtain ⟨count, kept, progress⟩ := follows.serve step
    have moved : (hub.step .serve).run bench = (.done { hub with actor }, between) :=
      Action.run_bind_done _ ran
    rw [List.replicate_succ, List.foldlM_cons, Action.run_bind_done _ moved]
    refine ih kept ?_
    rcases enough with closed | all
    · exact .inl (step.isClosed closed)
    · rcases progress with closed | more | ⟨same, whole, -⟩
      · exact .inl closed
      · exact .inr (by simp only; omega)
      · exact .inr (by simp only; omega)

/-- What is taken of a client's requests is the front of what the client sent. -/
theorem Posted.ofClient {sends : List (Nat × Request)} (posted : hub.Posted sends)
    (taken client : Nat) :
    ((hub.sent.take taken).map Post.content).filterMap (sentBy client) <+:
      sends.filterMap (sentBy client) :=
  (((List.take_prefix taken hub.sent).map Post.content).trans posted.front).filterMap _

/-- **An actor does what its group does.** Take any group, any buffer, any bench and any moves of
clients and the actor. Nothing fails, and there is a number of requests that the actor has taken,
which are the first ones that were sent, in the order in which they were sent. Carried out on the
group one at a time and up to the first shutdown, exactly these requests give the same bench, with
every command in the same order, and the same group, so the commands of one request are never among
those of another. The numbers under which clients wait are those of their own requests, nothing is
answered twice, and every answer to a request that was taken is the one that the group gives. While
the actor serves, the other requests are in the queue, in order; once it has closed, each of them
was answered that it will not be served. Nothing is lost: as many steps of the actor as there are
requests left answer them all. -/
theorem run_refines (group : Group) (buffer : Nat) (start : Bench) (moves : List Move) :
    ∃ hub after taken, (run group buffer moves).run start = (.done hub, after) ∧
      hub.Posted (moves.filterMap Move.sent?) ∧
      hub.mails.map Mail.ticket = List.range hub.sent.length ∧ taken ≤ hub.sent.length ∧
      (∀ client, ((hub.sent.take taken).map Post.content).filterMap (sentBy client) <+:
        (moves.filterMap Move.sent?).filterMap (sentBy client)) ∧
      let direct := group.serveInOrder start ((hub.mails.take taken).map Mail.request)
      direct.answers.length = taken ∧ after.withoutActors = direct.bench.withoutActors ∧
      (hub.actor.answers.map Prod.fst).Nodup ∧
      ((∃ own, hub.actor.phase = .serving own ∧ direct.phase = .serving own ∧
          hub.actor.mailbox ++ hub.actor.waiting = hub.mails.drop taken ∧
          hub.actor.mailbox.length ≤ max buffer 1 ∧
          (hub.actor.waiting ≠ [] → hub.actor.mailbox.length = max buffer 1) ∧
          ∀ ticket value, hub.actor.answer? ticket = some value ↔
            direct.answers[ticket]? = some value ∨
              value = .ok .done ∧
                ∃ mail ∈ hub.actor.mailbox, mail.ticket = ticket ∧ mail.request = .shutdown) ∨
        (hub.actor.isClosed ∧ (hub.actor.phase = direct.phase ∨ hub.Abandoned direct taken) ∧
          ∀ ticket, hub.actor.answer? ticket =
            (direct.answers ++
              (hub.mails.drop taken).map fun mail => Actor.closedAnswer mail.request)[ticket]?)) ∧
      ∃ later left, ((List.replicate (hub.sent.length - taken) Move.serve).foldlM step hub :
          Action Empty Hub).run after = (.done later, left) ∧
        ∀ ticket < hub.sent.length, (later.actor.answer? ticket).isSome := by
  obtain ⟨actor, between, spawned, follows⟩ := Follows.spawned group buffer start
  obtain ⟨hub, after, taken, moved, follows⟩ := follows.moves moves
  have nothing : Posted ⟨actor, []⟩ [] := ⟨List.prefix_rfl, fun _ => rfl⟩
  have posted : hub.Posted (moves.filterMap Move.sent?) := nothing.moves moved
  refine ⟨hub, after, taken, ?_, posted, follows.tickets, follows.inside, posted.ofClient taken,
    follows.answered, follows.performed, follows.distinct, ?_,
    follows.settle _ (.inr ?_)⟩
  · unfold run
    rw [Action.run_bind_done _ spawned]
    exact moved
  · cases agreed : follows.agrees with
    | serving own settled queue =>
      refine .inl ⟨_, own, settled, queue.order, ?_, ?_, fun _ _ => follows.answer_of_serving own⟩
      · exact follows.capacity ▸ queue.bound
      · exact follows.capacity ▸ queue.full
    | closed ended settled queue =>
      exact .inr ⟨ended, settled, follows.answer_of_closed ended⟩
  · have inside := follows.inside
    omega

end Hub

end Attenuation
