import Attenuation.Actor
import Attenuation.Proofs.Conduct

/-!
# What the steps of an actor change

Every step of an actor as one equation, and its conduct on the bench: an actor asks only the
members of its group for levels, and only for levels that the request at hand names.
-/

namespace Attenuation

namespace Actor

/-- The answers to requests that will not be served. -/
def refusals (mails : List Mail) : List (Nat × Answer) :=
  mails.map fun mail => (mail.ticket, closedAnswer mail.request)

/-- The answers to the shutdowns among requests that reach the mailbox. -/
def acknowledgements (mails : List Mail) : List (Nat × Answer) :=
  refusals (mails.filter isShutdown)

/-- A shutdown asks for nothing more once it is in the mailbox. -/
theorem closedAnswer_of_shutdown {mail : Mail} (shutdown : isShutdown mail) :
    closedAnswer mail.request = .ok .done := by
  unfold isShutdown at shutdown
  cases request : mail.request <;> simp_all [closedAnswer]

/-- Requests that will not be served are answered in order, and nothing else changes. -/
theorem answerClosed_eq (actor : Actor) (mails : List Mail) :
    actor.answerClosed mails = { actor with answers := actor.answers ++ refusals mails } := by
  unfold answerClosed
  induction mails generalizing actor with
  | nil => simp [refusals]
  | cons mail rest ih =>
    rw [List.foldl_cons, ih]
    simp [answer, refusals]

/-- A request put into the mailbox goes behind the others, and a shutdown is answered at once. -/
theorem deliver_eq (actor : Actor) (mail : Mail) :
    actor.deliver mail =
      { actor with
        mailbox := actor.mailbox ++ [mail]
        answers := actor.answers ++ acknowledgements [mail] } := by
  unfold deliver
  by_cases shutdown : isShutdown mail
  · simp [shutdown, answer, acknowledgements, refusals, closedAnswer_of_shutdown shutdown]
  · simp [shutdown, acknowledgements, refusals]

/-- Requests put into the mailbox go behind the others in order. -/
theorem foldl_deliver (actor : Actor) (mails : List Mail) :
    mails.foldl deliver actor =
      { actor with
        mailbox := actor.mailbox ++ mails
        answers := actor.answers ++ acknowledgements mails } := by
  induction mails generalizing actor with
  | nil => simp [acknowledgements, refusals]
  | cons mail rest ih =>
    rw [List.foldl_cons, ih, deliver_eq]
    by_cases shutdown : isShutdown mail <;> simp [shutdown, acknowledgements, refusals]

/-- How many places of the mailbox are free. -/
def free (actor : Actor) : Nat := actor.capacity - actor.mailbox.length

/-- As many waiting requests as there are free places move into the mailbox. -/
theorem refill_eq (actor : Actor) :
    actor.refill =
      { actor with
        mailbox := actor.mailbox ++ actor.waiting.take actor.free
        waiting := actor.waiting.drop actor.free
        answers := actor.answers ++ acknowledgements (actor.waiting.take actor.free) } :=
  foldl_deliver _ _

/-- What is left when an actor closes is answered. -/
theorem close_eq (actor : Actor) (phase : ActorPhase) :
    actor.close phase =
      { actor with
        phase := phase
        mailbox := []
        waiting := []
        answers := actor.answers ++
          refusals ((actor.mailbox.filter fun mail => !isShutdown mail) ++ actor.waiting) } :=
  answerClosed_eq _ _

/-- A request that is sent to an actor that serves goes behind the ones that wait. -/
theorem send_of_serving {actor : Actor} {group : Group} (serving : actor.phase = .serving group)
    (request : Request) :
    actor.send request =
      (actor.nextTicket,
        { actor with
          nextTicket := actor.nextTicket + 1
          waiting := actor.waiting ++ [(⟨actor.nextTicket, request⟩ : Mail)] }.refill) := by
  simp [send, isClosed, serving]

/-- A request that is sent to an actor that has closed is answered at once. -/
theorem send_of_closed {actor : Actor} (closed : actor.isClosed) (request : Request) :
    actor.send request =
      (actor.nextTicket,
        { actor with
          nextTicket := actor.nextTicket + 1
          answers := actor.answers ++ refusals [⟨actor.nextTicket, request⟩] }) := by
  simp [send, closed, answer, refusals]

/-- An actor serves until it closes. -/
theorem serving_of_not_isClosed {actor : Actor} (going : ¬ actor.isClosed) :
    ∃ group, actor.phase = .serving group := by
  unfold isClosed at going
  cases phase : actor.phase with
  | serving group => exact ⟨group, rfl⟩
  | stopped group => simp [phase] at going
  | crashed => simp [phase] at going

/-- Sending does not change what the actor is doing. -/
theorem phase_send (actor : Actor) (request : Request) :
    (actor.send request).2.phase = actor.phase := by
  cases phase : actor.phase with
  | serving group => rw [send_of_serving phase, refill_eq, phase]
  | stopped group => rw [send_of_closed (by simp [isClosed, phase]), phase]
  | crashed => rw [send_of_closed (by simp [isClosed, phase]), phase]

/-- Sending numbers the request and changes nothing else but the queue and the answers. -/
theorem send_frame (actor : Actor) (request : Request) :
    (actor.send request).1 = actor.nextTicket ∧
      (actor.send request).2.nextTicket = actor.nextTicket + 1 ∧
      (actor.send request).2.capacity = actor.capacity ∧
      (actor.send request).2.handles = actor.handles := by
  cases phase : actor.phase with
  | serving group =>
    rw [send_of_serving phase, refill_eq]
    exact ⟨rfl, rfl, rfl, rfl⟩
  | stopped group =>
    rw [send_of_closed (by simp [isClosed, phase])]
    exact ⟨rfl, rfl, rfl, rfl⟩
  | crashed =>
    rw [send_of_closed (by simp [isClosed, phase])]
    exact ⟨rfl, rfl, rfl, rfl⟩

/-- An actor that has closed takes no step. -/
theorem serve_of_closed {ε : Type} {actor : Actor} (closed : actor.isClosed) :
    (actor.serve : Action ε Actor) = pure actor := by
  unfold isClosed at closed
  unfold serve
  cases phase : actor.phase with
  | serving group =>
    rw [phase] at closed
    cases closed
  | stopped group => rfl
  | crashed => rfl

/-- Without a request an actor stops when its last handle was dropped. -/
theorem serve_of_idle {ε : Type} {actor : Actor} {group : Group}
    (serving : actor.phase = .serving group) (mailbox : actor.mailbox = []) :
    (actor.serve : Action ε Actor) =
      if actor.handles = 0 then actor.stop group else pure actor := by
  unfold serve
  rw [serving, mailbox]

/-- A shutdown at hand stops the actor, and another request is carried out. -/
theorem serve_of_mail {ε : Type} {actor : Actor} {group : Group}
    (serving : actor.phase = .serving group) {mail : Mail} {rest : List Mail}
    (mailbox : actor.mailbox = mail :: rest) :
    (actor.serve : Action ε Actor) =
      if isShutdown mail then { actor with mailbox := rest }.refill.stop group
      else { actor with mailbox := rest }.refill.serveMail group mail := by
  unfold serve
  rw [serving, mailbox]

/-- Carrying out a request of the mailbox answers it, or closes the actor where a driver crashes. -/
theorem run_serveMail {ε : Type} (actor : Actor) (group : Group) (mail : Mail) (bench : Bench) :
    (actor.serveMail group mail : Action ε Actor).run bench =
      match (group.carryOut mail.request : Action ε (Group × Answer)).run bench with
      | (.done (group, value), bench) =>
        (.done ({ actor with phase := .serving group }.answer mail.ticket value), bench)
      | (.failed fault, bench) => (.failed fault, bench)
      | (.crashed, bench) =>
        (.done ((actor.answer mail.ticket (closedAnswer mail.request)).close .crashed),
          bench) := rfl

/-- A request is a shutdown when it asks for one. -/
theorem isShutdown_iff {mail : Mail} : isShutdown mail ↔ mail.request = .shutdown := by
  unfold isShutdown
  cases mail.request <;> simp

/-- What a step of an actor can do, from one actor and bench to the next. -/
inductive Step (actor : Actor) (bench : Bench) : Actor → Bench → Prop where
  /-- An actor that has closed does nothing. -/
  | closed (closed : actor.isClosed) : Step actor bench actor bench
  /-- Without a request and with a handle left there is nothing to do. -/
  | idle {group : Group} (serving : actor.phase = .serving group) (mailbox : actor.mailbox = [])
      (held : actor.handles ≠ 0) : Step actor bench actor bench
  /-- Without a request and without a handle the actor stops. -/
  | abandoned {group : Group} (serving : actor.phase = .serving group)
      (mailbox : actor.mailbox = []) (lost : actor.handles = 0) :
      Step actor bench (actor.close (.stopped group)) (bench.record [.actorStopped group.name])
  /-- A shutdown stops the actor. -/
  | shutdown {group : Group} {mail : Mail} {rest : List Mail}
      (serving : actor.phase = .serving group) (mailbox : actor.mailbox = mail :: rest)
      (asked : mail.request = .shutdown) :
      Step actor bench ({ actor with mailbox := rest }.refill.close (.stopped group))
        (bench.record [.actorStopped group.name])
  /-- Another request is answered. -/
  | answered {group after : Group} {mail : Mail} {rest : List Mail} {value : Answer}
      {left : Bench} (serving : actor.phase = .serving group)
      (mailbox : actor.mailbox = mail :: rest) (other : mail.request ≠ .shutdown)
      (ran : (group.carryOut mail.request : Action Empty (Group × Answer)).run bench =
        (.done (after, value), left)) :
      Step actor bench
        ({ { actor with mailbox := rest }.refill with phase := .serving after }.answer
          mail.ticket value) left
  /-- A request at which a driver crashes closes the actor. -/
  | crashed {group : Group} {mail : Mail} {rest : List Mail} {left : Bench}
      (serving : actor.phase = .serving group) (mailbox : actor.mailbox = mail :: rest)
      (other : mail.request ≠ .shutdown)
      (ran : (group.carryOut mail.request : Action Empty (Group × Answer)).run bench =
        (.crashed, left)) :
      Step actor bench
        (({ actor with mailbox := rest }.refill.answer mail.ticket
          (closedAnswer mail.request)).close .crashed) left

/-- Every step does one of these. -/
theorem serve_step (actor : Actor) (bench : Bench) :
    ∃ after left, (actor.serve : Action Empty Actor).run bench = (.done after, left) ∧
      actor.Step bench after left := by
  by_cases closed : actor.isClosed
  · rw [serve_of_closed closed]
    exact ⟨_, _, rfl, .closed closed⟩
  obtain ⟨group, phase⟩ := serving_of_not_isClosed closed
  cases mailbox : actor.mailbox with
  | nil =>
    rw [serve_of_idle phase mailbox]
    by_cases lost : actor.handles = 0
    · rw [if_pos lost]
      exact ⟨_, _, rfl, .abandoned phase mailbox lost⟩
    · rw [if_neg lost]
      exact ⟨_, _, rfl, .idle phase mailbox lost⟩
  | cons mail rest =>
    rw [serve_of_mail phase mailbox]
    by_cases shutdown : isShutdown mail
    · rw [if_pos shutdown]
      exact ⟨_, _, rfl, .shutdown phase mailbox (isShutdown_iff.mp shutdown)⟩
    · rw [if_neg shutdown, run_serveMail]
      have other : mail.request ≠ .shutdown := fun asked => shutdown (isShutdown_iff.mpr asked)
      cases ran : (group.carryOut mail.request : Action Empty (Group × Answer)).run bench with
      | mk outcome left =>
        cases outcome with
        | done result => exact ⟨_, _, rfl, .answered phase mailbox other ran⟩
        | failed fault => exact fault.elim
        | crashed => exact ⟨_, _, rfl, .crashed phase mailbox other ran⟩

/-- What is known of a step from its run. -/
theorem step_of_serve {actor after : Actor} {bench left : Bench}
    (ran : (actor.serve : Action Empty Actor).run bench = (.done after, left)) :
    actor.Step bench after left := by
  obtain ⟨known, behind, same, step⟩ := actor.serve_step bench
  rw [same] at ran
  cases ran
  exact step

/-- A step leaves the handles alone. -/
theorem Step.handles {actor after : Actor} {bench left : Bench}
    (step : actor.Step bench after left) : after.handles = actor.handles := by
  cases step with
  | closed => rfl
  | idle => rfl
  | abandoned => rw [close_eq]
  | shutdown => rw [close_eq, refill_eq]
  | answered => rw [answer, refill_eq]
  | crashed => rw [close_eq, answer, refill_eq]

/-- An actor that has closed does nothing. -/
theorem Step.eq_of_closed {actor after : Actor} {bench left : Bench}
    (step : actor.Step bench after left) (closed : actor.isClosed) :
    after = actor ∧ left = bench := by
  have open_of_serving {group : Group} (serving : actor.phase = .serving group) : False := by
    simp [Actor.isClosed, serving] at closed
  cases step with
  | closed => exact ⟨rfl, rfl⟩
  | idle serving => exact (open_of_serving serving).elim
  | abandoned serving => exact (open_of_serving serving).elim
  | shutdown serving => exact (open_of_serving serving).elim
  | answered serving => exact (open_of_serving serving).elim
  | crashed serving => exact (open_of_serving serving).elim

/-- An actor that has closed stays closed. -/
theorem Step.isClosed {actor after : Actor} {bench left : Bench}
    (step : actor.Step bench after left) (closed : actor.isClosed) : after.isClosed := by
  rw [(step.eq_of_closed closed).1]
  exact closed

end Actor

variable {allowed : Deed → Prop} {bench : Bench}

/-- The level that a group is commanded to for a request. -/
def Request.level? (group : Group) : Request → Option Level
  | .set level => some level
  | .synchronize => some group.lastCommanded
  | _ => none

namespace Group

variable {ε : Type}

/-- The group behind an attempt to command it, and the answer to the request. -/
def commandAnswer (group : Group) : Except GroupStop Group → Group × Answer
  | .ok after => (after, .ok .done)
  | .error stop => (group, .error (.ofStop stop))

/-- The answer to the question whether the group is synchronized. -/
def readAnswer (group : Group) : Except Fault Bool → Group × Answer
  | .ok value => (group, .ok (.synchronized value))
  | .error fault => (group, .error (.operation fault))

/-- A request for a level commands the group to it. -/
theorem carryOut_set (group : Group) (value : Level) :
    (group.carryOut (.set value) : Action ε (Group × Answer)) =
      Action.emit (.actorSetting group.name value) >>= fun _ =>
        (group.set value).attempt >>= fun result => pure (group.commandAnswer result) := by
  refine congrArg (Bind.bind _) (funext fun _ => congrArg (Bind.bind _) (funext fun result => ?_))
  cases result <;> rfl

/-- A request to synchronize commands the group to the level that it remembers. -/
theorem carryOut_synchronize (group : Group) :
    (group.carryOut .synchronize : Action ε (Group × Answer)) =
      Action.emit (.actorSynchronizing group.name) >>= fun _ =>
        (group.set group.lastCommanded).attempt >>= fun result =>
          pure (group.commandAnswer result) := by
  refine congrArg (Bind.bind _) (funext fun _ => congrArg (Bind.bind _) (funext fun result => ?_))
  cases result <;> rfl

/-- A request whether the group is synchronized reads its members. -/
theorem carryOut_isSynchronized (group : Group) :
    (group.carryOut .isSynchronized : Action ε (Group × Answer)) =
      group.isSynchronized.attempt >>= fun result => pure (group.readAnswer result) := by
  refine congrArg (Bind.bind _) (funext fun result => ?_)
  cases result <;> rfl

end Group

/-- A request asks the members of the group for its level and reads them, and the group keeps its
name and its members. -/
theorem Group.carryOut_yields {ε : Type} (quiet : ∀ deed, deed.IsQuiet → allowed deed)
    {group : Group} (calibrated : group.All bench.Calibrated) (request : Request)
    (asks : ∀ member ∈ group.members, ∀ level, request.level? group = some level →
      allowed (.set member level))
    (reads : ∀ member ∈ group.members, allowed (.get member.session member.index)) :
    (group.carryOut request : Action ε (Group × Answer)).Yields (Bench.Evolves allowed) bench
      fun result _ => ∃ level, result.1 = { group with lastCommanded := level } := by
  have commands {here : Bench} {level : Level} (known : group.All here.Calibrated)
      (sort : ∀ member ∈ group.members, allowed (.set member level)) :
      ((group.set level).attempt >>= fun result => pure (group.commandAnswer result) :
        Action ε (Group × Answer)).Yields (Bench.Evolves allowed) here
        fun result _ => ∃ level, result.1 = { group with lastCommanded := level } := by
    refine (Group.set_yields quiet known sort).attempt.bind fun result _ _ given => ?_
    cases result with
    | ok after => exact .pure ⟨level, (given after rfl).2⟩
    | error stop => exact .pure ⟨group.lastCommanded, rfl⟩
  cases request with
  | set level =>
    rw [Group.carryOut_set]
    refine (Action.emit_yields quiet _).bind fun _ here evolved _ => ?_
    exact commands (fun member inside => evolved.calibrated (calibrated member inside))
      fun member inside => asks member inside level rfl
  | get => exact .pure ⟨group.lastCommanded, rfl⟩
  | isSynchronized =>
    rw [Group.carryOut_isSynchronized]
    refine (Group.isSynchronized_keeps quiet reads).attempt.bind fun result _ _ _ => ?_
    cases result with
    | ok value => exact .pure ⟨group.lastCommanded, rfl⟩
    | error fault => exact .pure ⟨group.lastCommanded, rfl⟩
  | synchronize =>
    rw [Group.carryOut_synchronize]
    refine (Action.emit_yields quiet _).bind fun _ here evolved _ => ?_
    exact commands (fun member inside => evolved.calibrated (calibrated member inside))
      fun member inside => asks member inside group.lastCommanded rfl
  | shutdown => exact .pure ⟨group.lastCommanded, rfl⟩

/-- The group of an actor that serves or has stopped. -/
def ActorPhase.group? : ActorPhase → Option Group
  | .serving group => some group
  | .stopped group => some group
  | .crashed => none

namespace Actor

/-- Every member of the group of an actor has a property. -/
def All (property : Attenuator → Prop) (actor : Actor) : Prop :=
  ∀ group, actor.phase.group? = some group → group.All property

/-- What the next step of an actor asks: the members of its group, for the level of the oldest
request. -/
def Asks (actor : Actor) (attenuator : Attenuator) (value : Level) : Prop :=
  ∃ group mail, actor.phase = .serving group ∧ actor.mailbox.head? = some mail ∧
    attenuator ∈ group.members ∧ mail.request.level? group = some value

/-- What the next step of an actor may do. -/
def footprint (actor : Actor) : Footprint where
  asks := actor.Asks
  reads session index := ∃ group, actor.phase = .serving group ∧
    ∃ member ∈ group.members, member.session = session ∧ member.index = index
  connects := False

/-- A new actor has its group. -/
theorem spawn_yields {ε : Type} (quiet : ∀ deed, deed.IsQuiet → allowed deed)
    (group : Group) (buffer : Nat) :
    (spawn group buffer : Action ε Actor).Yields (Bench.Evolves allowed) bench
      fun actor _ => actor.phase = .serving group :=
  (Action.emit_yields quiet _).bind fun _ _ _ _ => .pure rfl

/-- An actor that stops keeps its group. -/
theorem stop_yields {ε : Type} (quiet : ∀ deed, deed.IsQuiet → allowed deed) (actor : Actor)
    (group : Group) :
    (actor.stop group : Action ε Actor).Yields (Bench.Evolves allowed) bench
      fun after _ => after.phase = .stopped group :=
  (Action.emit_yields quiet _).bind fun _ _ _ _ => .pure (by rw [close_eq])

/-- A request that is carried out leaves the actor with the members it had, or without a group. -/
theorem serveMail_yields {ε : Type} (quiet : ∀ deed, deed.IsQuiet → allowed deed) (actor : Actor)
    {group : Group} (calibrated : group.All bench.Calibrated) (mail : Mail)
    (asks : ∀ member ∈ group.members, ∀ level, mail.request.level? group = some level →
      allowed (.set member level))
    (reads : ∀ member ∈ group.members, allowed (.get member.session member.index)) :
    (actor.serveMail group mail : Action ε Actor).Yields (Bench.Evolves allowed) bench
      fun after _ => after.phase = .crashed ∨
        ∃ level, after.phase = .serving { group with lastCommanded := level } := by
  have carried : (group.carryOut mail.request : Action ε (Group × Answer)).Yields
      (Bench.Evolves allowed) bench
      fun result _ => ∃ level, result.1 = { group with lastCommanded := level } :=
    Group.carryOut_yields quiet calibrated mail.request asks reads
  obtain ⟨evolved, given⟩ := carried
  have ran : (actor.serveMail group mail : Action ε Actor).run bench = _ :=
    run_serveMail actor group mail bench
  cases ended : (group.carryOut mail.request : Action ε (Group × Answer)).run bench with
  | mk outcome after =>
    rw [ended] at ran evolved given
    cases outcome with
    | done result =>
      obtain ⟨level, same⟩ := given result rfl
      refine .of_run ran evolved fun actor done => .inr ⟨level, ?_⟩
      cases done
      rw [← same]
      rfl
    | failed fault => exact .of_run ran evolved fun _ done => by cases done
    | crashed =>
      refine .of_run ran evolved fun actor done => .inl ?_
      cases done
      rw [close_eq]

/-- A step of an actor does nothing outside its footprint, and keeps what is known of the members
of its group. -/
theorem serve_yields {ε : Type} {actor : Actor} (all : actor.All bench.Calibrated) :
    (actor.serve : Action ε Actor).Yields (Bench.Evolves actor.footprint.Allows) bench
      fun next after => next.All after.Calibrated := by
  have quiet := actor.footprint.allows_quiet
  cases phase : actor.phase with
  | stopped group =>
    rw [serve_of_closed (by simp [isClosed, phase])]
    exact .pure all
  | crashed =>
    rw [serve_of_closed (by simp [isClosed, phase])]
    exact .pure all
  | serving group =>
    have calibrated : group.All bench.Calibrated := all group (by rw [phase]; rfl)
    have stops (closing : Actor) : (closing.stop group : Action ε Actor).Yields
        (Bench.Evolves actor.footprint.Allows) bench fun next after =>
          next.All after.Calibrated := by
      refine (stop_yields quiet closing group).weaken fun next after evolved stopped => ?_
      intro own present member inside
      rw [stopped] at present
      cases present
      exact evolved.calibrated (calibrated member inside)
    cases mailbox : actor.mailbox with
    | nil =>
      rw [serve_of_idle phase mailbox]
      by_cases lost : actor.handles = 0
      · rw [if_pos lost]
        exact stops actor
      · rw [if_neg lost]
        exact .pure all
    | cons mail rest =>
      rw [serve_of_mail phase mailbox]
      by_cases shutdown : isShutdown mail
      · rw [if_pos shutdown]
        exact stops _
      · rw [if_neg shutdown]
        refine (serveMail_yields quiet _ calibrated mail (fun member inside level same => ?_)
          fun member inside => ?_).weaken fun next after evolved ended => ?_
        · exact ⟨group, mail, phase, by rw [mailbox]; rfl, inside, same⟩
        · exact ⟨group, phase, member, inside, rfl, rfl⟩
        · intro own present member inside
          rcases ended with crashed | ⟨level, serving⟩
          · rw [crashed] at present
            cases present
          · rw [serving] at present
            cases present
            exact evolved.calibrated (calibrated member inside)

end Actor

end Attenuation
