import Attenuation.Proofs.ActorRun
import Attenuation.Proofs.GroupCommand

/-!
# The level that a group remembers

A group starts empty and is used by a caller, is handed to an actor, is used by its clients, and is
given back, any number of times, while anything at all may happen to the instruments in between. So
a history is a list of uses, each with the bench that it finds. Whatever the history, the group
remembers the level of the last group command that was answered with success, and this level is
finite. The invariant is `Keeper.Remembers`, and `Keeper.Advances` is what one use preserves.
-/

namespace Attenuation

/-- What a group was asked for, and the answer. -/
structure Report where
  /-- What was asked. -/
  request : Request
  /-- What was answered. -/
  answer : Answer

/-- The level of a group command that was answered with success. -/
def Report.accepted? : Report → Option Level
  | ⟨.set value, .ok .done⟩ => some value
  | _ => none

/-- The level of the last group command that was answered with success, or 0 dB. -/
def Report.lastAccepted (reports : List Report) : Level :=
  (reports.filterMap accepted?).getLast?.getD 0.0

/-- Who has a group. -/
inductive Keeper where
  /-- A caller has it. -/
  | caller (group : Group)
  /-- An actor has it, or had it when it crashed. -/
  | worker (actor : Actor)

/-- What is done with a group. -/
inductive Use where
  /-- Append an attenuator. -/
  | add (attenuator : Attenuator)
  /-- Append attenuators. -/
  | extend (attenuators : List Attenuator)
  /-- Append channels of an instrument. -/
  | addFrom (session : SessionId) (selection : Selection)
  /-- Ask the group directly. -/
  | ask (request : Request)
  /-- Hand the group to an actor. -/
  | spawn (buffer : Nat)
  /-- Send a request to the actor. -/
  | send (request : Request)
  /-- Let the actor take a step. -/
  | serve
  /-- Copy a handle of the actor. -/
  | addHandle
  /-- Drop a handle of the actor. -/
  | dropHandle
  /-- Take the group back from an actor that has stopped. -/
  | join

/-- What an actor that goes on serving answered to the request that was at hand. -/
def Actor.report (before after : Actor) : Option Report :=
  match before.mailbox, after.phase, after.answers.getLast? with
  | mail :: _, .serving _, some (ticket, answer) =>
    if ticket = mail.ticket then some ⟨mail.request, answer⟩ else none
  | _, _, _ => none

namespace Actor

variable {before after : Actor}

/-- An actor without a request at hand answers none. -/
theorem report_of_idle (mailbox : before.mailbox = []) : before.report after = none := by
  unfold report
  rw [mailbox]

/-- An actor that closes carries out no request. -/
theorem report_of_closed (closed : after.isClosed) : before.report after = none := by
  unfold report
  unfold isClosed at closed
  cases phase : after.phase with
  | serving group =>
    rw [phase] at closed
    cases closed
  | _ => cases before.mailbox <;> rfl

/-- An actor that carries out a request answers it last. -/
theorem report_of_answer {mail : Mail} {rest : List Mail} (mailbox : before.mailbox = mail :: rest)
    {group : Group} {answer : Answer} :
    before.report ({ after with phase := .serving group }.answer mail.ticket answer) =
      some ⟨mail.request, answer⟩ := by
  simp [report, mailbox, Actor.answer]

end Actor

namespace Keeper

/-- The group, unless it is lost. -/
def group? : Keeper → Option Group
  | .caller group => some group
  | .worker actor => actor.phase.group?

/-- Use a group on a bench. A use that is not possible does nothing; a crash in a direct use leaves
the caller with the group as it was. -/
def step (keeper : Keeper) (bench : Bench) (use : Use) : Keeper × Option Report :=
  match keeper, use with
  | .caller group, .add attenuator =>
    (.caller (group.held ((group.add attenuator : Action Fault Group).run bench).1), none)
  | .caller group, .extend attenuators =>
    (.caller (group.held ((group.extend attenuators : Action Fault Group).run bench).1), none)
  | .caller group, .addFrom session selection =>
    (.caller (group.held ((group.addFrom session selection).run bench).1), none)
  | .caller group, .ask request =>
    match (group.answerDirectly request).run bench with
    | (.done (after, answer), _) => (.caller after, some ⟨request, answer⟩)
    | _ => (keeper, none)
  | .caller group, .spawn buffer =>
    match (Actor.spawn group buffer : Action Empty Actor).run bench with
    | (.done actor, _) => (.worker actor, none)
    | _ => (keeper, none)
  | .worker actor, .send request => (.worker (actor.send request).2, none)
  | .worker actor, .serve =>
    match (actor.serve : Action Empty Actor).run bench with
    | (.done after, _) => (.worker after, actor.report after)
    | _ => (keeper, none)
  | .worker actor, .addHandle => (.worker actor.addHandle, none)
  | .worker actor, .dropHandle => (.worker actor.dropHandle, none)
  | .worker actor, .join =>
    match actor.phase with
    | .stopped group => (.caller group, none)
    | _ => (keeper, none)
  | _, _ => (keeper, none)

/-- One use more, with what was reported before. -/
def next (life : Keeper × List Report) (entry : Bench × Use) : Keeper × List Report :=
  let (later, report) := life.1.step entry.1 entry.2
  (later, life.2 ++ report.toList)

/-- Use a new group again and again, each time on any bench. -/
def run (name : String) (history : List (Bench × Use)) : Keeper × List Report :=
  history.foldl next (.caller (Group.empty name), [])

/-- What an actor has answered. -/
def answers : Keeper → List (Nat × Answer)
  | .caller _ => []
  | .worker actor => actor.answers

end Keeper

/-- A command for a finite level is not refused for the level. -/
theorem Attenuator.verdict_ne_notFinite {attenuator : Attenuator} {value : Level} {bench : Bench}
    (finite : value.isFinite) : attenuator.verdict value bench ≠ .notFinite := by
  unfold verdict
  rw [if_pos finite]
  by_cases poisoned : (bench.session attenuator.session).poisoned
  · simp [poisoned]
  cases known : (attenuator.simulator bench).maximum with
  | none => simp [poisoned]
  | some maximum =>
    by_cases above : maximum < attenuator.raw value
    · simp [poisoned, above]
    by_cases trapped : (bench.session attenuator.session).trap.onSet = some attenuator.index
    · simp [poisoned, above, trapped]
    · simp [poisoned, above, trapped]

/-- Faults that a finite level can meet. -/
def Fault.IsOperational (fault : Fault) : Prop :=
  fault.kind = .session ∨ fault.kind = .invalidState ∨ fault.kind = .limitExceeded

/-- A command to an attenuator for a finite level never fails for its arguments. -/
theorem Attenuator.isOperational_of_failed {attenuator : Attenuator} {value : Level}
    {bench : Bench} {fault : Fault} (finite : value.isFinite)
    (failed : ((attenuator.set value).run bench).1 = .failed fault) : fault.IsOperational := by
  rw [run_set] at failed
  cases fared : attenuator.verdict value bench with
  | notFinite => exact absurd fared (verdict_ne_notFinite finite)
  | poisoned =>
    rw [fared] at failed
    cases failed
    exact .inl rfl
  | maximumUnknown =>
    rw [fared] at failed
    cases failed
    exact .inr (.inl rfl)
  | limitExceeded maximum =>
    rw [fared] at failed
    cases failed
    exact .inr (.inr rfl)
  | crashes =>
    rw [fared] at failed
    cases failed
  | reaches =>
    rw [fared] at failed
    cases answered : (attenuator.response value bench).answer with
    | ok =>
      rw [answered] at failed
      cases failed
    | error source =>
      rw [answered] at failed
      cases failed
      exact .inl rfl

namespace Group

/-- A group command for a finite level never fails for its arguments. -/
theorem isOperational_of_stop {group : Group} {value : Level} {bench after : Bench}
    {stop : GroupStop} (finite : value.isFinite)
    (ran : (group.set value).run bench = (.failed stop, after)) : stop.source.IsOperational := by
  obtain ⟨count, result, -, ends, commanded⟩ := set_endsAt group bench finite
  rw [commanded] at ran
  cases ends with
  | last => cases ran
  | failed found failed =>
    cases ran
    exact Attenuator.isOperational_of_failed finite failed
  | crashed found crashed => cases ran

/-- What an answer of a group means for the level that the group remembers. -/
structure Answers (group : Group) (request : Request) (after : Group) (answer : Answer) :
    Prop where
  /-- The group remembers the level that it accepted, or what it remembered. -/
  level : after.lastCommanded =
    (Report.accepted? ⟨request, answer⟩).getD group.lastCommanded
  /-- A level that is accepted is finite. -/
  finite : ∀ value, Report.accepted? ⟨request, answer⟩ = some value → value.isFinite
  /-- The group is asked for the level that it remembers. -/
  get : request = .get → answer = .ok (.level group.lastCommanded)
  /-- With a finite level, going back to it never fails for the arguments. -/
  synchronize : request = .synchronize → group.lastCommanded.isFinite →
    ∀ fault, answer = .error fault → ∃ source, fault = .operation source ∧ source.IsOperational

/-- A group that accepts no level remembers what it remembered. -/
theorem Answers.kept {group : Group} {request : Request} {answer : Answer}
    (none : Report.accepted? ⟨request, answer⟩ = none)
    (get : request = .get → answer = .ok (.level group.lastCommanded))
    (synchronize : request = .synchronize → group.lastCommanded.isFinite →
      ∀ fault, answer = .error fault →
        ∃ source, fault = .operation source ∧ source.IsOperational) :
    group.Answers request group answer where
  level := by rw [none, Option.getD_none]
  finite value same := by
    rw [none] at same
    cases same
  get := get
  synchronize := synchronize

/-- A group command is answered with success, for a finite level that the group then remembers, or
with the fault at which it stopped, and then the group is as it was. -/
theorem answer_of_command {group after : Group} {value : Level} {answer : Answer}
    {bench later : Bench}
    (ran : (do
      match ← (group.set value).attempt with
      | .ok after => return (after, .ok .done)
      | .error stop => return (group, .error (.ofStop stop)) :
      Action Empty (Group × Answer)).run bench = (.done (after, answer), later)) :
    (answer = .ok .done ∧ value.isFinite ∧ after = { group with lastCommanded := value }) ∨
      after = group ∧ ∃ stop between, answer = .error (.ofStop stop) ∧
        (group.set value).run bench = (.failed stop, between) := by
  have tried : ((group.set value).attempt : Action Empty (Except GroupStop Group)).run bench =
    _ := Action.run_attempt _ _
  cases ended : (group.set value).run bench with
  | mk outcome between =>
    rw [ended] at tried
    cases outcome with
    | done result =>
      rw [Action.run_bind_done _ tried] at ran
      cases ran
      exact .inl ⟨rfl, done_of_set ended⟩
    | failed stop =>
      rw [Action.run_bind_done _ tried] at ran
      cases ran
      exact .inr ⟨rfl, stop, _, rfl, rfl⟩
    | crashed =>
      rw [Action.run_bind_crashed _ tried] at ran
      cases ran

/-- Every answer of a group is in keeping with the level that the group remembers. -/
theorem answers_of_done {group after : Group} {request : Request} {answer : Answer}
    {bench later : Bench}
    (ran : (group.answerDirectly request).run bench = (.done (after, answer), later)) :
    group.Answers request after answer := by
  cases request with
  | set value =>
    rcases answer_of_command ran with ⟨rfl, finite, rfl⟩ | ⟨rfl, stop, between, rfl, -⟩
    · refine ⟨rfl, fun level same => ?_, fun other => ?_, fun other => ?_⟩
      · cases same
        exact finite
      · cases other
      · cases other
    · exact .kept rfl (fun other => by cases other) (fun other => by cases other)
  | synchronize =>
    rcases answer_of_command ran with ⟨rfl, finite, rfl⟩ | ⟨rfl, stop, between, rfl, failed⟩
    · exact .kept rfl (fun other => by cases other) fun _ _ fault same => by cases same
    · refine .kept rfl (fun other => by cases other) fun _ finite fault same => ?_
      cases same
      exact ⟨_, rfl, isOperational_of_stop finite failed⟩
  | get =>
    cases ran
    exact .kept rfl (fun _ => rfl) (fun other => by cases other)
  | isSynchronized =>
    obtain ⟨result, between, -, rest⟩ := Action.run_bind_eq_done.mp ran
    cases result with
    | ok value =>
      cases rest
      exact .kept rfl (fun other => by cases other) (fun other => by cases other)
    | error fault =>
      cases rest
      exact .kept rfl (fun other => by cases other) (fun other => by cases other)
  | shutdown =>
    cases ran
    exact .kept rfl (fun other => by cases other) (fun other => by cases other)

/-- Appending channels of an instrument keeps the remembered level. -/
theorem lastCommanded_of_addFrom {group result : Group} {session : SessionId}
    {selection : Selection} {bench after : Bench}
    (ran : (group.addFrom session selection).run bench = (.done result, after)) :
    result.lastCommanded = group.lastCommanded := by
  obtain ⟨created, between, -, extended⟩ := Action.run_bind_eq_done.mp ran
  rw [run_extend] at extended
  cases extended
  rfl

end Group

namespace Keeper

variable {keeper later : Keeper} {level : Level}

/-- The group remembers a finite level, wherever it is. -/
structure Remembers (keeper : Keeper) (level : Level) : Prop where
  /-- The level is finite. -/
  finite : level.isFinite
  /-- The group remembers it. -/
  same : ∀ group, keeper.group? = some group → group.lastCommanded = level

/-- A use leaves a group that remembers the level that it accepted, if it accepted one, and
answers from the level that was remembered before. -/
structure Advances (level : Level) (later : Keeper) (report : Option Report) : Prop where
  /-- What the group remembers afterwards. -/
  remembers : later.Remembers ((report.bind Report.accepted?).getD level)
  /-- What it answers when it is asked for its level. -/
  get : ∀ answer, report = some ⟨.get, answer⟩ → answer = .ok (.level level)
  /-- Why going back to its level may fail. -/
  synchronize : ∀ fault, report = some ⟨.synchronize, .error fault⟩ →
    ∃ source, fault = .operation source ∧ source.IsOperational

/-- A use that the group does not answer keeps the level. -/
theorem Advances.quiet (remembers : later.Remembers level) : Advances level later none where
  remembers := remembers
  get _ same := by cases same
  synchronize _ same := by cases same

/-- An answer of the group that had the level. -/
theorem Advances.answered {group after : Group} {request : Request} {answer : Answer}
    (finite : level.isFinite) (same : group.lastCommanded = level)
    (answers : group.Answers request after answer) (own : later.group? = some after) :
    Advances level later (some ⟨request, answer⟩) where
  remembers := by
    subst same
    refine ⟨?_, fun other present => ?_⟩
    · cases accepted : Report.accepted? ⟨request, answer⟩ with
      | none => simpa [accepted] using finite
      | some value => simpa [accepted] using answers.finite value accepted
    · rw [own] at present
      cases present
      exact answers.level
  get given asked := by
    cases asked
    rw [← same]
    exact answers.get rfl
  synchronize fault asked := by
    cases asked
    exact answers.synchronize rfl (same ▸ finite) fault rfl

/-- A caller that has the group with the level it remembered. -/
theorem Remembers.caller {group : Group} (finite : level.isFinite)
    (same : group.lastCommanded = level) : (Keeper.caller group).Remembers level := by
  refine ⟨finite, fun other present => ?_⟩
  cases present
  exact same

/-- A group that is extended keeps its level, and one that is not is kept. -/
theorem Remembers.held {ε : Type} {group : Group} (finite : level.isFinite)
    (same : group.lastCommanded = level) {outcome : Outcome ε Group}
    (extended : ∀ result, outcome = .done result →
      result.lastCommanded = group.lastCommanded) :
    (Keeper.caller (group.held outcome)).Remembers level := by
  refine .caller finite ?_
  cases outcome with
  | done result => exact (extended result rfl).trans same
  | failed fault => exact same
  | crashed => exact same

/-- A step of an actor leaves the group as its answer says. -/
theorem Remembers.serve {actor after : Actor} (remembers : (Keeper.worker actor).Remembers level)
    {bench left : Bench} (step : actor.Step bench after left) :
    Advances level (.worker after) (actor.report after) := by
  obtain ⟨finite, same⟩ := remembers
  have silent {after : Actor} (none : actor.report after = none)
      (kept : ∀ group, after.phase.group? = some group → actor.phase.group? = some group) :
      Advances level (.worker after) (actor.report after) := by
    rw [none]
    exact .quiet ⟨finite, fun group present => same group (kept group present)⟩
  have stops {group : Group} (serving : actor.phase = .serving group) (closing : Actor) :
      Advances level (.worker (closing.close (.stopped group)))
        (actor.report (closing.close (.stopped group))) := by
    have phase : (closing.close (.stopped group)).phase = .stopped group := by
      rw [Actor.close_eq]
    refine silent (Actor.report_of_closed (by simp [Actor.isClosed, phase])) fun other present => ?_
    rw [phase] at present
    rw [serving]
    exact present
  cases step with
  | closed closed => exact silent (Actor.report_of_closed closed) fun _ present => present
  | idle _ mailbox => exact silent (Actor.report_of_idle mailbox) fun _ present => present
  | abandoned serving => exact stops serving actor
  | shutdown serving => exact stops serving _
  | @answered group _ _ _ _ _ serving mailbox _ ran =>
    rw [Group.run_carryOut] at ran
    rw [Actor.report_of_answer mailbox]
    have level : group.lastCommanded = level :=
      same group (congrArg ActorPhase.group? serving)
    exact .answered finite level (Group.answers_of_done ran) rfl
  | crashed =>
    have phase (closing : Actor) : (closing.close .crashed).phase = .crashed := by
      rw [Actor.close_eq]
    refine silent (Actor.report_of_closed (by simp [Actor.isClosed, phase])) fun other present => ?_
    rw [phase] at present
    cases present

/-- Every use of a group keeps to the level that it remembers. -/
theorem Remembers.step (remembers : keeper.Remembers level) (bench : Bench) (use : Use) :
    Advances level (keeper.step bench use).1 (keeper.step bench use).2 := by
  have kept : Advances level keeper none := .quiet remembers
  cases keeper with
  | caller group =>
    have same : group.lastCommanded = level := remembers.same group rfl
    cases use with
    | add attenuator =>
      refine .quiet (.held remembers.finite same fun result done => ?_)
      cases done
      rfl
    | extend attenuators =>
      refine .quiet (.held remembers.finite same fun result done => ?_)
      rw [Group.run_extend] at done
      cases done
      rfl
    | addFrom session selection =>
      refine .quiet (.held remembers.finite same fun result done => ?_)
      exact Group.lastCommanded_of_addFrom (Prod.ext done rfl)
    | ask request =>
      simp only [step]
      split
      · rename_i after answer left ran
        exact .answered remembers.finite same (Group.answers_of_done ran) rfl
      · exact kept
    | spawn buffer => exact .quiet ⟨remembers.finite, remembers.same⟩
    | _ => exact kept
  | worker actor =>
    cases use with
    | send request =>
      refine .quiet ⟨remembers.finite, fun group present => remembers.same group ?_⟩
      change (actor.send request).2.phase.group? = _ at present
      rw [Actor.phase_send] at present
      exact present
    | serve =>
      simp only [step]
      split
      · rename_i after left ran
        exact remembers.serve (Actor.step_of_serve ran)
      · exact kept
    | addHandle => exact .quiet ⟨remembers.finite, remembers.same⟩
    | dropHandle => exact .quiet ⟨remembers.finite, remembers.same⟩
    | join =>
      cases phase : actor.phase with
      | stopped group =>
        have back : step (.worker actor) bench .join = (.caller group, none) := by
          simp only [step, phase]
        rw [back]
        refine .quiet (.caller remembers.finite (remembers.same group ?_))
        change actor.phase.group? = _
        rw [phase]
        rfl
      | _ =>
        have same : step (.worker actor) bench .join = (.worker actor, none) := by
          simp only [step, phase]
        rw [same]
        exact kept
    | _ => exact kept

/-- The faults that clients are told from one moment to another: the reported one, and that the
actor has closed. -/
def Explains (report : Option Report) (before after : List (Nat × Answer)) : Prop :=
  ∀ ticket fault, (ticket, .error fault) ∈ after →
    (ticket, .error fault) ∈ before ∨ fault = .actorClosed ∨
      ∃ request, report = some ⟨request, .error fault⟩

namespace Explains

variable {report : Option Report} {before after : List (Nat × Answer)}

/-- Where nothing is told there is nothing to explain. -/
theorem refl (report : Option Report) (answers : List (Nat × Answer)) :
    Explains report answers answers := fun _ _ member => .inl member

/-- Requests that are not served are told that the actor has closed. -/
theorem refusals (explains : Explains report before after) (mails : List Mail) :
    Explains report before (after ++ Actor.refusals mails) := by
  intro ticket fault member
  rcases List.mem_append.mp member with inside | refused
  · exact explains ticket fault inside
  · obtain ⟨mail, -, same⟩ := List.mem_map.mp refused
    cases request : mail.request with
    | shutdown =>
      rw [request] at same
      cases same
    | _ =>
      rw [request] at same
      cases same
      exact .inr (.inl rfl)

/-- The request that is served is told what is reported. -/
theorem answer {request : Request} {answer : Answer}
    (explains : Explains (some ⟨request, answer⟩) before after) (ticket : Nat) :
    Explains (some ⟨request, answer⟩) before (after ++ [(ticket, answer)]) := by
  intro number fault member
  rcases List.mem_append.mp member with inside | last
  · exact explains number fault inside
  · cases List.mem_singleton.mp last
    exact .inr (.inr ⟨request, rfl⟩)

/-- Sending a request. -/
theorem send (report : Option Report) (actor : Actor) (request : Request) :
    Explains report actor.answers (actor.send request).2.answers := by
  have same := refl report actor.answers
  cases phase : actor.phase with
  | serving group =>
    rw [Actor.send_of_serving phase, Actor.refill_eq]
    exact same.refusals _
  | stopped group =>
    rw [Actor.send_of_closed (by simp [Actor.isClosed, phase])]
    exact same.refusals _
  | crashed =>
    rw [Actor.send_of_closed (by simp [Actor.isClosed, phase])]
    exact same.refusals _

/-- A step of an actor. -/
theorem serve {actor after : Actor} {bench left : Bench} (step : actor.Step bench after left) :
    Explains (actor.report after) actor.answers after.answers := by
  have same (report : Option Report) := refl report actor.answers
  have refilled (report : Option Report) (rest : List Mail) :
      Explains report actor.answers ({ actor with mailbox := rest }.refill).answers := by
    rw [Actor.refill_eq]
    exact (same report).refusals _
  have closes {report : Option Report} {closing : Actor} (phase : ActorPhase)
      (explains : Explains report actor.answers closing.answers) :
      Explains report actor.answers (closing.close phase).answers := by
    rw [Actor.close_eq]
    exact explains.refusals _
  cases step with
  | closed => exact same _
  | idle => exact same _
  | abandoned => exact closes _ (same _)
  | shutdown => exact closes _ (refilled _ _)
  | @answered _ _ mail rest _ _ _ mailbox =>
    rw [Actor.report_of_answer mailbox]
    exact (refilled _ rest).answer mail.ticket
  | @crashed _ mail rest => exact closes _ ((refilled _ rest).refusals [mail])

end Explains

/-- Every use of a group tells clients what it reports, or that the actor has closed. -/
theorem step_explains (keeper : Keeper) (bench : Bench) (use : Use) :
    Explains (keeper.step bench use).2 keeper.answers (keeper.step bench use).1.answers := by
  have nothing : Explains none keeper.answers keeper.answers := .refl _ _
  cases keeper with
  | caller group =>
    cases use with
    | ask request =>
      simp only [step]
      split <;> exact .refl _ _
    | spawn buffer => exact .refl _ _
    | _ => exact nothing
  | worker actor =>
    cases use with
    | send request => exact .send none actor request
    | serve =>
      simp only [step]
      split
      · rename_i after left ran
        exact .serve (Actor.step_of_serve ran)
      · exact nothing
    | join =>
      simp only [step]
      split
      · intro _ _ member
        cases member
      · exact nothing
    | _ => exact nothing

/-- One report more: its level is the last one, if it accepted one. -/
theorem lastAccepted_append (reports : List Report) (report : Option Report) :
    Report.lastAccepted (reports ++ report.toList) =
      (report.bind Report.accepted?).getD (Report.lastAccepted reports) := by
  unfold Report.lastAccepted
  cases report with
  | none => simp
  | some report =>
    cases accepted : report.accepted? with
    | none => simp [accepted]
    | some value => simp [accepted]

/-- Whatever the history, the group remembers the level that it accepted last. -/
theorem Remembers.run (name : String) (history : List (Bench × Use)) :
    (run name history).1.Remembers (Report.lastAccepted (run name history).2) := by
  have keeps (life : Keeper × List Report)
      (remembers : life.1.Remembers (Report.lastAccepted life.2)) :
      (history.foldl next life).1.Remembers
        (Report.lastAccepted (history.foldl next life).2) := by
    induction history generalizing life with
    | nil => exact remembers
    | cons entry rest ih =>
      refine ih _ ?_
      have advances := remembers.step entry.1 entry.2
      have behind := lastAccepted_append life.2 (life.1.step entry.1 entry.2).2
      unfold next
      rw [behind]
      exact advances.remembers
  have zero : (0.0 : Level).isFinite := by decide
  exact keeps _ (.caller zero rfl)

/-- **A group remembers the level that it accepted last.** Take any history of a group from when it
was new: members appended, commands and questions, directly or through actors, each on any bench,
with any outcome. The group, wherever it is, remembers the level of the last group command that was
answered with success, or 0 dB, and this level is finite. So it does after every further use as
well: only a group command that is answered with success changes the level, a question for the
level is answered with it, and going back to it, with success or without, neither changes it nor
fails because an argument is malformed or a channel does not exist. Clients of an actor are told no
fault besides the reported one, except that the actor has closed. -/
theorem remembers_lastAccepted (name : String) (history : List (Bench × Use)) :
    let keeper := (run name history).1
    let level := Report.lastAccepted (run name history).2
    level.isFinite ∧ (∀ group, keeper.group? = some group → group.lastCommanded = level) ∧
      ∀ bench use,
        let later := (keeper.step bench use).1
        let report := (keeper.step bench use).2
        (∀ before after, keeper.group? = some before → later.group? = some after →
          report.bind Report.accepted? = none →
            after.lastCommanded = before.lastCommanded) ∧
        (∀ answer, report = some ⟨.get, answer⟩ → answer = .ok (.level level)) ∧
        (∀ fault, report = some ⟨.synchronize, .error fault⟩ →
          ∃ source, fault = .operation source ∧ source.kind ≠ .invalidArgument ∧
            source.kind ≠ .indexOutOfRange) ∧
        Explains report keeper.answers later.answers := by
  intro keeper level
  have remembers : keeper.Remembers level := .run name history
  refine ⟨remembers.finite, remembers.same, fun bench use => ?_⟩
  intro later report
  have advances : Advances level later report := remembers.step bench use
  refine ⟨fun before after held kept none => ?_, advances.get, fun fault asked => ?_,
    keeper.step_explains bench use⟩
  · have same := advances.remembers.same after kept
    rw [none, Option.getD_none] at same
    rw [same, remembers.same before held]
  · obtain ⟨source, wrapped, operational⟩ := advances.synchronize fault asked
    refine ⟨source, wrapped, ?_, ?_⟩
    · rcases operational with kind | kind | kind <;> simp [kind]
    · rcases operational with kind | kind | kind <;> simp [kind]

/-- A group without members accepts 20 dB, and refuses what is no number without forgetting it. -/
example (bench : Bench) :
    let commands := [Use.ask (.set 20.0), .ask (.set (0.0 / 0.0))].map fun use => (bench, use)
    Report.lastAccepted (run "" commands).2 = 20.0 ∧
      (run "" commands).1.group?.map Group.lastCommanded = some 20.0 := ⟨rfl, rfl⟩

end Keeper

end Attenuation
