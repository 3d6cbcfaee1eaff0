import Attenuation.Proofs.ActorRun

/-!
# How an actor ends

An actor ends in one of three ways: at the first shutdown that was sent, when its last handle was
dropped and nothing is left to serve, or at a crash of a driver. In each of them the requests in
front of the end were carried out and answered, and all others were refused without an effect. This
file says which requests those are (`Hub.Fate`) and that none waits forever, whatever moves clients
make between the steps of the actor.
-/

namespace Attenuation

namespace Service

/-- What one request more does to a direct run. -/
inductive Turn (service : Service) (request : Request) : Service → Prop where
  /-- A run that has ended stays as it is. -/
  | idle (ended : ∀ own, service.phase ≠ .serving own) : Turn service request service
  /-- A shutdown ends the run with the group as it is. -/
  | shutdown {own : Group} (serving : service.phase = .serving own)
      (asked : request = .shutdown) :
      Turn service request ⟨.stopped own, service.answers ++ [.ok .done], service.bench⟩
  /-- Another request is answered by the group. -/
  | answered {own after : Group} {answer : Answer} {left : Bench}
      (serving : service.phase = .serving own) (other : request ≠ .shutdown)
      (ran : (own.answerDirectly request).run service.bench = (.done (after, answer), left)) :
      Turn service request ⟨.serving after, service.answers ++ [answer], left⟩
  /-- A crash ends the run. -/
  | crashed {own : Group} {left : Bench} (serving : service.phase = .serving own)
      (other : request ≠ .shutdown)
      (ran : (own.answerDirectly request).run service.bench = (.crashed, left)) :
      Turn service request ⟨.crashed, service.answers ++ [.error .actorClosed], left⟩

/-- Every request does one of these. -/
theorem turn_next (service : Service) (request : Request) :
    service.Turn request (service.next request) := by
  cases phase : service.phase with
  | stopped own =>
    have same : service.next request = service := by
      unfold next
      rw [phase]
    rw [same]
    exact .idle fun other serving => by simp [phase] at serving
  | crashed =>
    have same : service.next request = service := by
      unfold next
      rw [phase]
    rw [same]
    exact .idle fun other serving => by simp [phase] at serving
  | serving own =>
    by_cases asked : request = .shutdown
    · rw [asked, next_shutdown phase]
      exact .shutdown phase rfl
    · cases ran : (own.answerDirectly request).run service.bench with
      | mk outcome left =>
        cases outcome with
        | done result =>
          rw [next_of_done phase asked ran]
          exact .answered phase asked ran
        | failed fault => exact fault.elim
        | crashed =>
          rw [next_of_crashed phase asked ran]
          exact .crashed phase asked ran

/-- A request adds one answer at most. -/
theorem length_next (service : Service) (request : Request) :
    (service.next request).answers.length ≤ service.answers.length + 1 := by
  have turn := service.turn_next request
  generalize service.next request = next at turn ⊢
  cases turn with
  | idle => exact Nat.le_succ _
  | shutdown => simp
  | answered => simp
  | crashed => simp

end Service

namespace Hub

variable {group : Group} {buffer taken count : Nat} {start bench after : Bench} {hub later : Hub}

/-- How many requests stand in front of the first shutdown that was sent, which are all of them if
none was. -/
def ahead (hub : Hub) : Nat := hub.mails.findIdx Actor.isShutdown

/-- The first requests have been carried out on the group itself, none of them was a shutdown and
no driver has crashed: the group is what they have left, the bench shows what they have done, and
each of them has the answer that the group gave. -/
structure Carried (group : Group) (start : Bench) (hub : Hub) (count : Nat) (own : Group)
    (bench : Bench) : Prop where
  /-- There are as many, and all stand in front of the first shutdown. -/
  within : count ≤ hub.ahead
  /-- The group is what they have left. -/
  phase : (hub.direct group start count).phase = .serving own
  /-- The bench shows what they have done. -/
  performed : bench.withoutActors = (hub.direct group start count).bench.withoutActors
  /-- Every one was answered. -/
  complete : (hub.direct group start count).answers.length = count
  /-- Each has the answer that the group gave. -/
  answered : ∀ ticket < count,
    hub.actor.answer? ticket = (hub.direct group start count).answers[ticket]?

/-- Every request behind the first ones is refused, but for shutdowns, which ask for nothing
more. -/
def Refused (hub : Hub) (count : Nat) : Prop :=
  ∀ mail ∈ hub.mails.drop count,
    hub.actor.answer? mail.ticket = some (Actor.closedAnswer mail.request)

/-- What became of an actor and of the requests that were sent to it. -/
inductive Fate (group : Group) (start : Bench) (hub : Hub) (after : Bench) : Prop where
  /-- The actor serves. Behind the requests that it has carried out, the others are in its queue, in
  order and without an answer, but for shutdowns that have reached the mailbox. -/
  | serving {own : Group} {taken : Nat} (phase : hub.actor.phase = .serving own)
      (carried : Carried group start hub taken own after)
      (queue : hub.actor.mailbox ++ hub.actor.waiting = hub.mails.drop taken)
      (others : ∀ mail ∈ hub.mails.drop taken, ∀ value,
        hub.actor.answer? mail.ticket = some value →
          mail.request = .shutdown ∧ value = .ok .done)
  /-- The actor has stopped at the first shutdown and gives back the group as the requests in front
  of it have left it. -/
  | shutDown {own : Group} (phase : hub.actor.phase = .stopped own)
      (asked : hub.ahead < hub.sent.length)
      (carried : Carried group start hub hub.ahead own after)
      (refused : hub.Refused hub.ahead)
  /-- No shutdown was sent, and the actor has stopped because its last handle was dropped, when it
  had carried out everything. -/
  | abandoned {own : Group} (phase : hub.actor.phase = .stopped own)
      (lost : hub.actor.handles = 0)
      (carried : Carried group start hub hub.sent.length own after)
  /-- A driver has crashed while a request in front of every shutdown was carried out, and the group
  is lost. This request and all behind it are refused, and nothing was done after the crash. -/
  | crashed {own : Group} {taken : Nat} {mail : Mail} {between left : Bench}
      (phase : hub.actor.phase = .crashed)
      (carried : Carried group start hub taken own between)
      (turn : hub.mails[taken]? = some mail) (other : mail.request ≠ .shutdown)
      (ran : (own.answerDirectly mail.request).run between = (.crashed, left))
      (performed : after.withoutActors = left.withoutActors)
      (refused : hub.Refused taken)

/-- A direct run gives no more answers than it was given requests. -/
theorem length_direct (hub : Hub) (group : Group) (start : Bench) (count : Nat) :
    (hub.direct group start count).answers.length ≤ count := by
  induction count with
  | zero => exact Nat.le_refl 0
  | succ count ih =>
    cases found : hub.mails[count]? with
    | none =>
      have all : hub.mails.take (count + 1) = hub.mails.take count := by
        rw [List.take_add_one, found]
        exact List.append_nil _
      unfold direct at ih ⊢
      rw [all]
      exact Nat.le_succ_of_le ih
    | some mail =>
      rw [direct_succ found]
      exact Nat.le_trans (Service.length_next _ _) (Nat.succ_le_succ ih)

/-- A direct run that goes on after some requests has met no shutdown among them. -/
theorem not_shutdown_of_serving {own : Group} (inside : count ≤ hub.sent.length)
    (serving : (hub.direct group start count).phase = .serving own) :
    ∀ mail ∈ hub.mails.take count, ¬ Actor.isShutdown mail := by
  induction count generalizing own with
  | zero => simp
  | succ count ih =>
    have within : count < hub.mails.length := by rw [length_mails]; exact inside
    have found := List.getElem?_eq_getElem within
    rw [direct_succ found] at serving
    rw [List.take_add_one, found]
    intro mail member
    have turn := (hub.direct group start count).turn_next hub.mails[count].request
    generalize (hub.direct group start count).next hub.mails[count].request = service
      at serving turn
    cases turn with
    | idle ended => exact absurd serving (ended own)
    | shutdown => cases serving
    | crashed => cases serving
    | answered before other =>
      rcases List.mem_append.mp member with early | last
      · exact ih (Nat.le_of_succ_le inside) before mail early
      · rw [List.mem_singleton.mp last]
        exact fun asked => other (Actor.isShutdown_iff.mp asked)

/-- A direct run that goes on after some requests is still in front of the first shutdown. -/
theorem le_ahead_of_serving {own : Group} (inside : count ≤ hub.sent.length)
    (serving : (hub.direct group start count).phase = .serving own) : count ≤ hub.ahead := by
  have none := not_shutdown_of_serving inside serving
  rw [← length_mails] at inside
  refine Nat.le_of_not_lt fun early => ?_
  have within : hub.ahead < hub.mails.length := Nat.lt_of_lt_of_le early inside
  have shutdown : Actor.isShutdown hub.mails[hub.ahead] := List.findIdx_getElem
  exact none _ (List.mem_take_iff_getElem.mpr ⟨hub.ahead, by omega, rfl⟩) shutdown

/-- A shutdown that is met with every request in front of it carried out is the first one. -/
theorem ahead_eq_of_shutdown {own : Group} (serving : (hub.direct group start count).phase =
    .serving own) {mail : Mail} (found : hub.mails[count]? = some mail)
    (asked : mail.request = .shutdown) : hub.ahead = count := by
  obtain ⟨within, same⟩ := List.getElem?_eq_some_iff.mp found
  have inside : count ≤ hub.sent.length := by
    rw [← length_mails]
    exact Nat.le_of_lt within
  have front : count ≤ hub.ahead := le_ahead_of_serving inside serving
  have shutdown : Actor.isShutdown hub.mails[count] := by
    rw [same]
    exact Actor.isShutdown_iff.mpr asked
  have first : hub.ahead ≤ count := Nat.le_of_not_lt fun beyond =>
    absurd shutdown (Bool.eq_false_iff.mp (List.not_of_lt_findIdx beyond))
  omega

/-- The number of a request is its place. -/
theorem Follows.ticket_eq (follows : hub.Follows group buffer start bench taken) {mail : Mail}
    {place : Nat} (found : hub.mails[place]? = some mail) : mail.ticket = place := by
  have inside : place < hub.sent.length := by
    rw [← length_mails]
    exact (List.getElem?_eq_some_iff.mp found).1
  have numbers := congrArg (fun tickets => tickets[place]?) follows.tickets
  rw [List.getElem?_map, found, List.getElem?_range inside] at numbers
  exact Option.some.inj numbers

/-- A request behind the first ones is found under its number. -/
theorem Follows.found_of_behind (follows : hub.Follows group buffer start bench taken)
    {mail : Mail} (behind : mail ∈ hub.mails.drop count) :
    count ≤ mail.ticket ∧ hub.mails[mail.ticket]? = some mail := by
  obtain ⟨distance, found⟩ := List.mem_iff_getElem?.mp behind
  rw [List.getElem?_drop] at found
  rw [follows.ticket_eq found]
  exact ⟨Nat.le_add_right _ _, found⟩

/-- What became of an actor that serves. -/
theorem Follows.fate_of_serving (follows : hub.Follows group buffer start bench taken)
    {own : Group} (serving : hub.actor.phase = .serving own) : hub.Fate group start bench := by
  obtain ⟨settled, queue⟩ := follows.agrees.of_serving serving
  refine .serving serving ⟨le_ahead_of_serving follows.inside settled, settled, follows.performed,
    follows.answered, fun ticket early => ?_⟩ queue.order fun mail behind value given => ?_
  · have given := List.getElem?_eq_getElem (follows.answered.symm ▸ early)
    rw [given, follows.answer_of_serving serving]
    exact .inl given
  · obtain ⟨late, found⟩ := follows.found_of_behind behind
    rcases (follows.answer_of_serving serving).mp given with
      direct | ⟨done, other, inside, same, asked⟩
    · have within := (List.getElem?_eq_some_iff.mp direct).1
      rw [follows.answered] at within
      omega
    · have queued : other ∈ hub.mails.drop taken :=
        queue.order ▸ List.mem_append_left _ inside
      obtain ⟨-, twin⟩ := follows.found_of_behind queued
      rw [same, found] at twin
      cases twin
      exact ⟨asked, done⟩

/-- Once an actor has closed, the answers are those of the direct run over the requests that were
carried out and refusals of all others. -/
theorem Follows.answers_of_closed (follows : hub.Follows group buffer start bench taken)
    (closed : hub.actor.isClosed)
    (same : (hub.direct group start taken).answers ++
        (hub.mails.drop taken).map (fun mail => Actor.closedAnswer mail.request) =
      (hub.direct group start count).answers ++
        (hub.mails.drop count).map fun mail => Actor.closedAnswer mail.request)
    (complete : (hub.direct group start count).answers.length = count) :
    (∀ ticket < count,
      hub.actor.answer? ticket = (hub.direct group start count).answers[ticket]?) ∧
      hub.Refused count := by
  refine ⟨fun ticket early => ?_, fun mail behind => ?_⟩
  · rw [follows.answer_of_closed closed, same]
    exact List.getElem?_append_left (by rw [complete]; exact early)
  · obtain ⟨late, found⟩ := follows.found_of_behind behind
    rw [follows.answer_of_closed closed, same,
      List.getElem?_append_right (by rw [complete]; exact late), complete, List.getElem?_map,
      List.getElem?_drop, Nat.add_sub_cancel' late, found]
    rfl

/-- What became of an actor that closed with the direct run: the last request that was taken is the
one that closed it. -/
theorem Follows.fate_of_ended (follows : hub.Follows group buffer start bench taken)
    (closed : hub.actor.isClosed)
    (ended : hub.actor.phase = (hub.direct group start taken).phase) :
    hub.Fate group start bench := by
  have performed := follows.performed
  have complete := follows.answered
  cases taken with
  | zero =>
    unfold Actor.isClosed at closed
    rw [ended] at closed
    cases closed
  | succ count =>
    have within : count < hub.mails.length := by rw [length_mails]; exact follows.inside
    have found := List.getElem?_eq_getElem within
    have rest : hub.mails.drop count = hub.mails[count] :: hub.mails.drop (count + 1) :=
      List.drop_eq_getElem_cons within
    have short := hub.length_direct group start count
    have answers :=
      @Follows.answers_of_closed group buffer (count + 1) count start bench hub follows closed
    rw [direct_succ found] at ended performed complete answers
    have turn := (hub.direct group start count).turn_next hub.mails[count].request
    generalize (hub.direct group start count).next hub.mails[count].request = service
      at ended performed complete answers turn
    cases turn with
    | idle => omega
    | answered =>
      unfold Actor.isClosed at closed
      rw [ended] at closed
      cases closed
    | shutdown serving asked =>
      have first : hub.ahead = count := ahead_eq_of_shutdown serving found asked
      have before : (hub.direct group start count).answers.length = count := by
        simpa using complete
      have same : Actor.closedAnswer hub.mails[count].request = .ok .done := by
        rw [asked]
        rfl
      obtain ⟨given, refused⟩ := answers (by rw [rest, List.map_cons, same]; simp) before
      refine .shutDown ended ?_ ?_ (first.symm ▸ refused)
      · rw [first]
        exact follows.inside
      · rw [first]
        exact ⟨Nat.le_of_eq first.symm, serving, performed, before, given⟩
    | @crashed own left serving other ran =>
      have before : (hub.direct group start count).answers.length = count := by
        simpa using complete
      have refusal : Actor.closedAnswer hub.mails[count].request = .error .actorClosed := by
        cases request : hub.mails[count].request with
        | shutdown => exact absurd request other
        | _ => rfl
      obtain ⟨given, refused⟩ := answers (by rw [rest, List.map_cons, refusal]; simp) before
      have inside : count ≤ hub.sent.length := Nat.le_of_succ_le follows.inside
      exact .crashed ended
        ⟨le_ahead_of_serving inside serving, serving, rfl, before, given⟩ found other ran
        performed refused

/-- What became of any actor. -/
theorem Follows.fate (follows : hub.Follows group buffer start bench taken) :
    hub.Fate group start bench := by
  cases follows.agrees with
  | serving own settled queue => exact follows.fate_of_serving own
  | closed closed same queue =>
    rcases same with ended | ⟨own, serving, stopped, lost, all⟩
    · exact follows.fate_of_ended closed ended
    · have answered := (follows.answers_of_closed closed rfl follows.answered).1
      have inside := le_ahead_of_serving follows.inside serving
      refine .abandoned stopped lost ?_
      rw [← all]
      exact ⟨inside, serving, follows.performed, follows.answered, answered⟩

/-- Only what was sent is answered. -/
theorem Follows.sent_of_answer (follows : hub.Follows group buffer start bench taken)
    {ticket : Nat} {value : Answer} (given : hub.actor.answer? ticket = some value) :
    ticket < hub.sent.length := by
  have inside := follows.inside
  have answered := follows.answered
  cases agrees : follows.agrees with
  | serving serving settled queue =>
    rcases (follows.answer_of_serving serving).mp given with direct | ⟨-, mail, member, same, -⟩
    · have within := (List.getElem?_eq_some_iff.mp direct).1
      omega
    · have behind : mail ∈ hub.mails.drop taken := queue.order ▸ List.mem_append_left _ member
      obtain ⟨-, found⟩ := follows.found_of_behind behind
      rw [← length_mails, ← same]
      exact (List.getElem?_eq_some_iff.mp found).1
  | closed closed =>
    rw [follows.answer_of_closed closed] at given
    have within := (List.getElem?_eq_some_iff.mp given).1
    simp only [List.length_append, List.length_map, List.length_drop, length_mails] at within
    omega

end Hub

namespace Actor

variable {actor next : Actor} {bench left : Bench}

/-- A request that is sent takes no answer back. -/
theorem answers_prefix_send (actor : Actor) (request : Request) :
    actor.answers <+: (actor.send request).2.answers := by
  by_cases closed : actor.isClosed
  · rw [send_of_closed closed]
    exact List.prefix_append _ _
  · obtain ⟨group, serving⟩ := serving_of_not_isClosed closed
    rw [send_of_serving serving, refill_eq]
    exact List.prefix_append _ _

/-- A step of the actor takes no answer back. -/
theorem Step.answers_prefix (step : actor.Step bench next left) :
    actor.answers <+: next.answers := by
  cases step with
  | closed => exact List.prefix_rfl
  | idle => exact List.prefix_rfl
  | abandoned =>
    rw [close_eq]
    exact List.prefix_append _ _
  | shutdown =>
    rw [close_eq, refill_eq]
    exact (List.prefix_append _ _).trans (List.prefix_append _ _)
  | answered =>
    rw [answer, refill_eq]
    exact (List.prefix_append _ _).trans (List.prefix_append _ _)
  | crashed =>
    rw [close_eq, answer, refill_eq]
    exact ((List.prefix_append _ _).trans (List.prefix_append _ _)).trans (List.prefix_append _ _)

end Actor

namespace Hub

variable {group : Group} {buffer taken count : Nat} {start bench between after : Bench}
  {hub next later : Hub}

/-- What moves leave as it was: answers and requests, everything about an actor that has closed and
the bench behind it, and that nobody has a handle. -/
structure Continues (hub : Hub) (bench : Bench) (later : Hub) (after : Bench) : Prop where
  /-- No answer is taken back. -/
  answers : hub.actor.answers <+: later.actor.answers
  /-- No request is taken back. -/
  sent : hub.sent <+: later.sent
  /-- An actor that has closed does nothing more. -/
  ended : hub.actor.isClosed → later.actor.phase = hub.actor.phase ∧ after = bench
  /-- Without a handle nothing more is sent. -/
  lost : hub.actor.handles = 0 → later.actor.handles = 0 ∧ later.sent = hub.sent

/-- Nothing changes without a move. -/
theorem Continues.refl (hub : Hub) (bench : Bench) : hub.Continues bench hub bench :=
  ⟨List.prefix_rfl, List.prefix_rfl, fun _ => ⟨rfl, rfl⟩, fun lost => ⟨lost, rfl⟩⟩

/-- An actor that has closed is closed after any moves. -/
theorem Continues.isClosed (continues : hub.Continues bench later after)
    (closed : hub.actor.isClosed) : later.actor.isClosed := by
  unfold Actor.isClosed at closed ⊢
  rw [(continues.ended closed).1]
  exact closed

/-- Moves go on behind others. -/
theorem Continues.trans (first : hub.Continues bench next between)
    (second : next.Continues between later after) : hub.Continues bench later after := by
  refine ⟨first.answers.trans second.answers, first.sent.trans second.sent, fun closed => ?_,
    fun lost => ?_⟩
  · obtain ⟨phase, same⟩ := first.ended closed
    obtain ⟨last, unchanged⟩ := second.ended (first.isClosed closed)
    exact ⟨last.trans phase, unchanged.trans same⟩
  · obtain ⟨gone, sent⟩ := first.lost lost
    obtain ⟨still, more⟩ := second.lost gone
    exact ⟨still, more.trans sent⟩

/-- Every move leaves this as it was. -/
theorem Continues.step {move : Move} (ran : (hub.step move).run bench = (.done later, after)) :
    hub.Continues bench later after := by
  cases move with
  | send client request =>
    simp only [Hub.step] at ran
    by_cases gone : hub.actor.handles = 0
    · rw [if_pos gone] at ran
      cases ran
      exact .refl hub bench
    · rw [if_neg gone] at ran
      cases ran
      exact ⟨hub.actor.answers_prefix_send request, List.prefix_append _ _,
        fun _ => ⟨hub.actor.phase_send request, rfl⟩, fun lost => absurd lost gone⟩
  | serve =>
    obtain ⟨actor, _, served, ended⟩ := Action.run_bind_eq_done.mp ran
    cases ended
    have step := Actor.step_of_serve served
    refine ⟨step.answers_prefix, List.prefix_rfl, fun closed => ?_,
      fun lost => ⟨step.handles.trans lost, rfl⟩⟩
    obtain ⟨same, still⟩ := step.eq_of_closed closed
    exact ⟨congrArg Actor.phase same, still⟩
  | addHandle =>
    simp only [Hub.step] at ran
    by_cases gone : hub.actor.handles = 0
    · rw [if_pos gone] at ran
      cases ran
      exact .refl hub bench
    · rw [if_neg gone] at ran
      cases ran
      exact ⟨List.prefix_rfl, List.prefix_rfl, fun _ => ⟨rfl, rfl⟩, fun lost => absurd lost gone⟩
  | dropHandle =>
    cases ran
    exact ⟨List.prefix_rfl, List.prefix_rfl, fun _ => ⟨rfl, rfl⟩,
      fun lost => ⟨by simp [Actor.dropHandle, lost], rfl⟩⟩

/-- Moves keep to the direct run, and the actor takes a request in each of its steps until it closes
or has taken everything; without a handle it does not stop at that and closes. -/
theorem Follows.progress (follows : hub.Follows group buffer start bench taken)
    (moves : List Move) :
    ∃ later after count, (moves.foldlM Hub.step hub : Action Empty Hub).run bench =
        (.done later, after) ∧
      later.Follows group buffer start after count ∧ hub.Continues bench later after ∧
      (later.actor.isClosed ∨
        min hub.sent.length (taken + moves.countP Move.isServe) ≤ count ∧
          (hub.actor.handles = 0 → taken + moves.countP Move.isServe ≤ count)) := by
  induction moves generalizing hub bench taken with
  | nil =>
    exact ⟨hub, bench, taken, rfl, follows, .refl hub bench,
      .inr ⟨Nat.min_le_right _ _, fun _ => Nat.le_refl _⟩⟩
  | cons move rest ih =>
    obtain ⟨next, between, middle, moved, kept, one⟩ := follows.step move
    obtain ⟨later, after, count, ran, last, continues, progress⟩ := ih kept
    have step : hub.Continues bench next between := .step moved
    refine ⟨later, after, count, ?_, last, step.trans continues, ?_⟩
    · rw [List.foldlM_cons, Action.run_bind_done _ moved]
      exact ran
    · rcases progress with closed | ⟨reached, lost⟩
      · exact .inl closed
      · have sent := step.sent.length_le
        have steps : (move :: rest).countP Move.isServe =
            [move].countP Move.isServe + rest.countP Move.isServe :=
          @List.countP_append Move Move.isServe [move] rest
        rcases one with closed | more | ⟨same, whole, held⟩
        · exact .inl (continues.isClosed closed)
        · refine .inr ⟨by omega, fun gone => ?_⟩
          have behind := lost (step.lost gone).1
          omega
        · exact .inr ⟨by omega, fun gone => absurd gone held⟩

/-- An actor has closed once it has taken a shutdown. -/
theorem Follows.closed_of_shutdown (follows : later.Follows group buffer start after count)
    (sent : hub.sent <+: later.sent) (asked : hub.ahead < hub.sent.length)
    (reached : hub.sent.length ≤ count) : later.actor.isClosed := by
  by_cases closed : later.actor.isClosed
  · exact closed
  obtain ⟨own, serving⟩ := Actor.serving_of_not_isClosed closed
  obtain ⟨settled, -⟩ := follows.agrees.of_serving serving
  have within : hub.ahead < hub.mails.length := by rw [length_mails]; exact asked
  have shutdown : Actor.isShutdown hub.mails[hub.ahead] := List.findIdx_getElem
  have front : hub.mails <+: later.mails.take count :=
    List.prefix_take_iff.mpr ⟨sent.map Post.mail, by rw [length_mails]; exact reached⟩
  have member : hub.mails[hub.ahead] ∈ later.mails.take count :=
    front.subset (List.getElem_mem within)
  exact absurd shutdown (not_shutdown_of_serving follows.inside settled _ member)

/-- **How an actor ends.** Take any group, any buffer, any bench and any moves of clients and the
actor. Every request has a number of its own under which at most one answer is given, and `Fate`
says which requests were carried out, with the group, the bench and the answers that they have left,
and that all others were refused, by the way in which the actor has ended if it has. Whatever moves
follow, no answer is taken back, and an actor that has closed changes neither its group nor the
bench. Once they contain more steps of the actor than there are requests, every request has its
answer, and the actor has closed if a shutdown was sent or the last handle was dropped. -/
theorem run_ends (group : Group) (buffer : Nat) (start : Bench) (moves : List Move) :
    ∃ hub after, (run group buffer moves).run start = (.done hub, after) ∧
      hub.Posted (moves.filterMap Move.sent?) ∧
      hub.mails.map Mail.ticket = List.range hub.sent.length ∧
      (hub.actor.answers.map Prod.fst).Nodup ∧
      (∀ ticket value, hub.actor.answer? ticket = some value → ticket < hub.sent.length) ∧
      hub.Fate group start after ∧
      ∀ more : List Move, ∃ later left,
        (run group buffer (moves ++ more)).run start = (.done later, left) ∧
        hub.actor.answers <+: later.actor.answers ∧
        (hub.actor.isClosed → later.actor.phase = hub.actor.phase ∧ left = after) ∧
        (hub.sent.length < more.countP Move.isServe →
          (∀ ticket < hub.sent.length, (later.actor.answer? ticket).isSome) ∧
          (hub.ahead < hub.sent.length ∨ hub.actor.handles = 0 → later.actor.isClosed)) := by
  obtain ⟨actor, between, spawned, follows⟩ := Follows.spawned group buffer start
  obtain ⟨hub, after, taken, moved, follows⟩ := follows.moves moves
  have nothing : Posted ⟨actor, []⟩ [] := ⟨List.prefix_rfl, fun _ => rfl⟩
  refine ⟨hub, after, ?_, nothing.moves moved, follows.tickets, follows.distinct,
    fun _ _ given => follows.sent_of_answer given, follows.fate, fun more => ?_⟩
  · unfold run
    rw [Action.run_bind_done _ spawned]
    exact moved
  obtain ⟨later, left, count, ran, last, continues, progress⟩ := follows.progress more
  refine ⟨later, left, ?_, continues.answers, continues.ended, fun enough => ⟨fun ticket sent => ?_,
    fun ending => ?_⟩⟩
  · unfold run
    rw [Action.run_bind_done _ spawned, List.foldlM_append, Action.run_bind_done _ moved]
    exact ran
  · refine last.is_answered (progress.imp_right fun ⟨reached, _⟩ => ?_)
      (Nat.lt_of_lt_of_le sent continues.sent.length_le)
    omega
  · rcases progress with closed | ⟨reached, lost⟩
    · exact closed
    rcases ending with asked | gone
    · exact last.closed_of_shutdown continues.sent asked (by omega)
    · have behind := lost gone
      have inside := last.inside
      rw [(continues.lost gone).2] at inside
      omega

end Hub

end Attenuation
