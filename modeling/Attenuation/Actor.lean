import Attenuation.Group
import Attenuation.Rack.Fault

/-!
# Actors

An actor owns a group and serves the requests of any number of clients one at a time. Requests
wait in a mailbox of bounded capacity and are served in the order in which they were sent; a
request that finds the mailbox full waits in front of it. A shutdown stops the actor behind the
requests sent before it, and so does the loss of its last handle once the mailbox is empty.
Every request is answered exactly once: by the group, or by the fault that the actor has closed.

The actor is a machine with small steps, `send`, `serve`, `dropHandle` and `settle`, so that any
interleaving of clients with the actor is a sequence of steps.
-/

namespace Attenuation

/-- What a client asks of the actor of a group. -/
inductive Request where
  /-- Command the group to a level. -/
  | set (value : Level)
  /-- Ask for the remembered level. -/
  | get
  /-- Ask whether the members read back the remembered level. -/
  | isSynchronized
  /-- Command the group to the remembered level. -/
  | synchronize
  /-- Stop behind the requests sent before. -/
  | shutdown

/-- What a client is answered. -/
inductive Reply where
  /-- The request was carried out. -/
  | done
  /-- The remembered level. -/
  | level (value : Level)
  /-- Whether the members read back the remembered level. -/
  | synchronized (value : Bool)

/-- The answer to a request. -/
abbrev Answer := Except RackFault Reply

/-- A request with the number under which it is answered. -/
structure Mail where
  /-- The number of the request. -/
  ticket : Nat
  /-- The request. -/
  request : Request

/-- Where an actor is in its life. -/
inductive ActorPhase where
  /-- It serves requests with its group. -/
  | serving (group : Group)
  /-- It has stopped and gives its group back. -/
  | stopped (group : Group)
  /-- A driver crashed, and the group is lost. -/
  | crashed

/-- An actor with its mailbox. -/
structure Actor where
  /-- The name of the group. -/
  name : String
  /-- How many requests the mailbox holds. -/
  capacity : Nat
  /-- How many handles are left. -/
  handles : Nat
  /-- Where the actor is in its life. -/
  phase : ActorPhase
  /-- The requests in the mailbox, oldest first. -/
  mailbox : List Mail
  /-- The requests in front of the full mailbox, oldest first. -/
  waiting : List Mail
  /-- The answers given so far, by the numbers of their requests. -/
  answers : List (Nat × Answer)
  /-- The number of the next request. -/
  nextTicket : Nat

namespace Group

/-- Carry out a request other than a shutdown, and give the group afterwards. A fault leaves the
group as it was. -/
def carryOut {ε : Type} (group : Group) : Request → Action ε (Group × Answer)
  | .set value => do
    Action.emit (.actorSetting group.name value)
    match ← (group.set value).attempt with
    | .ok group => return (group, .ok .done)
    | .error stop => return (group, .error (.ofStop stop))
  | .get => return (group, .ok (.level group.lastCommanded))
  | .isSynchronized => do
    match ← group.isSynchronized.attempt with
    | .ok value => return (group, .ok (.synchronized value))
    | .error fault => return (group, .error (.operation fault))
  | .synchronize => do
    Action.emit (.actorSynchronizing group.name)
    match ← group.synchronize.attempt with
    | .ok group => return (group, .ok .done)
    | .error stop => return (group, .error (.ofStop stop))
  | .shutdown => return (group, .ok .done)

end Group

namespace Actor

/-- Hand a group to a new actor with one handle. -/
def spawn {ε : Type} (group : Group) (buffer : Nat) : Action ε Actor := do
  Action.emit (.actorStarted group.name group.size)
  return {
    name := group.name
    capacity := max buffer 1
    handles := 1
    phase := .serving group
    mailbox := []
    waiting := []
    answers := []
    nextTicket := 0 }

/-- Whether the actor serves no more requests. -/
def isClosed (actor : Actor) : Bool :=
  match actor.phase with
  | .serving _ => false
  | _ => true

/-- What a request is answered once the actor has closed. A shutdown asks for nothing more. -/
def closedAnswer : Request → Answer
  | .shutdown => .ok .done
  | _ => .error .actorClosed

/-- Give an answer. -/
def answer (actor : Actor) (ticket : Nat) (value : Answer) : Actor :=
  { actor with answers := actor.answers ++ [(ticket, value)] }

/-- Whether a request is a shutdown. -/
def isShutdown (mail : Mail) : Bool :=
  match mail.request with
  | .shutdown => true
  | _ => false

/-- Put a request into the mailbox. The client of a shutdown waits for nothing but this. -/
def deliver (actor : Actor) (mail : Mail) : Actor :=
  let delivered := { actor with mailbox := actor.mailbox ++ [mail] }
  if isShutdown mail then delivered.answer mail.ticket (.ok .done) else delivered

/-- Move waiting requests into the free places of the mailbox, in order. -/
def refill (actor : Actor) : Actor :=
  let free := actor.capacity - actor.mailbox.length
  (actor.waiting.take free).foldl deliver { actor with waiting := actor.waiting.drop free }

/-- Send a request. Its number is given back. -/
def send (actor : Actor) (request : Request) : Nat × Actor :=
  let mail : Mail := ⟨actor.nextTicket, request⟩
  let numbered := { actor with nextTicket := actor.nextTicket + 1 }
  (mail.ticket,
    if actor.isClosed then numbered.answer mail.ticket (closedAnswer request)
    else { numbered with waiting := numbered.waiting ++ [mail] }.refill)

/-- Answer requests that will not be served. -/
def answerClosed (actor : Actor) (mails : List Mail) : Actor :=
  mails.foldl (fun actor mail => actor.answer mail.ticket (closedAnswer mail.request)) actor

/-- Close the actor: what is in the mailbox is dropped and what waits is refused. The clients of
shutdowns in the mailbox have their answers already. -/
def close (actor : Actor) (phase : ActorPhase) : Actor :=
  let dropped := actor.mailbox.filter fun mail => !isShutdown mail
  { actor with phase := phase, mailbox := [], waiting := [] }.answerClosed
    (dropped ++ actor.waiting)

/-- Stop the actor with its group. -/
def stop {ε : Type} (actor : Actor) (group : Group) : Action ε Actor := do
  Action.emit (.actorStopped group.name)
  return actor.close (.stopped group)

/-- Carry out a request of the mailbox. A crash of a driver closes the actor and is answered like
everything behind it. -/
def serveMail {ε : Type} (actor : Actor) (group : Group) (mail : Mail) : Action ε Actor :=
  fun bench =>
    match (group.carryOut mail.request : Action ε (Group × Answer)) bench with
    | (.done (group, value), bench) =>
      (.done ({ actor with phase := .serving group }.answer mail.ticket value), bench)
    | (.failed fault, bench) => (.failed fault, bench)
    | (.crashed, bench) =>
      (.done ((actor.answer mail.ticket (closedAnswer mail.request)).close .crashed), bench)

/-- Take the oldest request out of the mailbox and carry it out. Without a request, an actor that
has lost its last handle stops. -/
def serve {ε : Type} (actor : Actor) : Action ε Actor :=
  match actor.phase with
  | .serving group =>
    match actor.mailbox with
    | [] => if actor.handles = 0 then actor.stop group else pure actor
    | mail :: rest =>
      let taken := { actor with mailbox := rest }.refill
      if isShutdown mail then taken.stop group else taken.serveMail group mail
  | _ => pure actor

/-- Take steps until nothing is left to do, at most as many as `fuel` says. -/
def serveAll {ε : Type} : Nat → Actor → Action ε Actor
  | 0, actor => pure actor
  | fuel + 1, actor => do serveAll fuel (← actor.serve)

/-- Serve every request that was sent so far. -/
def settle {ε : Type} (actor : Actor) : Action ε Actor :=
  serveAll (actor.mailbox.length + actor.waiting.length + 1) actor

/-- Add a handle. -/
def addHandle (actor : Actor) : Actor := { actor with handles := actor.handles + 1 }

/-- Drop a handle. -/
def dropHandle (actor : Actor) : Actor := { actor with handles := actor.handles - 1 }

/-- The answer to a request, if it was given. -/
def answer? (actor : Actor) (ticket : Nat) : Option Answer := actor.answers.lookup ticket

/-- Send requests in order, as clients do that wait for their answers together. -/
def sendAll (actor : Actor) : List Request → List Nat × Actor
  | [] => ([], actor)
  | request :: rest =>
    let (ticket, actor) := actor.send request
    let (tickets, actor) := actor.sendAll rest
    (ticket :: tickets, actor)

/-- Send requests together and wait for their answers. -/
def ask {ε : Type} (actor : Actor) (requests : List Request) : Action ε (List Answer × Actor) := do
  let (tickets, actor) := actor.sendAll requests
  let actor ← actor.settle
  return (tickets.map fun ticket => (actor.answer? ticket).getD (.error .actorClosed), actor)

end Actor

end Attenuation
