import Attenuation.Actor
import Attenuation.Proofs.Double
import Attenuation.Proofs.GroupCommand

/-!
# The complete outcome of asking whether a group is synchronized

A group reads its members in order and stops at the first that fails or that reads another level
than the remembered one. What every member meets is the bench that the reads in front of it left:
`Group.scanned` is that bench. Reads change nothing but the logs of the instruments and the
refusals that are pending there, and since a refused read is a failed one, at most one refusal is
used up.
-/

namespace Attenuation

namespace Bench

/-- Between two benches the instruments were only read: each received its own of the listed reads,
in their order, each used up as many pending refusals of reads as it is listed to have refused, and
nothing else changed but the recorded events. -/
structure OnlyRead (before after : Bench) (reads : List (SimulatorId × Call))
    (refusing : List SimulatorId) : Prop where
  /-- Each instrument received its reads. -/
  received : before.Received after reads
  /-- Nothing else changed in an instrument but its pending refusals of reads. -/
  instruments : ∀ id, after.simulator id =
    { before.simulator id with
      calls := (after.simulator id).calls
      refusedGets := (before.simulator id).refusedGets - refusing.count id }
  /-- The sessions are as they were. -/
  sessions : ∀ id, after.session id = before.session id
  /-- No instrument and no session was put on the bench. -/
  connections : after.nextSimulator = before.nextSimulator ∧
    after.nextSession = before.nextSession ∧ after.probes = before.probes

namespace OnlyRead

/-- Where nothing changed nothing was read. -/
theorem refl (bench : Bench) : bench.OnlyRead bench [] [] where
  received := .of_simulator_eq fun _ => rfl
  instruments _ := rfl
  sessions _ := rfl
  connections := ⟨rfl, rfl, rfl⟩

/-- What was read twice was read in this order. -/
theorem trans {before middle after : Bench} {first second : List (SimulatorId × Call)}
    {early late : List SimulatorId} (one : before.OnlyRead middle first early)
    (two : middle.OnlyRead after second late) :
    before.OnlyRead after (first ++ second) (early ++ late) where
  received := one.received.trans two.received
  instruments id := by
    rw [two.instruments id, one.instruments id, List.count_append, Nat.sub_add_eq]
  sessions id := (two.sessions id).trans (one.sessions id)
  connections :=
    ⟨two.connections.1.trans one.connections.1, two.connections.2.1.trans one.connections.2.1,
      two.connections.2.2.trans one.connections.2.2⟩

end OnlyRead

end Bench

namespace Attenuator

variable {attenuator : Attenuator} {bench : Bench}

/-- The read that an instrument receives from an attenuator, if the read reaches it. -/
def calledToRead (attenuator : Attenuator) (bench : Bench) : List (SimulatorId × Call) :=
  if attenuator.reading bench = .reaches then
    [(attenuator.simulatorId bench, .get attenuator.index)]
  else []

/-- The instrument behind an attenuator, if the read reaches it and a refusal is pending there. -/
def refusingToRead (attenuator : Attenuator) (bench : Bench) : List SimulatorId :=
  if attenuator.reading bench = .reaches ∧ 0 < (attenuator.simulator bench).refusedGets then
    [attenuator.simulatorId bench]
  else []

/-- A read that does not crash is received by the instrument that it reaches, uses up a refusal that
is pending there, and changes nothing else. -/
theorem get_onlyRead (survived : (attenuator.get.run bench).1 ≠ .crashed) :
    bench.OnlyRead (attenuator.get.run bench).2 (attenuator.calledToRead bench)
      (attenuator.refusingToRead bench) := by
  unfold calledToRead refusingToRead
  rw [run_get] at survived ⊢
  cases fared : attenuator.reading bench with
  | poisoned => exact .refl bench
  | crashes =>
    rw [fared] at survived
    exact absurd rfl survived
  | reaches =>
    simp only [↓reduceIte, true_and]
    refine ⟨fun id => ?_, fun id => ?_, fun _ => rfl, rfl, rfl, rfl⟩
    · rw [simulator_asked]
      by_cases own : id = attenuator.simulatorId bench
      · rw [if_pos own, reply_simulator, own]
        simp [simulator]
      · rw [if_neg own]
        simp [Ne.symm own]
    · rw [simulator_asked]
      by_cases own : id = attenuator.simulatorId bench
      · have used : (attenuator.simulator bench).refusedGets - 1 =
            (attenuator.simulator bench).refusedGets - List.count id
              (if 0 < (attenuator.simulator bench).refusedGets then
                [attenuator.simulatorId bench] else []) := by
          split
          · rw [own, List.count_singleton_self]
          · rw [List.count_nil]
            omega
        rw [if_pos own, reply_simulator, used, own]
        rfl
      · rw [if_neg own]
        split <;> simp [Ne.symm own]

/-- A read that is done reached the instrument, which refused nothing. -/
theorem called_of_get_done {level : Level} (done : (attenuator.get.run bench).1 = .done level) :
    attenuator.calledToRead bench = [(attenuator.simulatorId bench, .get attenuator.index)] ∧
      attenuator.refusingToRead bench = [] := by
  unfold calledToRead refusingToRead
  rw [run_get] at done
  cases fared : attenuator.reading bench with
  | poisoned => rw [fared] at done; cases done
  | crashes => rw [fared] at done; cases done
  | reaches =>
    rw [fared] at done
    refine ⟨if_pos rfl, if_neg fun refused => ?_⟩
    have answered : (attenuator.reply bench).answer =
        .error (.unexpectedResponse s!"GET {attenuator.index}" "") := by
      simp [reply, Simulator.get, Simulator.log, refused.2]
    rw [answered] at done
    cases done

/-- A read whose driver crashes poisons the session and does nothing else. -/
theorem get_crashed_bench (crashed : (attenuator.get.run bench).1 = .crashed) :
    (attenuator.get.run bench).2 = bench.poison attenuator.session := by
  rw [run_get] at crashed ⊢
  cases fared : attenuator.reading bench with
  | poisoned => rw [fared] at crashed; cases crashed
  | crashes => rfl
  | reaches =>
    rw [fared] at crashed
    simp only [readBy] at crashed
    split at crashed <;> cases crashed

end Attenuator

namespace Group

section Scanned

variable (group : Group) (bench : Bench)

/-- The bench on which the member at a position is read: the members in front of it were read in
order. -/
def scanned (position : Nat) : Bench :=
  (group.members.take position).foldl (fun bench member => (member.get.run bench).2) bench

/-- Every member in front of a position is there and reads the remembered level when its turn
comes. -/
def AgreesBefore (position : Nat) : Prop :=
  ∀ earlier < position, ∃ member level, group.members[earlier]? = some member ∧
    (member.get.run (group.scanned bench earlier)).1 = .done level ∧
    (level == group.lastCommanded) = true

/-- The reads of the members in front of a position, each with the number of the instrument that it
goes to. -/
def reads (position : Nat) : List (SimulatorId × Call) :=
  (group.members.take position).map fun member => (member.simulatorId bench, .get member.index)

end Scanned

variable {group : Group} {bench : Bench}

/-- Reading the member at a position gives the bench of the next one. -/
theorem scanned_succ {position : Nat} {member : Attenuator}
    (found : group.members[position]? = some member) :
    group.scanned bench (position + 1) = (member.get.run (group.scanned bench position)).2 := by
  unfold scanned
  rw [List.take_add_one, found, List.foldl_append]
  rfl

namespace AgreesBefore

/-- No member is in front of the first. -/
theorem zero : group.AgreesBefore bench 0 := by
  intro earlier inside
  omega

/-- One more member that reads the remembered level. -/
theorem succ {position : Nat} {member : Attenuator} {level : Level}
    (agrees : group.AgreesBefore bench position)
    (found : group.members[position]? = some member)
    (read : (member.get.run (group.scanned bench position)).1 = .done level)
    (equal : (level == group.lastCommanded) = true) :
    group.AgreesBefore bench (position + 1) :=
  Nat.forall_lt_succ_right.mpr ⟨agrees, member, level, found, read, equal⟩

/-- The members in front of an earlier position agree as well. -/
theorem mono {first last : Nat} (agrees : group.AgreesBefore bench last) (ordered : first ≤ last) :
    group.AgreesBefore bench first :=
  fun earlier inside => agrees earlier (by omega)

/-- The instruments received the reads of the members that agree, in order, refused none of them,
and were not changed otherwise. -/
theorem onlyRead {position : Nat} (agrees : group.AgreesBefore bench position) :
    bench.OnlyRead (group.scanned bench position) (group.reads bench position) [] := by
  induction position with
  | zero => exact .refl bench
  | succ position ih =>
    have earlier := ih (agrees.mono (Nat.le_succ position))
    obtain ⟨member, level, found, read, -⟩ := agrees position (Nat.lt_succ_self position)
    have last := Attenuator.get_onlyRead (by rw [read]; exact nofun)
    rw [← scanned_succ found, (Attenuator.called_of_get_done read).1,
      (Attenuator.called_of_get_done read).2] at last
    have behind : member.simulatorId (group.scanned bench position) = member.simulatorId bench :=
      congrArg Session.simulator (earlier.sessions member.session)
    have split : group.reads bench (position + 1) =
        group.reads bench position ++ [(member.simulatorId bench, .get member.index)] := by
      simp [reads, List.take_add_one, found]
    rw [split, ← behind]
    exact earlier.trans last

end AgreesBefore

/-- How reading the members of a group in order ends at a position. -/
inductive AnswersAt (group : Group) (bench : Bench) : Nat → Outcome Fault Bool × Bench → Prop where
  /-- There is no member left. -/
  | all : AnswersAt group bench group.size (.done true, group.scanned bench group.size)
  /-- The member at the position reads another level. -/
  | differs {position : Nat} {member : Attenuator} {level : Level}
      (found : group.members[position]? = some member)
      (read : (member.get.run (group.scanned bench position)).1 = .done level)
      (other : (level == group.lastCommanded) = false) :
      AnswersAt group bench position (.done false, group.scanned bench (position + 1))
  /-- The member at the position fails. -/
  | failed {position : Nat} {member : Attenuator} {fault : Fault}
      (found : group.members[position]? = some member)
      (failed : (member.get.run (group.scanned bench position)).1 = .failed fault) :
      AnswersAt group bench position (.failed fault, group.scanned bench (position + 1))
  /-- The driver of the member at the position crashes. -/
  | crashed {position : Nat} {member : Attenuator}
      (found : group.members[position]? = some member)
      (crashed : (member.get.run (group.scanned bench position)).1 = .crashed) :
      AnswersAt group bench position (.crashed, group.scanned bench (position + 1))

/-- Reading the members that are left, behind members that agree, ends at the first that does not
agree. -/
theorem allRead_answersAt (front rest : List Attenuator) (whole : group.members = front ++ rest)
    (agrees : group.AgreesBefore bench front.length) :
    ∃ count, group.AgreesBefore bench count ∧
      group.AnswersAt bench count
        ((allRead group.lastCommanded rest).run (group.scanned bench front.length)) := by
  induction rest generalizing front with
  | nil =>
    refine ⟨front.length, agrees, ?_⟩
    have size : front.length = group.size := by simp [size, whole]
    rw [size]
    exact .all
  | cons member rest ih =>
    have found : group.members[front.length]? = some member := by simp [whole]
    have next : group.scanned bench (front.length + 1) = _ := scanned_succ found
    unfold allRead
    cases ended : member.get.run (group.scanned bench front.length) with
    | mk outcome after =>
      rw [ended] at next
      cases outcome with
      | done level =>
        rw [Action.run_bind_done _ ended]
        by_cases equal : level == group.lastCommanded
        · have tail := ih (front ++ [member]) (by simp [whole])
            (by simpa using agrees.succ found (by rw [ended]) equal)
          rw [List.length_append, List.length_singleton, next] at tail
          rw [if_pos equal]
          exact tail
        · refine ⟨front.length, agrees, ?_⟩
          rw [if_neg equal, ← show _ = after from next]
          exact .differs found (by rw [ended]) (Bool.eq_false_iff.mpr equal)
      | failed fault =>
        refine ⟨front.length, agrees, ?_⟩
        rw [Action.run_bind_failed _ ended, ← show _ = after from next]
        exact .failed found (by rw [ended])
      | crashed =>
        refine ⟨front.length, agrees, ?_⟩
        rw [Action.run_bind_crashed _ ended, ← show _ = after from next]
        exact .crashed found (by rw [ended])

/-- What a group that was asked whether it is synchronized read, past its first `count` members that
agree: `called` is the read beyond theirs, and `refusing` is what was refused. -/
structure Consulted (group : Group) (bench : Bench) (count : Nat)
    (called : List (SimulatorId × Call)) (refusing : List SimulatorId) (after : Bench) : Prop where
  /-- Every one of these members reads the remembered level when its turn comes. -/
  agrees : group.AgreesBefore bench count
  /-- At the turn of every member exactly those in front of it had been read. -/
  inOrder : ∀ position ≤ count,
    bench.OnlyRead (group.scanned bench position) (group.reads bench position) []
  /-- Altogether these members were read and then what was called, and nothing else changed than
  what a refused read uses up. -/
  onlyRead : bench.OnlyRead after (group.reads bench count ++ called) refusing

/-- A member that does not crash is read behind the members that agree. -/
theorem Consulted.of_member {count : Nat} {member : Attenuator}
    (agrees : group.AgreesBefore bench count) (found : group.members[count]? = some member)
    (survived : (member.get.run (group.scanned bench count)).1 ≠ .crashed) :
    group.Consulted bench count (member.calledToRead (group.scanned bench count))
      (member.refusingToRead (group.scanned bench count)) (group.scanned bench (count + 1)) where
  agrees := agrees
  inOrder _ inside := (agrees.mono inside).onlyRead
  onlyRead := by
    rw [scanned_succ found]
    exact agrees.onlyRead.trans (Attenuator.get_onlyRead survived)

/-- **The complete outcome of asking whether a group is synchronized.** There is a position up to
which every member reads the remembered level when its turn comes. Past the last member the answer
is yes. At a member that reads another level the answer is no, and what is not a number is always
another level. At a member that fails the question fails with the fault of the member, and where
its driver crashes the question crashes; what the members behind would have read does not matter.
The instruments received the reads of the members that agree, in order, and the one of the last
member if it reached its instrument. No command was received, no stored level, session or setting
changed but the pending refusal that the last read may have used up, and whoever holds the group has
it as it was. -/
theorem isSynchronized_complete (group : Group) (bench : Bench) :
    let outcome := (group.isSynchronized.run bench).1
    let after := (group.isSynchronized.run bench).2
    (∃ count,
      (count = group.size ∧ group.Consulted bench count [] [] after ∧ outcome = .done true) ∨
      ∃ member, group.members[count]? = some member ∧
        let turn := group.scanned bench count
        (group.Consulted bench count (member.calledToRead turn) (member.refusingToRead turn) after ∧
          ((∃ level, (member.get.run turn).1 = .done level ∧
              (level == group.lastCommanded) = false ∧ outcome = .done false) ∨
            ∃ fault, (member.get.run turn).1 = .failed fault ∧ outcome = .failed fault)) ∨
        (group.Consulted bench count [] [] turn ∧ (member.get.run turn).1 = .crashed ∧
          outcome = .crashed ∧ after = turn.poison member.session)) ∧
    (∀ level : Level, level.isNaN → (level == group.lastCommanded) = false) ∧
    ∀ kept, ((group.carryOut .isSynchronized : Action Empty (Group × Answer)).run bench).1 =
      .done kept → kept.1 = group := by
  intro outcome after
  have quiet {count : Nat} (agrees : group.AgreesBefore bench count) :
      group.Consulted bench count [] [] (group.scanned bench count) :=
    ⟨agrees, fun _ inside => (agrees.mono inside).onlyRead, by
      rw [List.append_nil]
      exact agrees.onlyRead⟩
  refine ⟨?_, fun level nan => Level.beq_of_isNaN nan _, fun kept held => ?_⟩
  · have start : group.AgreesBefore bench ([] : List Attenuator).length := AgreesBefore.zero
    obtain ⟨count, agrees, answers⟩ := allRead_answersAt [] group.members rfl start
    generalize asked : (allRead group.lastCommanded group.members).run
      (group.scanned bench ([] : List Attenuator).length) = result at answers
    have ran : group.isSynchronized.run bench = result := asked
    refine ⟨count, ?_⟩
    simp only [outcome, after, ran]
    cases answers with
    | all => exact .inl ⟨rfl, quiet agrees, rfl⟩
    | @differs _ member level found read other =>
      have consulted := Consulted.of_member agrees found (by rw [read]; exact nofun)
      exact .inr ⟨member, found, .inl ⟨consulted, .inl ⟨level, read, other, rfl⟩⟩⟩
    | @failed _ member fault found failed =>
      have consulted := Consulted.of_member agrees found (by rw [failed]; exact nofun)
      exact .inr ⟨member, found, .inl ⟨consulted, .inr ⟨fault, failed, rfl⟩⟩⟩
    | @crashed _ member found crashed =>
      have left := Attenuator.get_crashed_bench crashed
      rw [← scanned_succ found] at left
      exact .inr ⟨member, found, .inr ⟨quiet agrees, crashed, rfl, left⟩⟩
  · unfold carryOut at held
    rw [Action.run_bind, Action.run_attempt] at held
    cases ended : group.isSynchronized.run bench with
    | mk outcome after =>
      rw [ended] at held
      cases outcome <;> cases held <;> rfl

end Group

end Attenuation
