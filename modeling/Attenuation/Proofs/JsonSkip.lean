import Attenuation.Json.Skip
import Attenuation.Proofs.JsonGrammar

/-!
# Passing over JSON values

The machine that passes over the value of an unknown field takes every JSON value as a whole.
`SkipsTo` relates two configurations of the machine by a bound on the steps between them. A scalar
takes one step. Between brackets each piece takes a step in front of its own, so two steps for each
character are enough, by induction on the value.
-/

namespace Attenuation.Json

/-- Digits are passed over. -/
theorem skipDigits_append {digits rest : List Char} (written : IsDigits digits)
    (ends : EndsDigits rest) : skipDigits (digits ++ rest) = .ok rest := by
  have split := splitDigits_append written.all ends
  obtain ⟨c, others, rfl, digit⟩ := written.exists_cons
  unfold skipDigits
  rw [List.cons_append] at split ⊢
  dsimp only
  rw [if_pos digit, split]

/-- A power of ten is passed over. -/
theorem skipExponent_append {power rest : List Char} (written : IsPower power)
    (ends : EndsNumber rest) : skipExponent (power ++ rest) = .ok rest := by
  obtain rfl | ⟨mark, sign, digits, marked, signed, written, rfl⟩ := written
  · cases rest with
    | nil => rfl
    | cons c rest =>
      have other := ends c rfl
      simp only [continuesNumber, Bool.or_eq_false_iff, beq_eq_false_iff_ne] at other
      simp [skipExponent, other]
  · have skipped := skipDigits_append written ends.endsDigits
    obtain ⟨c, others, rfl, digit⟩ := written.exists_cons
    rw [List.cons_append] at skipped
    have split := splitSign_append signed digit (others ++ rest)
    unfold skipExponent
    simp only [List.cons_append, List.append_assoc]
    rw [if_pos (by obtain rfl | rfl := marked <;> rfl), split]
    exact skipped

/-- A fraction and a power of ten are passed over. -/
theorem skipFraction_append {fraction power rest : List Char} (behind : IsFraction fraction)
    (scale : IsPower power) (ends : EndsNumber rest) :
    skipFraction (fraction ++ (power ++ rest)) = .ok rest := by
  obtain rfl | ⟨digits, written, rfl⟩ := behind
  · unfold skipFraction
    split
    · rename_i same
      exact absurd same (scale.unpointed ends _)
    · exact skipExponent_append scale ends
  · show (skipDigits (digits ++ (power ++ rest)) >>= skipExponent) = _
    rw [skipDigits_append written (scale.endsDigits ends)]
    exact skipExponent_append scale ends

/-- A number behind its sign is passed over. -/
theorem skipMagnitude_append {text rest : List Char} (written : IsMagnitude text)
    (ends : EndsNumber rest) : skipMagnitude (text ++ rest) = .ok rest := by
  obtain @⟨whole, fraction, power, front, behind, scale⟩ := written
  have next : EndsDigits (fraction ++ (power ++ rest)) :=
    behind.endsDigits (scale.endsDigits ends)
  rw [List.append_assoc, List.append_assoc]
  obtain rfl | ⟨digits, first⟩ := front
  · have alone : ¬ ((fraction ++ (power ++ rest)).head?.map Char.isDigit).getD false := by
      cases head : (fraction ++ (power ++ rest)).head? with
      | none => simp
      | some c => simp [next c head]
    exact (if_neg alone).trans (skipFraction_append behind scale ends)
  · have skipped := skipDigits_append digits next
    unfold skipMagnitude
    split
    · rename_i same
      obtain ⟨c, others, rfl, -⟩ := digits.exists_cons
      cases same
      contradiction
    · rw [skipped]
      exact skipFraction_append behind scale ends

/-- The machine comes from one configuration to another within a number of steps. -/
def SkipsTo (limit : Nat) (before : SkipState × List Bracket) (text : List Char)
    (after : SkipState × List Bracket) (rest : List Char) : Prop :=
  ∃ steps ≤ limit, ∀ fuel,
    (skipLoop (fuel + steps) before.1 before.2).run text = (skipLoop fuel after.1 after.2).run rest

section Steps

variable {before middle after : SkipState × List Bracket} {text between rest : List Char}

/-- Steps follow on steps. -/
theorem SkipsTo.trans {m n : Nat} (first : SkipsTo m before text middle between)
    (second : SkipsTo n middle between after rest) : SkipsTo (m + n) before text after rest := by
  obtain ⟨few, fewer, first⟩ := first
  obtain ⟨more, fewest, second⟩ := second
  refine ⟨more + few, by omega, fun fuel => ?_⟩
  rw [← Nat.add_assoc, first, second]

/-- A bound on the steps may be raised. -/
theorem SkipsTo.mono {m n : Nat} (skips : SkipsTo m before text after rest) (le : m ≤ n) :
    SkipsTo n before text after rest := by
  obtain ⟨steps, bound, same⟩ := skips
  exact ⟨steps, Nat.le_trans bound le, same⟩

/-- One step of the machine, as long as it is not done. -/
theorem SkipsTo.step (busy : before ≠ (.nextItem, []))
    (step : (skipStep before.1 before.2).run text = .ok (after, rest)) :
    SkipsTo 1 before text after rest := by
  refine ⟨1, Nat.le_refl _, fun fuel => ?_⟩
  have unfolded : skipLoop (fuel + 1) before.1 before.2 =
      skipStep before.1 before.2 >>= fun next => skipLoop fuel next.1 next.2 := by
    obtain ⟨state, stack⟩ := before
    rw [skipLoop.eq_def]
    cases state with
    | value | firstItem => rfl
    | nextItem =>
      cases stack with
      | nil => exact absurd rfl busy
      | cons bracket outer => rfl
  rw [unfolded]
  exact run_bind_ok step _

end Steps

/-- A value is passed over in two steps for each of its characters, wherever it stands. -/
def Skips (text : List Char) : Prop :=
  ∀ (stack : List Bracket) (blanks rest : List Char), AllSpace blanks → EndsNumber rest →
    SkipsTo (2 * text.length) (.value, stack) (blanks ++ (text ++ rest)) (.nextItem, stack) rest

/-- A scalar is passed over in one step. -/
theorem Skips.scalar {c : Char} {text : List Char} (starts : startsValue c) (list : c ≠ '[')
    (object : c ≠ '\x7b')
    (skipped : ∀ rest, EndsNumber rest →
      (skipScalar c).run (c :: (text ++ rest)) = .ok ((), rest)) :
    Skips (c :: text) := by
  intro stack blanks rest blank ends
  have step : (skipStep .value stack).run (blanks ++ c :: (text ++ rest)) =
      .ok ((.nextItem, stack), rest) := by
    unfold skipStep
    rw [run_bind_ok (run_peek blank (isSpace_of_startsValue starts) _)]
    dsimp only
    rw [if_neg list, if_neg object, run_bind_ok (skipped rest ends)]
    rfl
  apply (SkipsTo.step (by simp) step).mono
  rw [List.length_cons]
  omega

/-- What is passed over as a function of the text is passed over by its reader. -/
theorem run_passOver {step : List Char → Except Fault (List Char)} {text rest : List Char}
    (passed : step text = .ok rest) : (passOver step).run text = .ok ((), rest) := by
  show (step text >>= fun left => .ok ((), left)) = _
  rw [passed]
  rfl

/-- A number is passed over. -/
theorem IsNumber.skips {text : List Char} (number : IsNumber text) : Skips text := by
  obtain written | ⟨magnitude, written, rfl⟩ := number
  · obtain ⟨c, others, rfl, digit⟩ := written.exists_cons
    have other (letter : Char) (solid : letter.isDigit = false) : c ≠ letter := by
      rintro rfl
      rw [digit] at solid
      cases solid
    apply Skips.scalar (startsValue_of_isDigit digit) (other _ rfl) (other _ rfl)
    intro rest ends
    unfold skipScalar
    rw [if_neg (other _ rfl), if_neg (other _ rfl), if_neg (other _ rfl), if_neg (other _ rfl),
      if_pos digit]
    exact run_passOver (skipMagnitude_append written ends)
  · apply Skips.scalar rfl (by decide) (by decide)
    intro rest ends
    exact run_bind_ok (run_advance _ _) _ |>.trans
      (run_passOver (skipMagnitude_append written ends))

/-- A string is passed over. -/
theorem IsStringBody.skips {body : List Char} (written : IsStringBody body) :
    Skips ('"' :: (body ++ ['"'])) := by
  apply Skips.scalar rfl (by decide) (by decide)
  intro rest ends
  rw [List.append_assoc]
  exact run_bind_ok (run_advance _ _) _ |>.trans (run_passOver (skipStringBody_append written rest))

/-- The character that opens a bracket. -/
def Bracket.opening : Bracket → Char
  | .list => '['
  | .object => '\x7b'

/-- What starts a value does not close a bracket. -/
theorem Bracket.ne_close (bracket : Bracket) {c : Char} (starts : startsValue c) :
    c ≠ bracket.close := by
  rintro rfl
  cases bracket <;> cases starts

/-- The character that closes a bracket is no white space. -/
theorem Bracket.solid_close (bracket : Bracket) : isSpace bracket.close = false := by
  cases bracket <;> rfl

/-- The character that closes a bracket does not continue a number. -/
theorem Bracket.continuesNumber_close (bracket : Bracket) :
    continuesNumber bracket.close = false := by
  cases bracket <;> rfl

/-- A piece that is passed over between brackets: what stands in front of its value, and then the
value. -/
structure Bracket.Passes (bracket : Bracket) (piece : List Char) : Prop where
  /-- The piece can be told from the closing bracket. -/
  starts : Starts piece
  /-- The piece is passed over in two steps for each of its characters. -/
  skips : ∀ (stack : List Bracket) (blanks rest : List Char), AllSpace blanks → EndsNumber rest →
    ∃ left, bracket.skipItemStart.run (blanks ++ (piece ++ rest)) = .ok ((), left) ∧
      SkipsTo (2 * piece.length) (.value, stack) left (.nextItem, stack) rest

/-- A value is passed over as an item of a list. -/
theorem Bracket.passes_list {value : List Char} (starts : Starts value) (skips : Skips value) :
    Bracket.list.Passes value where
  starts := starts
  skips stack blanks rest blank ends := ⟨_, rfl, skips stack blanks rest blank ends⟩

/-- A colon is passed over behind white space. -/
theorem run_readColon {blanks : List Char} (blank : AllSpace blanks) (rest : List Char) :
    readColon.run (blanks ++ ':' :: rest) = .ok ((), rest) :=
  run_bind_ok (run_peek blank rfl rest) _

/-- A name and its colon are passed over. -/
theorem run_skipName {blanks gap name : List Char} (blank : AllSpace blanks)
    (gapBlank : AllSpace gap) (written : IsStringBody name) (rest : List Char) :
    skipName.run (blanks ++ '"' :: (name ++ '"' :: (gap ++ ':' :: rest))) = .ok ((), rest) := by
  unfold skipName
  rw [run_bind_ok (run_peek blank rfl _)]
  dsimp only
  rw [if_pos rfl, run_bind_ok (run_advance _ _),
    run_bind_ok (run_passOver (skipStringBody_append written _))]
  exact run_readColon gapBlank rest

/-- A member is passed over in an object. -/
theorem Bracket.passes_object {entry : Entry} (written : IsStringBody entry.name)
    (skips : Skips entry.value) : Bracket.object.Passes entry.text where
  starts := entry.starts
  skips stack blanks rest blank ends := by
    refine ⟨entry.behind ++ (entry.value ++ rest), ?_, ?_⟩
    · simp only [Entry.text, List.cons_append, List.append_assoc]
      exact run_skipName blank entry.gapBlank written _
    · apply (skips stack entry.behind rest entry.behindBlank ends).mono
      simp only [Entry.text, List.length_cons, List.length_append]
      omega

/-- A closing bracket behind white space is passed over in one step. -/
theorem SkipsTo.close (bracket : Bracket) (stack : List Bracket) {state : SkipState}
    (inside : state ≠ .value) {blanks : List Char} (blank : AllSpace blanks) (rest : List Char) :
    SkipsTo 1 (state, bracket :: stack) (blanks ++ bracket.close :: rest) (.nextItem, stack)
      rest := by
  apply SkipsTo.step (by simp)
  unfold skipStep
  rw [run_bind_ok (run_peek blank bracket.solid_close _)]
  cases state with
  | value => exact absurd rfl inside
  | firstItem | nextItem =>
    dsimp only
    rw [if_pos rfl]
    rfl

/-- Further pieces are passed over with the closing bracket behind them. -/
theorem Further.skips {bracket : Bracket} {pieces : List (List Char)} {text : List Char}
    (further : Further pieces text) (all : ∀ piece ∈ pieces, bracket.Passes piece)
    (stack : List Bracket) (rest : List Char) :
    SkipsTo (2 * text.length + 1) (.nextItem, bracket :: stack) (text ++ bracket.close :: rest)
      (.nextItem, stack) rest := by
  induction further with
  | last blank => exact (SkipsTo.close bracket stack (by decide) blank rest).mono (by omega)
  | @more behind before piece text pieces back front others hypothesis =>
    have ends := others.endsNumber bracket.continuesNumber_close rest
    obtain ⟨left, started, skipped⟩ := (all piece List.mem_cons_self).skips (bracket :: stack)
      before (text ++ bracket.close :: rest) front ends
    have comma : SkipsTo 1 (.nextItem, bracket :: stack)
        (behind ++ ',' :: (before ++ (piece ++ (text ++ bracket.close :: rest))))
        (.value, bracket :: stack) left := by
      apply SkipsTo.step (by simp)
      unfold skipStep
      rw [run_bind_ok (run_peek back rfl _)]
      dsimp only
      rw [if_neg (by cases bracket <;> decide), if_pos rfl, run_bind_ok (run_advance _ _),
        run_bind_ok started]
      rfl
    have remaining := hypothesis fun piece member => all piece (List.mem_cons_of_mem _ member)
    simp only [List.append_assoc, List.cons_append]
    apply (comma.trans (skipped.trans remaining)).mono
    simp only [List.length_append, List.length_cons]
    omega

/-- An open bracket is passed over in one step. -/
theorem SkipsTo.opening (bracket : Bracket) (stack : List Bracket) {blanks : List Char}
    (blank : AllSpace blanks) (rest : List Char) :
    SkipsTo 1 (.value, stack) (blanks ++ bracket.opening :: rest) (.firstItem, bracket :: stack)
      rest := by
  apply SkipsTo.step (by simp)
  unfold skipStep
  rw [run_bind_ok (run_peek blank (by cases bracket <;> rfl) _)]
  cases bracket <;> rfl

/-- Pieces between brackets are passed over with the brackets. -/
theorem Enclosed.skips {bracket : Bracket} {pieces : List (List Char)} {text : List Char}
    (enclosed : Enclosed bracket.opening bracket.close pieces text)
    (all : ∀ piece ∈ pieces, bracket.Passes piece) : Skips text := by
  intro stack blanks rest blank ends
  cases enclosed with
  | @empty gap gapBlank =>
    have opened := SkipsTo.opening bracket stack blank (gap ++ bracket.close :: rest)
    have inside : SkipState.firstItem ≠ .value := by decide
    have closed := SkipsTo.close bracket stack inside gapBlank rest
    simp only [List.append_assoc, List.cons_append, List.nil_append]
    apply (opened.trans closed).mono
    simp only [List.length_append, List.length_cons]
    omega
  | @pieces before piece text pieces front others =>
    have ends := others.endsNumber bracket.continuesNumber_close rest
    have passes := all piece List.mem_cons_self
    obtain ⟨left, started, skipped⟩ := passes.skips (bracket :: stack) []
      (text ++ bracket.close :: rest) .nil ends
    obtain ⟨c, letters, same, starts⟩ := passes.starts
    have opened := SkipsTo.opening bracket stack blank
      (before ++ (piece ++ (text ++ bracket.close :: rest)))
    have first : SkipsTo 1 (.firstItem, bracket :: stack)
        (before ++ (piece ++ (text ++ bracket.close :: rest))) (.value, bracket :: stack) left := by
      apply SkipsTo.step (by simp)
      unfold skipStep
      rw [List.nil_append] at started
      rw [same, List.cons_append] at started ⊢
      rw [run_bind_ok (run_peek front (isSpace_of_startsValue starts) _)]
      dsimp only
      rw [if_neg (bracket.ne_close starts), run_bind_ok started]
      rfl
    have remaining := others.skips (fun piece member => all piece (List.mem_cons_of_mem _ member))
      stack rest
    simp only [List.append_assoc, List.cons_append, List.nil_append]
    apply (opened.trans (first.trans (skipped.trans remaining))).mono
    simp only [List.length_append, List.length_cons]
    omega

/-- Every JSON value is passed over. -/
theorem IsJson.skips {text : List Char} (json : IsJson text) : Skips text := by
  induction json with
  | null | true | false =>
    apply Skips.scalar rfl (by decide) (by decide)
    intro rest ends
    rfl
  | number written => exact written.skips
  | string written => exact written.skips
  | list written all hypothesis =>
    apply @Enclosed.skips .list _ _ written
    intro value member
    exact Bracket.passes_list (all value member).starts (hypothesis value member)
  | @object entries text written names all hypothesis =>
    apply @Enclosed.skips .object _ _ written
    intro piece member
    obtain ⟨entry, listed, rfl⟩ := List.mem_map.mp member
    exact Bracket.passes_object (names entry listed) (hypothesis entry listed)

/-- The value of an unknown field is passed over as a whole. -/
theorem run_skipValue {text : List Char} (json : IsJson text) {blanks rest : List Char}
    (blank : AllSpace blanks) (ends : EndsNumber rest) :
    skipValue.run (blanks ++ (text ++ rest)) = .ok ((), rest) := by
  obtain ⟨steps, bound, same⟩ := json.skips [] blanks rest blank ends
  have enough : steps ≤ 2 * (blanks ++ (text ++ rest)).length + 1 := by
    simp only [List.length_append]
    omega
  obtain ⟨spare, fuel⟩ := Nat.exists_eq_add_of_le' enough
  show (skipLoop (2 * (blanks ++ (text ++ rest)).length + 1) .value []).run _ = _
  rw [fuel]
  refine (same spare).trans ?_
  rw [skipLoop.eq_def]
  rfl

end Attenuation.Json
