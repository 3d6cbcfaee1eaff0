import Attenuation.Proofs.Phrases

/-!
# The faults of arguments

Arguments that are not read have a leftmost problem: in front of it stand the phrases of commands,
and there a word is no command, an operand does not fit, or the arguments end where an operand
should be. Further arguments can only do something about the end: a command whose operands are
missing can be completed, and the other two faults are reported whatever comes behind them.

What the reader does with a phrase is the same for all commands but for their operands, which
`operands?` lists. `map_readAll_cons` compares the reader with the list, and what follows is about
operands.
-/

namespace Attenuation

namespace Command

/-- What a command is told. -/
inductive Operand where
  /-- The name of a group. -/
  | group
  /-- The position of an instrument. -/
  | instrument
  /-- The index of a channel. -/
  | index
  /-- A level. -/
  | value

/-- How an operand is called where it is missing. -/
def Operand.name : Operand → String
  | .group => "group"
  | .instrument => "instrument"
  | .index => "index"
  | .value => "value"

/-- Check that a text stands for an operand. Any text is the name of a group. -/
def Operand.check : Operand → String → Except CommandFault Unit
  | .group, _ => .ok ()
  | .instrument, text => (readIndex text).map fun _ => ()
  | .index, text => (readIndex text).map fun _ => ()
  | .value, text => (readLevel text).map fun _ => ()

/-- A text stands for an operand. -/
abbrev Operand.Fits (operand : Operand) (text : String) : Prop := operand.check text = .ok ()

/-- The operands of the command with a word, in order. -/
def operands? : String → Option (List Operand)
  | "list" => some []
  | "status" => some []
  | "get" => some [.group]
  | "set" => some [.group, .value]
  | "sync" => some [.group]
  | "check" => some [.group]
  | "get-channel" => some [.instrument, .index]
  | "set-channel" => some [.instrument, .index, .value]
  | _ => none

/-- Take operands from the front of arguments, and return what is left. Each operand is checked
before the next one is looked for. -/
def takeOperands (word : String) : List Operand → List String → Except CommandFault (List String)
  | [], rest => .ok rest
  | operand :: _, [] => .error (.missingOperand word operand.name)
  | operand :: later, text :: rest => do
    operand.check text
    takeOperands word later rest

/-- The leftmost problem of arguments stands at their first phrase. -/
inductive Problem : List String → CommandFault → Prop where
  /-- A word is no command. -/
  | unknown {word : String} (arguments : List String) (absent : operands? word = none) :
    Problem (word :: arguments) (.unknownCommand word)
  /-- The arguments end in front of an operand, and the operands in front of it fit. -/
  | missing {word : String} {fitted later : List Operand} {operand : Operand}
    {given : List String} (known : operands? word = some (fitted ++ operand :: later))
    (fit : List.Forall₂ Operand.Fits fitted given) :
    Problem (word :: given) (.missingOperand word operand.name)
  /-- An operand does not fit, and the operands in front of it do. -/
  | misfit {word : String} {fitted later : List Operand} {operand : Operand} {given : List String}
    {text : String} {fault : CommandFault} (rest : List String)
    (known : operands? word = some (fitted ++ operand :: later))
    (fit : List.Forall₂ Operand.Fits fitted given)
    (refused : operand.check text = .error fault) :
    Problem (word :: (given ++ text :: rest)) fault

/-- The message says that an operand is missing which the command has. -/
def SaysMissing (fault : CommandFault) : Prop :=
  ∃ word operands operand, operands? word = some operands ∧ operand ∈ operands ∧
    fault.chain = [s!"{word}: missing {operand.name}"]

/-- A word that is no command is reported. -/
theorem readAll_cons_of_unknown {word : String} (unknown : operands? word = none)
    (arguments : List String) : readAll (word :: arguments) = .error (.unknownCommand word) := by
  revert unknown
  fun_cases operands? word <;> intro unknown <;> cases unknown
  simp_all [readAll.eq_def]

/-- What is read behind a phrase fails as it does by itself. -/
theorem map_cons_readAll (command : Command) (rest : List String) :
    (do return command :: (← readAll rest)).map (fun _ => ()) =
      (readAll rest).map fun _ => () := by
  cases readAll rest <;> rfl

/-- Where an operand is read in front of a step, it is checked in front of what answers the step. -/
theorem map_bind_read {α β : Type} {read : Except CommandFault α}
    {next : α → Except CommandFault (List Command)} {later : Except CommandFault β}
    {behind : β → Except CommandFault Unit}
    (same : ∀ value, (next value).map (fun _ => ()) = later >>= behind) :
    (read >>= next).map (fun _ => ()) = ((read.map fun _ => ()) >>= fun _ => later) >>= behind := by
  cases read with
  | error fault => rfl
  | ok value => exact same value

/-- The reader fails where the operands of the first phrase do not fit or are missing, and otherwise
as it does behind them. -/
theorem map_readAll_cons {word : String} {operands : List Operand}
    (known : operands? word = some operands) (arguments : List String) :
    (readAll (word :: arguments)).map (fun _ => ()) =
      takeOperands word operands arguments >>= fun rest => (readAll rest).map fun _ => () := by
  revert known
  rw [readAll.eq_def]
  fun_cases operands? word <;> intro known <;> cases known
  case case1 => exact map_cons_readAll .list arguments
  case case2 => exact map_cons_readAll .status arguments
  case case3 =>
    cases arguments with
    | nil => rfl
    | cons group rest => exact map_cons_readAll (.get group) rest
  case case4 =>
    rcases arguments with _ | ⟨group, _ | ⟨text, rest⟩⟩
    · rfl
    · rfl
    · exact map_bind_read fun value => map_cons_readAll _ rest
  case case5 =>
    cases arguments with
    | nil => rfl
    | cons group rest => exact map_cons_readAll (.sync group) rest
  case case6 =>
    cases arguments with
    | nil => rfl
    | cons group rest => exact map_cons_readAll (.check group) rest
  case case7 =>
    rcases arguments with _ | ⟨first, _ | ⟨second, rest⟩⟩
    · rfl
    · exact map_bind_read fun instrument => rfl
    · exact map_bind_read fun instrument => map_bind_read fun index => map_cons_readAll _ rest
  case case8 =>
    rcases arguments with _ | ⟨first, _ | ⟨second, _ | ⟨text, rest⟩⟩⟩
    · rfl
    · exact map_bind_read fun instrument => rfl
    · exact map_bind_read fun instrument => map_bind_read fun index => rfl
    · exact map_bind_read fun instrument => map_bind_read fun index =>
        map_bind_read fun value => map_cons_readAll _ rest

variable {word : String} {operands fitted later : List Operand} {arguments given : List String}
  {fault : CommandFault}

/-- Operands that fit are passed. -/
theorem takeOperands_append (fit : List.Forall₂ Operand.Fits fitted given) (later : List Operand)
    (rest : List String) :
    takeOperands word (fitted ++ later) (given ++ rest) = takeOperands word later rest := by
  induction fit with
  | nil => rfl
  | cons first others hypothesis =>
    rw [List.cons_append, List.cons_append, takeOperands, first]
    exact hypothesis

/-- In front of arguments stand the operands that are looked for, or some of them and then one that
does not fit or the end. -/
theorem exists_fit (operands : List Operand) (arguments : List String) :
    (∃ given rest, given ++ rest = arguments ∧ List.Forall₂ Operand.Fits operands given) ∨
      ∃ fitted operand later given, fitted ++ operand :: later = operands ∧
        List.Forall₂ Operand.Fits fitted given ∧
        (given = arguments ∨ ∃ text rest fault, given ++ text :: rest = arguments ∧
          operand.check text = .error fault) := by
  induction operands generalizing arguments with
  | nil => exact .inl ⟨[], arguments, rfl, .nil⟩
  | cons operand later hypothesis =>
    cases arguments with
    | nil => exact .inr ⟨[], operand, later, [], rfl, .nil, .inl rfl⟩
    | cons text rest =>
      cases checked : operand.check text with
      | error fault =>
        exact .inr ⟨[], operand, later, [], rfl, .nil, .inr ⟨text, rest, fault, rfl, checked⟩⟩
      | ok =>
        rcases hypothesis rest with ⟨given, behind, rfl, fit⟩ |
          ⟨fitted, other, later, given, rfl, fit, stopped⟩
        · exact .inl ⟨text :: given, behind, rfl, .cons checked fit⟩
        · refine .inr ⟨operand :: fitted, other, later, text :: given, rfl,
            .cons checked fit, ?_⟩
          rcases stopped with rfl | ⟨bad, behind, fault, rfl, refused⟩
          · exact .inl rfl
          · exact .inr ⟨bad, behind, fault, rfl, refused⟩

/-- The word of a command and operands that fit are read. -/
theorem exists_readAll_of_fit (known : operands? word = some operands)
    (fit : List.Forall₂ Operand.Fits operands given) :
    ∃ commands, readAll (word :: given) = .ok commands := by
  have taken : takeOperands word (operands ++ []) (given ++ []) = .ok [] :=
    takeOperands_append fit [] []
  rw [List.append_nil, List.append_nil] at taken
  have passed : (readAll (word :: given)).map (fun _ => ()) = .ok () := by
    rw [map_readAll_cons known, taken]
    rfl
  obtain ⟨commands, read, -⟩ := Result.map_eq_ok.mp passed
  exact ⟨commands, read⟩

/-- The problem of a phrase is reported. -/
theorem Problem.readAll_eq (problem : Problem arguments fault) :
    readAll arguments = .error fault := by
  cases problem with
  | unknown arguments absent => exact readAll_cons_of_unknown absent arguments
  | @missing word fitted later operand given known fit =>
    apply Result.map_eq_error
    rw [map_readAll_cons known, ← List.append_nil given, takeOperands_append fit]
    rfl
  | @misfit word fitted later operand given text fault rest known fit refused =>
    apply Result.map_eq_error
    rw [map_readAll_cons known, takeOperands_append fit, takeOperands, refused]
    rfl

/-- Arguments have a problem at their first phrase, or a phrase stands in front of them. -/
theorem exists_phrase_or_problem (word : String) (arguments : List String) :
    (∃ given rest commands, given ++ rest = arguments ∧
      readAll (word :: given) = .ok commands) ∨ ∃ fault, Problem (word :: arguments) fault := by
  cases known : operands? word with
  | none => exact .inr ⟨_, .unknown arguments known⟩
  | some operands =>
    rcases exists_fit operands arguments with ⟨given, rest, joined, fit⟩ |
      ⟨fitted, operand, later, given, rfl, fit, stopped⟩
    · obtain ⟨commands, read⟩ := exists_readAll_of_fit known fit
      exact .inl ⟨given, rest, commands, joined, read⟩
    · rcases stopped with rfl | ⟨text, rest, fault, rfl, refused⟩
      · exact .inr ⟨_, .missing known fit⟩
      · exact .inr ⟨fault, .misfit rest known fit refused⟩

/-- What is read in front of further arguments stays in front of what is read of them. -/
theorem readAll_append_of_ok {front : List String} {commands : List Command}
    (read : readAll front = .ok commands) (rest : List String) :
    readAll (front ++ rest) = (readAll rest).map (commands ++ ·) := by
  obtain ⟨phrases, divided⟩ := exists_divides read
  exact divided.readAll_append rest

/-- Where arguments are not read, the fault is a problem at the place up to which they are. -/
theorem exists_problem (failed : readAll arguments = .error fault) :
    ∃ front commands rest, front ++ rest = arguments ∧ readAll front = .ok commands ∧
      Problem rest fault := by
  -- A phrase takes an argument at least, so what is left behind it is shorter.
  induction size : arguments.length using Nat.strongRecOn generalizing arguments with
  | ind length hypothesis =>
    cases arguments with
    | nil =>
      rw [readAll] at failed
      cases failed
    | cons word arguments =>
      rcases exists_phrase_or_problem word arguments with
        ⟨given, rest, commands, rfl, read⟩ | ⟨other, problem⟩
      · rw [← List.cons_append, readAll_append_of_ok read] at failed
        cases behind : readAll rest with
        | ok further =>
          rw [behind] at failed
          cases failed
        | error other =>
          rw [behind] at failed
          cases failed
          have shorter : rest.length < length := by
            rw [← size, List.length_cons, List.length_append]
            omega
          obtain ⟨front, further, last, rfl, passed, problem⟩ :=
            hypothesis rest.length shorter behind rfl
          refine ⟨word :: given ++ front, commands ++ further, last, ?_, ?_, problem⟩
          · rw [List.append_assoc, List.cons_append]
          · rw [readAll_append_of_ok read, passed]
            rfl
      · cases failed.symm.trans problem.readAll_eq
        exact ⟨[], [], word :: arguments, rfl, by rw [readAll], problem⟩

/-- There is a text that stands for any operand. -/
theorem Operand.fits_zero (operand : Operand) : operand.Fits "0" := by
  cases operand <;> rfl

/-- A text that is not read as an index is no index. -/
theorem eq_of_readIndex {text : String} (failed : readIndex text = .error fault) :
    ∃ source, fault = .notAnIndex text source := by
  unfold readIndex at failed
  cases read : Decimal.readIndex text.toList with
  | ok value =>
    rw [read] at failed
    cases failed
  | error source =>
    rw [read] at failed
    cases failed
    exact ⟨source, rfl⟩

/-- A text that is not read as a level is no level. -/
theorem eq_of_readLevel {text : String} (failed : readLevel text = .error fault) :
    ∃ source, fault = .notALevel text source := by
  unfold readLevel at failed
  cases read : Decimal.readLevel text.toList with
  | ok value =>
    rw [read] at failed
    cases failed
  | error source =>
    rw [read] at failed
    cases failed
    exact ⟨source, rfl⟩

/-- An operand that does not fit is no index or no level. -/
theorem Operand.eq_of_check {operand : Operand} {text : String}
    (refused : operand.check text = .error fault) :
    (∃ source, fault = .notAnIndex text source) ∨ ∃ source, fault = .notALevel text source := by
  cases operand with
  | group => cases refused
  | instrument => exact .inl (eq_of_readIndex (Result.map_eq_error refused))
  | index => exact .inl (eq_of_readIndex (Result.map_eq_error refused))
  | value => exact .inr (eq_of_readLevel (Result.map_eq_error refused))

/-- The message that an operand is missing has no source. -/
theorem SaysMissing.length_chain (missing : SaysMissing fault) : fault.chain.length = 1 := by
  obtain ⟨word, operands, operand, -, -, same⟩ := missing
  rw [same]
  rfl

/-- The message about an operand that does not fit has a source. -/
theorem Operand.not_saysMissing_of_check {operand : Operand} {text : String}
    (refused : operand.check text = .error fault) : ¬ SaysMissing fault := by
  intro missing
  have alone := missing.length_chain
  rcases eq_of_check refused with ⟨source, rfl⟩ | ⟨source, rfl⟩ <;> cases alone

/-- The message about a word that is no command is not the one about a missing operand. -/
theorem not_saysMissing_unknownCommand (word : String) :
    ¬ SaysMissing (.unknownCommand word) := by
  rintro ⟨other, operands, operand, known, -, same⟩
  have texts := congrArg String.toList (List.singleton_injective same)
  revert known
  fun_cases operands? other <;> intro known <;> cases known <;>
    simp [toString] at texts

/-- A problem stays what it is whatever stands behind, or an operand is missing and can be given. -/
theorem Problem.final_or_open (problem : Problem arguments fault) :
    (¬ SaysMissing fault ∧ ∀ later, Problem (arguments ++ later) fault) ∨
      (SaysMissing fault ∧ ∃ later commands, readAll (arguments ++ later) = .ok commands) := by
  cases problem with
  | unknown arguments absent =>
    exact .inl ⟨not_saysMissing_unknownCommand _,
      fun later => .unknown (arguments ++ later) absent⟩
  | @misfit word fitted later operand given text fault rest known fit refused =>
    refine .inl ⟨Operand.not_saysMissing_of_check refused, fun later => ?_⟩
    rw [List.cons_append, List.append_assoc, List.cons_append]
    exact .misfit (rest ++ later) known fit refused
  | @missing word fitted later operand given known fit =>
    refine .inr ⟨⟨word, _, operand, known, by simp, rfl⟩,
      (operand :: later).map fun _ => "0", ?_⟩
    rw [List.cons_append]
    refine exists_readAll_of_fit known (List.rel_append fit ?_)
    rw [List.forall₂_map_right_iff]
    exact List.forall₂_same.mpr fun operand _ => operand.fits_zero

/-- **A fault of arguments is final, or they can be completed.** Arguments that are not read have a
problem at the place up to which they are read. If it is that an operand is missing, then further
arguments can be given with which they are read, and this is so for no other problem. Any other
problem is reported as it is whatever arguments are given behind. -/
theorem readAll_final_or_open (failed : readAll arguments = .error fault) :
    (∃ front commands rest, front ++ rest = arguments ∧ readAll front = .ok commands ∧
      Problem rest fault) ∧
    (SaysMissing fault ↔ ∃ later commands, readAll (arguments ++ later) = .ok commands) ∧
    (¬ SaysMissing fault → ∀ later, readAll (arguments ++ later) = .error fault) := by
  have found := exists_problem failed
  refine ⟨found, ?_⟩
  obtain ⟨front, commands, rest, rfl, read, problem⟩ := found
  have behind (later : List String) :
      readAll (front ++ rest ++ later) = (readAll (rest ++ later)).map (commands ++ ·) := by
    rw [List.append_assoc, readAll_append_of_ok read]
  rcases problem.final_or_open with ⟨other, final⟩ | ⟨missing, later, further, completed⟩
  · have stays (later : List String) : readAll (front ++ rest ++ later) = .error fault := by
      rw [behind, (final later).readAll_eq]
      rfl
    refine ⟨⟨fun missing => absurd missing other, ?_⟩, fun _ => stays⟩
    rintro ⟨later, all, accepted⟩
    cases (stays later).symm.trans accepted
  · refine ⟨⟨fun _ => ⟨later, commands ++ further, ?_⟩, fun _ => missing⟩,
      fun other => absurd missing other⟩
    rw [behind, completed]
    rfl

/-- A group command can be given its level, and an index that is none stays one. -/
theorem readAll_final_or_open_ap :
    (∃ later commands, readAll (["sync", "ap", "set", "ap"] ++ later) = .ok commands) ∧
    ∀ later, readAll (["sync", "ap", "set-channel", "0", "x"] ++ later) =
      .error (.notAnIndex "x" .invalidDigit) := by
  constructor
  · have failed : readAll ["sync", "ap", "set", "ap"] =
        .error (.missingOperand "set" "value") := rfl
    obtain ⟨-, opens, -⟩ := readAll_final_or_open failed
    exact opens.mp ⟨"set", [.group, .value], .value, rfl, by simp, rfl⟩
  · have failed : readAll ["sync", "ap", "set-channel", "0", "x"] =
        .error (.notAnIndex "x" .invalidDigit) := rfl
    obtain ⟨-, -, final⟩ := readAll_final_or_open failed
    exact final fun missing => nomatch missing.length_chain

end Command

end Attenuation
