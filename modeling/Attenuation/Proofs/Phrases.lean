import Attenuation.Command
import Attenuation.Proofs.Result

/-!
# The language of commands

`Phrase` is what is said for one command: its word and its operands. The reader accepts exactly the
lists of arguments that are made of phrases, and how long a phrase is can be told from its command,
so that a list of arguments is divided into phrases in one way only, also where the name of a group
is itself the word of a command. What is read in front does not depend on what stands behind.
-/

namespace Attenuation

namespace Command

/-- What is said for a command: its word, and its operands. The name of a group may be any text,
the word of a command and the empty text included. -/
inductive Phrase : List String → Command → Prop where
  /-- List the rack. -/
  | list : Phrase ["list"] .list
  /-- Write a snapshot of the rack. -/
  | status : Phrase ["status"] .status
  /-- Write the remembered level of a group. -/
  | get (group : String) : Phrase ["get", group] (.get group)
  /-- Command a group to a level. -/
  | set (group : String) {text : String} {value : Level}
    (level : Decimal.readLevel text.toList = .ok value) :
    Phrase ["set", group, text] (.set group value)
  /-- Command a group to its remembered level. -/
  | sync (group : String) : Phrase ["sync", group] (.sync group)
  /-- Write whether a group reads back its remembered level. -/
  | check (group : String) : Phrase ["check", group] (.check group)
  /-- Read a channel. -/
  | getChannel {first second : String} {instrument index : Nat}
    (position : Decimal.readIndex first.toList = .ok instrument)
    (channel : Decimal.readIndex second.toList = .ok index) :
    Phrase ["get-channel", first, second] (.getChannel instrument index)
  /-- Command a channel to a level. -/
  | setChannel {first second text : String} {instrument index : Nat} {value : Level}
    (position : Decimal.readIndex first.toList = .ok instrument)
    (channel : Decimal.readIndex second.toList = .ok index)
    (level : Decimal.readLevel text.toList = .ok value) :
    Phrase ["set-channel", first, second, text] (.setChannel instrument index value)

/-- How many arguments a command takes, its word included. -/
def size : Command → Nat
  | .list => 1
  | .status => 1
  | .get _ => 2
  | .set _ _ => 3
  | .sync _ => 2
  | .check _ => 2
  | .getChannel _ _ => 3
  | .setChannel _ _ _ => 4

/-- How long a phrase is can be told from its command. -/
theorem Phrase.length_eq {phrase : List String} {command : Command}
    (spoken : Phrase phrase command) : phrase.length = command.size := by
  cases spoken <;> rfl

/-- A list of arguments is made of the phrases of commands in order. -/
structure Divides (phrases : List (List String)) (commands : List Command)
    (arguments : List String) : Prop where
  /-- Each phrase is said for the command at its place. -/
  spoken : List.Forall₂ Phrase phrases commands
  /-- The phrases stand one behind the other, and nothing else does. -/
  joined : phrases.flatten = arguments

/-- An operand that stands for a level is read as it. -/
theorem readLevel_eq_ok {text : String} {value : Level} :
    readLevel text = .ok value ↔ Decimal.readLevel text.toList = .ok value := by
  unfold readLevel
  cases Decimal.readLevel text.toList <;> simp

/-- An operand that stands for an index is read as it. -/
theorem readIndex_eq_ok {text : String} {value : Nat} :
    readIndex text = .ok value ↔ Decimal.readIndex text.toList = .ok value := by
  unfold readIndex
  cases Decimal.readIndex text.toList <;> simp

/-- A command is put in front of what is read behind its phrase. -/
theorem cons_readAll (command : Command) (rest : List String) :
    (do return command :: (← readAll rest)) = (readAll rest).map (command :: ·) := by
  cases readAll rest <;> rfl

/-- A phrase is read as its command, and the reader goes on behind it. -/
theorem Phrase.readAll_append {phrase : List String} {command : Command}
    (spoken : Phrase phrase command) (rest : List String) :
    readAll (phrase ++ rest) = (readAll rest).map (command :: ·) := by
  rw [← cons_readAll]
  cases spoken with
  | list =>
    rw [List.cons_append, readAll.eq_def]
    rfl
  | status =>
    rw [List.cons_append, readAll.eq_def]
    rfl
  | set group level =>
    rw [← readLevel_eq_ok] at level
    simp [readAll, level, bind, Except.bind]
  | getChannel position channel =>
    rw [← readIndex_eq_ok] at position channel
    simp [readAll, position, channel, bind, Except.bind]
  | setChannel position channel level =>
    rw [← readIndex_eq_ok] at position channel
    rw [← readLevel_eq_ok] at level
    simp [readAll, position, channel, level, bind, Except.bind]
  | _ => simp [readAll]

/-- Phrases are read as their commands, and the reader goes on behind them. -/
theorem readAll_flatten_append {phrases : List (List String)} {commands : List Command}
    (spoken : List.Forall₂ Phrase phrases commands) (rest : List String) :
    readAll (phrases.flatten ++ rest) = (readAll rest).map (commands ++ ·) := by
  induction spoken with
  | nil =>
    rw [List.flatten_nil, List.nil_append]
    cases readAll rest <;> rfl
  | cons first others hypothesis =>
    rw [List.flatten_cons, List.append_assoc, first.readAll_append, hypothesis]
    cases readAll rest <;> rfl

/-- A phrase stands in front of arguments, and the commands are its own and those that are read
behind it. -/
inductive Opens : List String → List Command → Prop where
  /-- A phrase, and the arguments behind it. -/
  | phrase {phrase rest : List String} {command : Command} {later : List Command}
    (spoken : Phrase phrase command) (read : readAll rest = .ok later) :
    Opens (phrase ++ rest) (command :: later)

/-- A phrase with what is read behind it opens the arguments. -/
theorem Phrase.opens {phrase rest : List String} {command : Command} {commands : List Command}
    (spoken : Phrase phrase command)
    (read : (do return command :: (← readAll rest)) = .ok commands) :
    Opens (phrase ++ rest) commands := by
  rw [cons_readAll] at read
  cases behind : readAll rest with
  | error fault =>
    rw [behind] at read
    cases read
  | ok later =>
    rw [behind] at read
    cases read
    exact .phrase spoken behind

/-- Arguments that are read start with a phrase. -/
theorem opens_of_readAll {word : String} {arguments : List String} {commands : List Command}
    (read : readAll (word :: arguments) = .ok commands) : Opens (word :: arguments) commands := by
  rw [readAll.eq_def] at read
  dsimp only at read
  split_ifs at read with list status get set sync check getChannel setChannel
  · subst list
    exact Phrase.list.opens read
  · subst status
    exact Phrase.status.opens read
  · subst get
    match arguments, read with
    | group :: rest, read => exact (Phrase.get group).opens read
  · subst set
    match arguments, read with
    | group :: text :: rest, read =>
      obtain ⟨value, level, read⟩ := Result.bind_eq_ok.mp read
      exact (Phrase.set group (readLevel_eq_ok.mp level)).opens read
  · subst sync
    match arguments, read with
    | group :: rest, read => exact (Phrase.sync group).opens read
  · subst check
    match arguments, read with
    | group :: rest, read => exact (Phrase.check group).opens read
  · subst getChannel
    match arguments, read with
    | [first], read =>
      obtain ⟨instrument, -, read⟩ := Result.bind_eq_ok.mp read
      cases read
    | first :: second :: rest, read =>
      obtain ⟨instrument, position, read⟩ := Result.bind_eq_ok.mp read
      obtain ⟨index, channel, read⟩ := Result.bind_eq_ok.mp read
      exact (Phrase.getChannel (readIndex_eq_ok.mp position)
        (readIndex_eq_ok.mp channel)).opens read
  · subst setChannel
    match arguments, read with
    | [first], read =>
      obtain ⟨instrument, -, read⟩ := Result.bind_eq_ok.mp read
      cases read
    | [first, second], read =>
      obtain ⟨instrument, -, read⟩ := Result.bind_eq_ok.mp read
      obtain ⟨index, -, read⟩ := Result.bind_eq_ok.mp read
      cases read
    | first :: second :: text :: rest, read =>
      obtain ⟨instrument, position, read⟩ := Result.bind_eq_ok.mp read
      obtain ⟨index, channel, read⟩ := Result.bind_eq_ok.mp read
      obtain ⟨value, level, read⟩ := Result.bind_eq_ok.mp read
      exact (Phrase.setChannel (readIndex_eq_ok.mp position) (readIndex_eq_ok.mp channel)
        (readLevel_eq_ok.mp level)).opens read

/-- Arguments that are read are made of the phrases of what is read. -/
theorem exists_divides {arguments : List String} {commands : List Command}
    (read : readAll arguments = .ok commands) :
    ∃ phrases, Divides phrases commands arguments := by
  -- A phrase takes an argument at least, so what is left behind it is shorter.
  induction size : arguments.length using Nat.strongRecOn generalizing arguments commands with
  | ind length hypothesis =>
    cases arguments with
    | nil =>
      rw [readAll] at read
      cases read
      exact ⟨[], .nil, rfl⟩
    | cons word arguments =>
      have opened := opens_of_readAll read
      generalize whole : word :: arguments = text at opened
      obtain @⟨phrase, rest, command, later, spoken, behind⟩ := opened
      have longer : 0 < phrase.length := by
        rw [spoken.length_eq]
        cases command <;> exact Nat.succ_pos _
      have shorter : rest.length < length := by
        rw [← size, whole, List.length_append]
        omega
      obtain ⟨phrases, divided⟩ := hypothesis rest.length shorter behind rfl
      exact ⟨phrase :: phrases, .cons spoken divided.spoken,
        by rw [List.flatten_cons, divided.joined]⟩

namespace Divides

variable {phrases others : List (List String)} {commands further : List Command}
  {arguments : List String}

/-- Arguments made of phrases are read as their commands, whatever is read behind them. -/
theorem readAll_append (divided : Divides phrases commands arguments) (rest : List String) :
    readAll (arguments ++ rest) = (readAll rest).map (commands ++ ·) := by
  rw [← divided.joined]
  exact readAll_flatten_append divided.spoken rest

/-- Arguments made of phrases are read as their commands. -/
theorem readAll_eq (divided : Divides phrases commands arguments) :
    readAll arguments = .ok commands := by
  have whole := divided.readAll_append []
  rw [List.append_nil, readAll, Except.map, List.append_nil] at whole
  exact whole

/-- How long the phrases are can be told from the commands. -/
theorem lengths (divided : Divides phrases commands arguments) :
    phrases.map List.length = commands.map size := by
  have spoken := divided.spoken
  clear divided
  induction spoken with
  | nil => rfl
  | cons first others hypothesis => rw [List.map_cons, List.map_cons, first.length_eq, hypothesis]

/-- Arguments are divided into phrases in one way only. -/
theorem unique (divided : Divides phrases commands arguments)
    (again : Divides others further arguments) : others = phrases ∧ further = commands := by
  have same : further = commands := Except.ok.inj (again.readAll_eq.symm.trans divided.readAll_eq)
  subst same
  refine ⟨List.eq_iff_flatten_eq.mpr ⟨?_, ?_⟩, rfl⟩
  · rw [again.joined, divided.joined]
  · rw [again.lengths, divided.lengths]

end Divides

/-- **The language of commands.** A list of arguments is read as commands exactly if it is made of
their phrases, one behind the other. It is divided into phrases in one way only. What is read in
front of further arguments does not depend on them: the commands that are read there, or the fault
that is met there, come behind it. -/
theorem readAll_divides (arguments : List String) :
    (∀ commands, readAll arguments = .ok commands ↔
      ∃ phrases, Divides phrases commands arguments) ∧
    (∀ phrases commands others further, Divides phrases commands arguments →
      Divides others further arguments → others = phrases ∧ further = commands) ∧
    (∀ commands, readAll arguments = .ok commands →
      ∀ later, readAll (arguments ++ later) = (readAll later).map (commands ++ ·)) := by
  refine ⟨fun commands => ⟨exists_divides, ?_⟩, ?_, fun commands read later => ?_⟩
  · rintro ⟨phrases, divided⟩
    exact divided.readAll_eq
  · exact fun phrases commands others further divided again => divided.unique again
  · obtain ⟨phrases, divided⟩ := exists_divides read
    exact divided.readAll_append later

/-- Words of commands may stand where the names of groups do. -/
theorem readAll_divides_names :
    Divides [["set", "get", "0.5"], ["sync", "list"], ["get", ""]]
      [.set "get" 0.5, .sync "list", .get ""]
      ["set", "get", "0.5", "sync", "list", "get", ""] ∧
    readAll ["set", "get", "0.5", "sync", "list", "get", "", "set"] =
      .error (.missingOperand "set" "group") := by
  have divided : Divides [["set", "get", "0.5"], ["sync", "list"], ["get", ""]]
      [.set "get" 0.5, .sync "list", .get ""]
      ["set", "get", "0.5", "sync", "list", "get", ""] :=
    ⟨.cons (.set "get" rfl) (.cons (.sync "list") (.cons (.get "") .nil)), rfl⟩
  obtain ⟨reads, -, appends⟩ := readAll_divides ["set", "get", "0.5", "sync", "list", "get", ""]
  refine ⟨divided, appends _ ((reads _).mpr ⟨_, divided⟩) ["set"]⟩

end Command

end Attenuation
