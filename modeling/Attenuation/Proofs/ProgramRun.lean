import Attenuation.Proofs.CommandMemory
import Attenuation.Proofs.Crash

/-!
# One run of the program

A run goes through its stages in order: a file is named, help is not asked for, all of the commands
are read, there are some, the description is loaded, the rack is built, and the commands are carried
out on it up to the first that fails. The first stage that fails ends the run with its own report,
and no later one has begun: `Course` says for each way of ending which file was read, what was
printed and reported, and what was done on the bench.
-/

namespace Attenuation

namespace Command

/-- Commands that are carried out in order on one rack, each on the rack and the bench that the one
in front of it left, with their outputs. -/
inductive CarriedOut : Rack → Bench → List Command → List String → Rack → Bench → Prop where
  /-- No command is left. -/
  | nil (rack : Rack) (bench : Bench) : CarriedOut rack bench [] [] rack bench
  /-- A command is carried out, and then the others. -/
  | cons {rack next last : Rack} {bench middle after : Bench} {command : Command}
    {commands : List Command} {output : String} {outputs : List String}
    (ran : (command.run rack).run bench = (.done (output, next), middle))
    (others : CarriedOut next middle commands outputs last after) :
    CarriedOut rack bench (command :: commands) (output :: outputs) last after

variable {ε : Type} {rack last : Rack} {bench after left : Bench} {commands : List Command}
  {outputs : List String}

/-- A sequence whose first command is carried out goes on with the others. -/
theorem runAll_cons {next : Rack} {middle : Bench} {command : Command} {output : String}
    (ran : (command.run rack).run bench = (.done (output, next), middle)) {later : Transcript}
    (others : (runAll next commands : Action ε Transcript).run middle = (.done later, after)) :
    (runAll rack (command :: commands) : Action ε Transcript).run bench =
      (.done { later with outputs := output :: later.outputs }, after) := by
  have observed : ((command.run rack).observe : Action ε _).run bench = _ :=
    Action.run_observe (command.run rack) bench
  rw [ran] at observed
  rw [runAll, Action.run_bind_done _ observed]
  exact Action.run_bind_done _ others

/-- Commands that are carried out make a complete transcript. -/
theorem CarriedOut.completed (carried : CarriedOut rack bench commands outputs last after) :
    (runAll rack commands : Action ε Transcript).run bench =
      (.done ⟨outputs, last, .completed⟩, after) := by
  induction carried with
  | nil => rfl
  | cons ran others ih => exact runAll_cons ran ih

/-- Commands that are carried out in front of one that fails make a transcript that ends there,
whatever stands behind it. -/
theorem CarriedOut.failed (carried : CarriedOut rack bench commands outputs last after)
    {command : Command} {fault : CommandFault}
    (fails : (command.run last).run after = (.failed fault, left)) (rest : List Command) :
    (runAll rack (commands ++ command :: rest) : Action ε Transcript).run bench =
      (.done ⟨outputs, last, .failed fault⟩, left) := by
  induction carried with
  | nil rack bench =>
    have observed : ((command.run rack).observe : Action ε _).run bench = _ :=
      Action.run_observe (command.run rack) bench
    rw [fails] at observed
    exact Action.run_bind_done _ observed
  | cons ran others ih => exact runAll_cons ran (ih fails)

/-- On a rack that remembers, commands are carried out up to the end, or up to one that fails. -/
theorem exists_carriedOut {config : RackConfig} {start : Bench} {memory : Memory}
    (mirrors : Mirrors config start memory rack bench) (commands : List Command) :
    (∃ outputs last after, CarriedOut rack bench commands outputs last after) ∨
      ∃ front command rest outputs last middle fault after, commands = front ++ command :: rest ∧
        CarriedOut rack bench front outputs last middle ∧
        (command.run last).run middle = (.failed fault, after) := by
  induction commands generalizing memory rack bench with
  | nil => exact .inl ⟨[], rack, bench, .nil rack bench⟩
  | cons command rest ih =>
    by_cases fails : command.Fails config memory
    · obtain ⟨fault, after, ran⟩ := mirrors.run_fails fails
      exact .inr ⟨[], command, rest, [], rack, bench, fault, after, rfl, .nil rack bench, ran⟩
    · obtain ⟨output, next, middle, ran, -, mirrored⟩ := mirrors.run_done fails
      rcases ih mirrored with ⟨outputs, last, after, carried⟩ |
        ⟨front, failing, behind, outputs, last, between, fault, after, split, carried, failed⟩
      · exact .inl ⟨output :: outputs, last, after, .cons ran carried⟩
      · refine .inr ⟨command :: front, failing, behind, output :: outputs, last, between, fault,
          after, ?_, .cons ran carried, failed⟩
        rw [split, List.cons_append]

end Command

/-- Where nothing is done but connecting drivers and recording events, no instrument is called. -/
theorem Bench.Evolves.silent {before after : Bench}
    (evolved : before.Evolves (fun deed => deed.IsQuiet ∨ deed.IsConnection) after)
    (silent : ∀ id, (before.simulator id).calls = []) (id : SimulatorId) :
    (after.simulator id).calls = [] := by
  induction evolved with
  | refl => exact silent id
  | @tail between after earlier move ih =>
    obtain ⟨deed, sort, -, rfl⟩ := move
    cases deed with
    | addSimulator config =>
      have placed : ((Deed.addSimulator config).perform between).simulator id =
          if id = between.nextSimulator then .ofConfig config else between.simulator id :=
        Slots.get_put between.simulators _ id _
      rw [placed]
      by_cases own : id = between.nextSimulator
      · rw [if_pos own]
        rfl
      · rw [if_neg own, ih]
    | record events => exact ih
    | crash session => exact ih
    | openSession other trap => exact ih
    | probe other => exact ih
    | get session index => exact absurd sort (by simp [Deed.IsQuiet, Deed.IsConnection])
    | set attenuator value => exact absurd sort (by simp [Deed.IsQuiet, Deed.IsConnection])
    | setRaw session index value => exact absurd sort (by simp [Deed.IsQuiet, Deed.IsConnection])
    | adjust other adjustment => exact absurd sort (by simp [Deed.IsQuiet, Deed.IsConnection])

namespace CommandLine

/-- However the building of the rack of a run ends, no instrument is called. -/
theorem rackOf_silent {config : RackConfig} {outcome : Outcome RunFault Rack} {after : Bench}
    (ran : (rackOf config).run Bench.empty = (outcome, after)) (id : SimulatorId) :
    (after.simulator id).calls = [] := by
  have kept : (rackOf config).Keeps
      (Bench.Evolves fun deed => deed.IsQuiet ∨ deed.IsConnection) Bench.empty :=
    (simulated_keeps fun _ => Or.inl).bind_keeps fun catalog between _ =>
      ((Rack.build_yields (fun _ => Or.inl) (fun _ => Or.inr) config catalog).mapFault
        RunFault.notBuilt).keeps
  have silent := Bench.Evolves.silent kept.1 (fun _ => rfl) id
  rwa [ran] at silent

/-- The rack of a run is built, or the building fails with a fault of its own. -/
theorem rackOf_cases (config : RackConfig) :
    (∃ rack start, (rackOf config).run Bench.empty = (.done rack, start)) ∨
      ∃ source after, (rackOf config).run Bench.empty = (.failed (.notBuilt source), after) := by
  unfold rackOf
  obtain ⟨catalog, registered, listed, -⟩ := Catalog.simulated_done (ε := RunFault) Bench.empty
  rw [Action.run_bind_done _ listed, Action.run_mapFault_outcome]
  cases ended : (Rack.build config catalog).run registered with
  | mk outcome after =>
    cases outcome with
    | done rack => exact .inl ⟨rack, after, rfl⟩
    | failed source => exact .inr ⟨source, after, rfl⟩
    | crashed =>
      exact absurd (congrArg Prod.fst ended) (Rack.build_survives config catalog registered)

/-- Everything that a run does. -/
structure Account where
  /-- The file that was read, if one was. -/
  read : Option String
  /-- How the run ended. -/
  exit : Exit
  /-- The bench that the run left, where every instrument has the log of its calls. -/
  bench : Bench

/-- The bench that a plan leaves. -/
def benchAfter (files : String → Except FileFault ByteArray) : Plan → Bench
  | .help => Bench.empty
  | .run path commands =>
    match load (files path) with
    | .error _ => Bench.empty
    | .ok config => ((operate config commands).run Bench.empty).2

/-- What a run does, given the contents of every file. -/
def account (files : String → Except FileFault ByteArray) (arguments : List String) : Account where
  read := (plan arguments).toOption.bind path?
  exit := run files arguments
  bench :=
    match plan arguments with
    | .error _ => Bench.empty
    | .ok plan => benchAfter files plan

/-- The words that ask for help. -/
def IsHelp (word : String) : Prop := word = "-h" ∨ word = "--help"

/-- The lines of some outputs: each that is not empty, with a line end behind it. -/
def lines (outputs : List String) : String :=
  String.join ((outputs.filter fun output => output ≠ "").map fun output => output ++ "\n")

/-- A run got as far as the description of its rack: a file is named and help is not asked for, all
of the commands are read and there are some, and the description is loaded. -/
structure Prepared (files : String → Except FileFault ByteArray) (path : String)
    (words : List String) (commands : List Command) (config : RackConfig) : Prop where
  /-- Help is not asked for. -/
  other : ¬ IsHelp path
  /-- All of the commands are read. -/
  read : Command.readAll words = .ok commands
  /-- There are some. -/
  nonempty : commands ≠ []
  /-- The description is loaded. -/
  loaded : load (files path) = .ok config

/-- The course of a run, by the stage that ends it. -/
inductive Course (files : String → Except FileFault ByteArray) : List String → Account → Prop where
  /-- No file is named. -/
  | noFile : Course files [] ⟨none, ⟨1, "", report .noFile⟩, .empty⟩
  /-- Help is asked for. -/
  | help {path : String} {words : List String} (asked : IsHelp path) :
    Course files (path :: words) ⟨none, ⟨0, usage ++ "\n", ""⟩, .empty⟩
  /-- A command is not read, so that the file is not touched. -/
  | notRead {path : String} {words : List String} {source : CommandFault} (other : ¬ IsHelp path)
    (refused : Command.readAll words = .error source) :
    Course files (path :: words) ⟨none, ⟨1, "", report (.notRead source)⟩, .empty⟩
  /-- There are no commands. -/
  | noCommands {path : String} {words : List String} (other : ¬ IsHelp path)
    (nothing : Command.readAll words = .ok []) :
    Course files (path :: words) ⟨none, ⟨1, "", report .noCommands⟩, .empty⟩
  /-- The description is not loaded. -/
  | notLoaded {path : String} {words : List String} {commands : List Command} {source : RackFault}
    (other : ¬ IsHelp path) (read : Command.readAll words = .ok commands)
    (nonempty : commands ≠ []) (failed : load (files path) = .error source) :
    Course files (path :: words) ⟨some path, ⟨1, "", report (.notLoaded path source)⟩, .empty⟩
  /-- The rack is not built. No instrument was called. -/
  | notBuilt {path : String} {words : List String} {commands : List Command} {config : RackConfig}
    {source : RackFault} {after : Bench} (prepared : Prepared files path words commands config)
    (failed : (rackOf config).run Bench.empty = (.failed (.notBuilt source), after))
    (silent : ∀ id, (after.simulator id).calls = []) :
    Course files (path :: words) ⟨some path, ⟨1, "", report (.notBuilt source)⟩, after⟩
  /-- A command fails behind others that are carried out. -/
  | failed {path : String} {words : List String} {front rest : List Command} {command : Command}
    {config : RackConfig} {rack last : Rack} {start middle after : Bench} {outputs : List String}
    {fault : CommandFault} (prepared : Prepared files path words (front ++ command :: rest) config)
    (built : (rackOf config).run Bench.empty = (.done rack, start))
    (silent : ∀ id, (start.simulator id).calls = [])
    (carried : Command.CarriedOut rack start front outputs last middle)
    (fails : (command.run last).run middle = (.failed fault, after)) :
    Course files (path :: words) ⟨some path, ⟨1, lines outputs, report (.command fault)⟩, after⟩
  /-- Every command is carried out. -/
  | completed {path : String} {words : List String} {commands : List Command}
    {config : RackConfig} {rack last : Rack} {start after : Bench} {outputs : List String}
    (prepared : Prepared files path words commands config)
    (built : (rackOf config).run Bench.empty = (.done rack, start))
    (silent : ∀ id, (start.simulator id).calls = [])
    (carried : Command.CarriedOut rack start commands outputs last after) :
    Course files (path :: words) ⟨some path, ⟨0, lines outputs, ""⟩, after⟩

variable {files : String → Except FileFault ByteArray} {arguments words : List String}
  {path : String} {commands : List Command} {config : RackConfig}

/-- The outputs are printed as their lines. -/
theorem join_printed (outputs : List String) :
    String.join (outputs.map printed) = lines outputs := by
  unfold lines
  induction outputs with
  | nil => rfl
  | cons output rest ih =>
    rw [List.map_cons, String.join_cons, ih]
    unfold printed
    by_cases empty : output = ""
    · subst empty
      simp
    · rw [if_neg (by simpa using empty), List.filter_cons_of_pos (by simpa using empty),
        List.map_cons, String.join_cons]

/-- Who asks for help is planned to get it. -/
theorem plan_help (asked : IsHelp path) (words : List String) :
    plan (path :: words) = .ok .help := by
  unfold plan
  rcases asked with rfl | rfl <;> rfl

/-- Who does not ask for help is planned to have the commands carried out, if all of them are read
and there are some. -/
theorem plan_of_not_help (other : ¬ IsHelp path) (words : List String) :
    plan (path :: words) =
      match Command.readAll words with
      | .error source => .error (.notRead source)
      | .ok [] => .error .noCommands
      | .ok commands => .ok (.run path commands) := by
  have plain : (path = "-h" || path = "--help") = false := by
    simpa [IsHelp] using other
  unfold plan
  dsimp only
  rw [plain]
  rfl

/-- Commands that are read are planned to be carried out. -/
theorem plan_of_read (other : ¬ IsHelp path) (read : Command.readAll words = .ok commands)
    (nonempty : commands ≠ []) : plan (path :: words) = .ok (.run path commands) := by
  rw [plan_of_not_help other, read]
  cases commands with
  | nil => exact absurd rfl nonempty
  | cons command rest => rfl

/-- A plan that is refused ends the run before anything is touched. -/
theorem account_of_error {fault : RunFault} (refused : plan arguments = .error fault) :
    account files arguments = ⟨none, ⟨1, "", report fault⟩, .empty⟩ := by
  unfold account run
  rw [refused]
  rfl

/-- A run that gets as far as reading the file does what its plan and the contents say. -/
theorem account_of_run (planned : plan arguments = .ok (.run path commands)) :
    account files arguments =
      ⟨some path, carryOut (.run path commands) (files path),
        benchAfter files (.run path commands)⟩ := by
  unfold account run
  rw [planned]
  rfl

/-- How a run ends that operated a rack. -/
def exitAfter : Outcome RunFault Command.Transcript → Exit
  | .done transcript => exitOf transcript
  | .failed fault => ⟨1, "", report fault⟩
  | .crashed => ⟨crashCode, "", ""⟩

/-- A run that got as far as the description reads the file and operates the rack. -/
theorem Prepared.account_eq (prepared : Prepared files path words commands config)
    {outcome : Outcome RunFault Command.Transcript} {after : Bench}
    (ran : (operate config commands).run Bench.empty = (outcome, after)) :
    account files (path :: words) = ⟨some path, exitAfter outcome, after⟩ := by
  rw [account_of_run (plan_of_read prepared.other prepared.read prepared.nonempty)]
  unfold carryOut benchAfter
  simp only [prepared.loaded, ran]
  cases outcome <;> rfl

/-- A course is what the run does. -/
theorem Course.eq_account {done : Account} (course : Course files arguments done) :
    done = account files arguments := by
  cases course with
  | noFile => exact (account_of_error rfl).symm
  | help asked =>
    unfold account run
    rw [plan_help asked]
    rfl
  | notRead other refused =>
    rw [account_of_error (by rw [plan_of_not_help other, refused])]
  | noCommands other nothing =>
    rw [account_of_error (by rw [plan_of_not_help other, nothing])]
  | notLoaded other read nonempty failed =>
    rw [account_of_run (plan_of_read other read nonempty)]
    unfold carryOut benchAfter
    simp only [failed]
  | @notBuilt path words commands config source after prepared failed silent =>
    have ran : (operate config commands).run Bench.empty = (.failed (.notBuilt source), after) := by
      rw [operate_eq]
      exact Action.run_bind_failed _ failed
    exact (prepared.account_eq ran).symm
  | @failed path words front rest command config rack last start middle after outputs fault
      prepared built silent carried fails =>
    have ran : (operate config (front ++ command :: rest)).run Bench.empty =
        (.done ⟨outputs, last, .failed fault⟩, after) := by
      rw [operate_eq, Action.run_bind_done _ built]
      exact carried.failed fails rest
    rw [prepared.account_eq ran]
    simp only [exitAfter, exitOf, join_printed]
  | @completed path words commands config rack last start after outputs prepared built silent
      carried =>
    have ran : (operate config commands).run Bench.empty =
        (.done ⟨outputs, last, .completed⟩, after) := by
      rw [operate_eq, Action.run_bind_done _ built]
      exact carried.completed
    rw [prepared.account_eq ran]
    simp only [exitAfter, exitOf, join_printed]

/-- Every run has a course. -/
theorem exists_course (files : String → Except FileFault ByteArray) (arguments : List String) :
    ∃ done, Course files arguments done := by
  cases arguments with
  | nil => exact ⟨_, .noFile⟩
  | cons path words =>
    by_cases asked : IsHelp path
    · exact ⟨_, .help asked⟩
    cases read : Command.readAll words with
    | error source => exact ⟨_, .notRead asked read⟩
    | ok commands =>
      by_cases nothing : commands = []
      · exact ⟨_, .noCommands asked (nothing ▸ read)⟩
      cases loaded : load (files path) with
      | error source => exact ⟨_, .notLoaded asked read nothing loaded⟩
      | ok config =>
        have prepared : Prepared files path words commands config :=
          ⟨asked, read, nothing, loaded⟩
        rcases rackOf_cases config with ⟨rack, start, built⟩ | ⟨source, after, failed⟩
        · have silent := rackOf_silent built
          obtain ⟨origin, mirrors⟩ := rackOf_mirrors built
          rcases Command.exists_carriedOut mirrors commands with
            ⟨outputs, last, after, carried⟩ |
              ⟨front, command, rest, outputs, last, middle, fault, after, split, carried, fails⟩
          · exact ⟨_, .completed prepared built silent carried⟩
          · rw [split] at prepared
            exact ⟨_, .failed prepared built silent carried fails⟩
        · exact ⟨_, .notBuilt prepared failed (rackOf_silent failed)⟩

/-- A run depends on no file but the one that it reads. -/
theorem account_congr {others : String → Except FileFault ByteArray}
    (same : ∀ path, (account files arguments).read = some path → others path = files path) :
    account others arguments = account files arguments := by
  cases planned : plan arguments with
  | error fault => rw [account_of_error planned, account_of_error planned]
  | ok found =>
    cases found with
    | help =>
      unfold account run
      rw [planned]
      rfl
    | run path commands =>
      have read : account files arguments =
          ⟨some path, carryOut (.run path commands) (files path),
            benchAfter files (.run path commands)⟩ := account_of_run planned
      rw [read] at same
      rw [account_of_run planned, read, benchAfter, benchAfter, same path rfl]

/-- A run succeeds when help is asked for, and when every stage is passed and every command is
carried out. -/
inductive Succeeds (files : String → Except FileFault ByteArray) : List String → Prop where
  /-- Help is asked for. -/
  | help {path : String} {words : List String} (asked : IsHelp path) :
    Succeeds files (path :: words)
  /-- Every command is carried out. -/
  | completed {path : String} {words : List String} {commands : List Command}
    {config : RackConfig} {rack last : Rack} {start after : Bench} {outputs : List String}
    (prepared : Prepared files path words commands config)
    (built : (rackOf config).run Bench.empty = (.done rack, start))
    (carried : Command.CarriedOut rack start commands outputs last after) :
    Succeeds files (path :: words)

/-- A course ends in success when its run succeeds, and otherwise in failure with a report. -/
theorem Course.code_eq {done : Account} (course : Course files arguments done) :
    (done.exit.code = 0 ∧ done.exit.error = "" ∧ Succeeds files arguments) ∨
      (done.exit.code = 1 ∧ ∃ fault, done.exit.error = report fault) := by
  cases course with
  | noFile => exact .inr ⟨rfl, _, rfl⟩
  | help asked => exact .inl ⟨rfl, rfl, .help asked⟩
  | notRead other refused => exact .inr ⟨rfl, _, rfl⟩
  | noCommands other nothing => exact .inr ⟨rfl, _, rfl⟩
  | notLoaded other read nonempty failed => exact .inr ⟨rfl, _, rfl⟩
  | notBuilt prepared failed silent => exact .inr ⟨rfl, _, rfl⟩
  | failed prepared built silent carried fails => exact .inr ⟨rfl, _, rfl⟩
  | completed prepared built silent carried =>
    exact .inl ⟨rfl, rfl, .completed prepared built carried⟩

/-- A run that succeeds ends in success. -/
theorem Succeeds.code_eq (succeeds : Succeeds files arguments) :
    (run files arguments).code = 0 := by
  cases succeeds with
  | help asked => exact congrArg (fun done => done.exit.code) (Course.help asked).eq_account.symm
  | completed prepared built carried =>
    have course := Course.completed prepared built (rackOf_silent built) carried
    exact congrArg (fun done => done.exit.code) course.eq_account.symm

/-- **A run goes through its stages in order.** Whatever the arguments and the files are, what a run
does is its course, and a course is nothing else: the first stage that fails ends it with its own
report, the file is not read before all of the words are, and no instrument is called before the
rack is built. Commands are carried out in order on one rack up to the first that fails; the lines
of the outputs are printed, and the fault is reported. The exit code is that of success exactly
when help is asked for first, or every stage is passed and every command is carried out. What the
run does depends on no file but the one that it reads. -/
theorem run_course (files : String → Except FileFault ByteArray) (arguments : List String) :
    (account files arguments).exit = run files arguments ∧
    (∀ done, Course files arguments done ↔ done = account files arguments) ∧
    ((run files arguments).code = 0 ↔ Succeeds files arguments) ∧
    ∀ others : String → Except FileFault ByteArray,
      (∀ path, (account files arguments).read = some path → others path = files path) →
        account others arguments = account files arguments := by
  obtain ⟨own, course⟩ := exists_course files arguments
  have same := course.eq_account
  refine ⟨rfl, fun done => ⟨fun other => other.eq_account, ?_⟩, ⟨fun success => ?_, ?_⟩,
    fun others => account_congr⟩
  · rintro rfl
    exact same ▸ course
  · rcases course.code_eq with ⟨-, -, succeeds⟩ | ⟨failure, -⟩
    · exact succeeds
    · have code : (run files arguments).code = 1 := by
        rw [← failure, same]
        rfl
      rw [code] at success
      cases success
  · exact Succeeds.code_eq

end CommandLine

end Attenuation
