import Attenuation.Command.Run
import Attenuation.Rack.ConfigText

/-!
# The command line

One run of the program: the arguments name a file with the description of a rack and the commands
to carry out on it. The arguments are read as a whole before the file is touched, and the rack is
built before the first command is carried out. The first problem ends the run.
-/

namespace Attenuation

/-- Why a run ended early. -/
inductive RunFault where
  /-- No file is named. -/
  | noFile
  /-- The commands are not understood. -/
  | notRead (source : CommandFault)
  /-- There are no commands. -/
  | noCommands
  /-- The description could not be loaded. -/
  | notLoaded (path : String) (source : RackFault)
  /-- The rack could not be built. -/
  | notBuilt (source : RackFault)
  /-- A command failed. -/
  | command (source : CommandFault)

/-- How a run ended. -/
structure Exit where
  /-- The exit code. -/
  code : Nat
  /-- What was printed. -/
  output : String
  /-- What was reported as an error. -/
  error : String
deriving DecidableEq, Repr

/-- What the arguments ask for. -/
inductive Plan where
  /-- Print how the program is used. -/
  | help
  /-- Carry out commands on the rack that a file describes. -/
  | run (path : String) (commands : List Command)

namespace CommandLine

/-- How the program is used. -/
def usage : String :=
  "usage: atten-ctl <config.json> <command>...\n\n" ++
  "commands:\n" ++
  "  list                               list instruments, attenuators and groups\n" ++
  "  status                             instrument properties and group values as JSON\n" ++
  "  get <group>                        cached group value\n" ++
  "  set <group> <dB>                   set every member of a group\n" ++
  "  sync <group>                       re-command the cached group value\n" ++
  "  check <group>                      compare hardware against the cached value\n" ++
  "  get-channel <instrument> <index>   read one attenuator\n" ++
  "  set-channel <instrument> <index> <dB>\n" ++
  "                                     set one attenuator"

/-- The messages of the fault of a run and of its sources, outermost first. -/
def chain : RunFault → List String
  | .noFile => ["missing configuration file\n\n" ++ usage]
  | .notRead source => "invalid command line" :: source.chain
  | .noCommands => ["no commands given\n\n" ++ usage]
  | .notLoaded path source => s!"failed to load {path}" :: source.chain
  | .notBuilt source => "failed to build rack" :: source.chain
  | .command source => source.chain

/-- The report of a fault. -/
def report (fault : RunFault) : String := "error: " ++ joinChain (chain fault) ++ "\n"

/-- What the arguments ask for. -/
def plan : List String → Except RunFault Plan
  | [] => .error .noFile
  | path :: arguments =>
    if path = "-h" || path = "--help" then .ok .help
    else
      match Command.readAll arguments with
      | .error source => .error (.notRead source)
      | .ok [] => .error .noCommands
      | .ok commands => .ok (.run path commands)

/-- The description in the contents of a file. -/
def load (contents : Except FileFault ByteArray) : Except RackFault RackConfig :=
  match FileFault.decode contents with
  | .error fault => .error (.file fault)
  | .ok text =>
    match RackConfig.ofJsonText text with
    | .error fault => .error (.json fault)
    | .ok config => .ok config

/-- Build the rack of a description and carry out commands on it. -/
def operate (config : RackConfig) (commands : List Command) :
    Action RunFault Command.Transcript := do
  let catalog ← Catalog.simulated
  let rack ← (Rack.build config catalog).mapFault .notBuilt
  Command.runAll rack commands

/-- The line that an output is printed as. An empty output is not printed. -/
def printed (output : String) : String := if output.isEmpty then "" else output ++ "\n"

/-- The exit code of a run that a driver crash ended. -/
def crashCode : Nat := 101

/-- The end of a run that carried out commands. -/
def exitOf (transcript : Command.Transcript) : Exit :=
  let output := String.join (transcript.outputs.map printed)
  match transcript.ending with
  | .completed => ⟨0, output, ""⟩
  | .failed fault => ⟨1, output, report (.command fault)⟩
  | .crashed => ⟨crashCode, output, ""⟩

/-- Carry out a plan, given the contents of the file that it names. -/
def carryOut (plan : Plan) (contents : Except FileFault ByteArray) : Exit :=
  match plan with
  | .help => ⟨0, usage ++ "\n", ""⟩
  | .run path commands =>
    match load contents with
    | .error source => ⟨1, "", report (.notLoaded path source)⟩
    | .ok config =>
      match ((operate config commands).run Bench.empty).1 with
      | .done transcript => exitOf transcript
      | .failed fault => ⟨1, "", report fault⟩
      | .crashed => ⟨crashCode, "", ""⟩

/-- The file that a plan reads. -/
def path? : Plan → Option String
  | .help => none
  | .run path _ => some path

/-- One run of the program, given the contents of every file. -/
def run (files : String → Except FileFault ByteArray) (arguments : List String) : Exit :=
  match plan arguments with
  | .error fault => ⟨1, "", report fault⟩
  | .ok plan =>
    carryOut plan (match path? plan with
      | some path => files path
      | none => .error .notFound)

end CommandLine

end Attenuation
