import Attenuation.CommandLine

/-!
# The memory of a run of commands

What a run of commands has to remember is, for every channel, the raw level that it was sent last,
and for every group, the level that it was commanded to last. What a command prints, and whether it
fails, is a function here of the description of the rack and of this memory; nothing else of what
was done before matters to it.
-/

namespace Attenuation

/-- The position of an instrument and the number of one of its channels. -/
abbrev Address := Nat × Nat

/-- The address that a reference names. -/
def MemberRef.address (reference : MemberRef) : Address :=
  (reference.instrument.toNat, reference.index.toNat)

namespace RackConfig

variable (config : RackConfig)

/-- The descriptor of the instrument that a channel is one of, if there is such a channel. -/
def channel? (address : Address) : Option InstrumentConfig :=
  config.instruments[address.1]?.filter fun descriptor =>
    address.2 < descriptor.channelCount.toNat

/-- The configured offset of a channel. -/
def offset (address : Address) : Level :=
  ((config.channel? address).map fun descriptor => descriptor.offset address.2).getD 0.0

/-- The configured maximum at a channel, if there is one. -/
def maximum? (address : Address) : Option Level :=
  (config.channel? address).bind InstrumentConfig.maximum

/-- A channel without a configured maximum refuses every level, and one with a maximum refuses the
levels that exceed it with the offset of the channel. -/
def Refuses (value : Level) (address : Address) : Prop :=
  config.maximum? address = none ∨
    ∃ maximum, config.maximum? address = some maximum ∧ maximum < value + config.offset address

/-- What a channel is called in what is printed. -/
def label (address : Address) : String :=
  match config.channel? address with
  | some descriptor =>
    let name := Event.channelName descriptor.model address.2
    match descriptor.path address.2 with
    | some path => name ++ " (" ++ path ++ ")"
    | none => name
  | none => ""

/-- The described group of a name. -/
def group? (name : String) : Option GroupConfig :=
  config.groups.find? fun group => group.name == name

/-- The channels of the group of a name, in the order in which they are commanded. -/
def members (name : String) : List Address :=
  ((config.group? name).map fun group => group.members.map MemberRef.address).getD []

end RackConfig

/-- What the commands carried out so far leave to remember. -/
structure Memory where
  /-- The raw levels that were sent to channels, the last one first. -/
  sent : List (Address × Level)
  /-- The levels that groups were commanded to, the last one first. -/
  commanded : List (String × Level)

namespace Memory

/-- Nothing was sent yet. -/
def empty : Memory := ⟨[], []⟩

/-- The raw level that a channel was sent last, or 0 dB. -/
def raw (memory : Memory) (address : Address) : Level :=
  (memory.sent.lookup address).getD 0.0

/-- The level that a group was commanded to last, or 0 dB. -/
def level (memory : Memory) (name : String) : Level :=
  (memory.commanded.lookup name).getD 0.0

/-- Send a raw level to a channel. -/
def send (memory : Memory) (address : Address) (raw : Level) : Memory :=
  { memory with sent := (address, raw) :: memory.sent }

/-- Command a group to a level. -/
def note (memory : Memory) (name : String) (value : Level) : Memory :=
  { memory with commanded := (name, value) :: memory.commanded }

/-- Send channels, one after the other, a level with the offset of each. -/
def drive (memory : Memory) (config : RackConfig) (value : Level) (addresses : List Address) :
    Memory :=
  addresses.foldl (fun memory address => memory.send address (value + config.offset address))
    memory

/-- What a channel reads: its raw level without its offset. -/
def reading (memory : Memory) (config : RackConfig) (address : Address) : Level :=
  memory.raw address - config.offset address

/-- Whether every channel of a group reads the level that the group was commanded to last. -/
def agrees (memory : Memory) (config : RackConfig) (name : String) : Bool :=
  (config.members name).all fun address => memory.reading config address == memory.level name

/-- A channel that was sent a level has it, and every other channel has what it had. -/
theorem raw_send (memory : Memory) (address other : Address) (raw : Level) :
    (memory.send address raw).raw other = if other = address then raw else memory.raw other := by
  unfold Memory.raw send
  by_cases same : other = address
  · simp [same]
  · rw [List.lookup_cons, if_neg same, show (other == address) = false from beq_false_of_ne same]

/-- A group that was commanded has its level, and every other group has what it had. -/
theorem level_note (memory : Memory) (name other : String) (value : Level) :
    (memory.note name value).level other = if other = name then value else memory.level other := by
  unfold level note
  by_cases same : other = name
  · simp [same]
  · rw [List.lookup_cons, if_neg same, show (other == name) = false from beq_false_of_ne same]

/-- Sending levels to channels commands no group. -/
theorem commanded_drive (memory : Memory) (config : RackConfig) (value : Level)
    (addresses : List Address) :
    (memory.drive config value addresses).commanded = memory.commanded := by
  unfold drive
  induction addresses generalizing memory with
  | nil => rfl
  | cons address rest ih => exact ih (memory.send address (value + config.offset address))

end Memory

namespace Command

/-- What a command names is described: a group of the name, or a channel at the address. -/
def Names (config : RackConfig) : Command → Prop
  | .list => True
  | .status => True
  | .get name => (config.group? name).isSome
  | .set name _ => (config.group? name).isSome
  | .sync name => (config.group? name).isSome
  | .check name => (config.group? name).isSome
  | .getChannel instrument index => (config.channel? (instrument, index)).isSome
  | .setChannel instrument index _ => (config.channel? (instrument, index)).isSome

/-- The channels that a command commands, in order. -/
def addressed (config : RackConfig) : Command → List Address
  | .set name _ => config.members name
  | .sync name => config.members name
  | .setChannel instrument index _ => [(instrument, index)]
  | _ => []

/-- The level that a command commands channels to. -/
def value? (memory : Memory) : Command → Option Level
  | .set _ value => some value
  | .sync name => some (memory.level name)
  | .setChannel _ _ value => some value
  | _ => none

/-- A command fails when what it names is not described, and a command of a level fails when the
level is not finite or some channel that it commands refuses it. -/
def Fails (config : RackConfig) (memory : Memory) (command : Command) : Prop :=
  ¬ command.Names config ∨
    ∃ value, command.value? memory = some value ∧
      (value.isFinite = false ∨ ∃ address ∈ command.addressed config, config.Refuses value address)

/-- What a command that is carried out prints, but for a listing or a snapshot. -/
def answer? (config : RackConfig) (memory : Memory) : Command → Option String
  | .list => none
  | .status => none
  | .get name => some (name ++ ": " ++ Level.text (memory.level name) ++ " dB")
  | .set name value => some (name ++ ": set to " ++ Level.text value ++ " dB")
  | .sync name => some (name ++ ": re-commanded " ++ Level.text (memory.level name) ++ " dB")
  | .check name =>
    some (name ++ ": " ++ if memory.agrees config name then "synchronized" else "NOT synchronized")
  | .getChannel instrument index =>
    some (config.label (instrument, index) ++ ": " ++
      Level.text (memory.reading config (instrument, index)) ++ " dB")
  | .setChannel instrument index value =>
    some (config.label (instrument, index) ++ ": set to " ++ Level.text value ++ " dB")

end Command

namespace Memory

/-- What a command that is carried out leaves to remember. -/
def step (config : RackConfig) (memory : Memory) (command : Command) : Memory :=
  match command with
  | .set name value => (memory.drive config value (config.members name)).note name value
  | .sync name => memory.drive config (memory.level name) (config.members name)
  | .setChannel instrument index value => memory.drive config value [(instrument, index)]
  | _ => memory

/-- What commands that are carried out in order leave to remember. -/
def after (config : RackConfig) (memory : Memory) (commands : List Command) : Memory :=
  commands.foldl (step config) memory

end Memory

end Attenuation
