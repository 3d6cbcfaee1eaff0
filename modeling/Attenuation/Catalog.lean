import Attenuation.Action
import Attenuation.Rack.Fault

/-!
# The driver catalog

A catalog says which drivers are available for which model over which transport. Its entries are
kept in ascending order of their keys, each key once, so that listings do not depend on the order
in which drivers were registered. Simulated instruments of any model are always available. The
driver found for a key is the one that was put there last (`resolve_insert`).
-/

namespace Attenuation

/-- What a driver is registered for. -/
structure DriverKey where
  /-- The model name. -/
  model : String
  /-- The transport. -/
  transport : Transport
deriving Repr, DecidableEq

/-- The order of driver keys: by the characters of the model, then by the transport. -/
def DriverKey.before (first second : DriverKey) : Bool :=
  first.model < second.model ||
    (first.model == second.model && first.transport.rank < second.transport.rank)

/-- How a driver is made from the descriptor of its instrument. -/
abbrev DriverFactory := InstrumentConfig → Except RackFault Driver

/-- What a descriptor asks a simulated instrument to be. -/
def InstrumentConfig.simulatorConfig (config : InstrumentConfig) : SimulatorConfig where
  model := config.model
  channelCount := config.channelCount.toNat
  maximum := config.maximum
  step := none

/-- The driver of a simulated instrument. -/
def simulatedDriver : DriverFactory := fun config =>
  .ok { instrument := config.simulatorConfig, trap := Trap.none, probed := false }

/-- The available drivers. -/
structure Catalog where
  /-- The drivers by their keys, in ascending order. -/
  entries : List (DriverKey × DriverFactory)

namespace Catalog

/-- A catalog without entries. -/
def empty : Catalog := ⟨[]⟩

/-- Entries with a driver put in its place. -/
def insertEntry (key : DriverKey) (factory : DriverFactory) :
    List (DriverKey × DriverFactory) → List (DriverKey × DriverFactory)
  | [] => [(key, factory)]
  | (other, kept) :: rest =>
    if other = key then (key, factory) :: rest
    else if key.before other then (key, factory) :: (other, kept) :: rest
    else (other, kept) :: insertEntry key factory rest

/-- Put a driver into the catalog, in place of an earlier one for the same key. -/
def insert (catalog : Catalog) (key : DriverKey) (factory : DriverFactory) : Catalog :=
  ⟨insertEntry key factory catalog.entries⟩

/-- Register a driver. -/
def register {ε : Type} (catalog : Catalog) (model : String) (transport : Transport)
    (factory : DriverFactory) : Action ε Catalog := do
  Action.emit (.driverRegistered model transport)
  return catalog.insert ⟨model, transport⟩ factory

/-- The driver registered for a model and a transport. -/
def resolve (catalog : Catalog) (model : String) (transport : Transport) :
    Option DriverFactory :=
  (catalog.entries.find? fun entry => entry.1 = ⟨model, transport⟩).map Prod.snd

/-- Looking for a key among entries after putting a driver in its place. -/
theorem find_insertEntry (key sought : DriverKey) (factory : DriverFactory)
    (entries : List (DriverKey × DriverFactory)) :
    (insertEntry key factory entries).find? (fun entry => entry.1 = sought) =
      if sought = key then some (key, factory)
      else entries.find? fun entry => entry.1 = sought := by
  induction entries with
  | nil => by_cases same : sought = key <;> simp_all [insertEntry, eq_comm]
  | cons entry rest ih =>
    obtain ⟨other, kept⟩ := entry
    rw [insertEntry]
    split
    case isTrue here =>
      subst here
      by_cases same : sought = other
      · simp [same]
      · simp [same, Ne.symm same]
    case isFalse =>
      split
      · by_cases same : sought = key
        · simp [same]
        · simp [same, Ne.symm same]
      · by_cases hit : other = sought
        · subst hit
          simp_all
        · simp [hit, ih]

/-- A driver that was put into the catalog is the one found for its key, and every other key
finds what it found before. -/
theorem resolve_insert (catalog : Catalog) (key : DriverKey) (factory : DriverFactory)
    (model : String) (transport : Transport) :
    (catalog.insert key factory).resolve model transport =
      if ⟨model, transport⟩ = key then some factory else catalog.resolve model transport := by
  simp only [resolve, insert, find_insertEntry]
  split <;> simp_all

/-- Whether a driver is registered for a model and a transport. -/
def contains (catalog : Catalog) (model : String) (transport : Transport) : Bool :=
  (catalog.resolve model transport).isSome

/-- The keys in ascending order. -/
def keys (catalog : Catalog) : List DriverKey := catalog.entries.map Prod.fst

/-- The models that simulated instruments answer to over every transport. -/
def simulatedModels : List String := ["SIM-1", "SIM-2", "SIM-4", "SIM-8"]

/-- The pairs of a simulated model and a transport. -/
def simulatedPairs : List (String × Transport) :=
  simulatedModels.flatMap fun model => Transport.all.map fun transport => (model, transport)

/-- The catalog of the simulated models over every transport. -/
def simulated {ε : Type} : Action ε Catalog :=
  simulatedPairs.foldlM
    (fun catalog pair => catalog.register pair.1 pair.2 simulatedDriver) empty

/-- The driver of a descriptor: the registered one, or a simulated instrument where the transport
is the simulated one. -/
def create (catalog : Catalog) (config : InstrumentConfig) : Except RackFault Driver :=
  match catalog.resolve config.model config.transport with
  | some factory => factory config
  | none =>
    if config.transport = .simulated then simulatedDriver config
    else .error (.unknownDriver config.model config.transport)

/-- Connect the driver of a descriptor. -/
def connect (catalog : Catalog) (config : InstrumentConfig) : Action RackFault SessionId := do
  let driver ← Action.ofExcept (catalog.create config)
  Action.modifyGet fun bench => bench.connect driver

end Catalog

end Attenuation
