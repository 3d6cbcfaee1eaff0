import Attenuation.Catalog
import Attenuation.Proofs.Bench
import Attenuation.Proofs.Contract
import Mathlib.Data.Prod.Lex
import Mathlib.Data.String.Basic
import Mathlib.Data.UInt
import Mathlib.Tactic.SplitIfs

/-!
# Registrations

A catalog is what was registered, in order: for every key the driver that was registered last, and
the keys in ascending order. `Catalog.Remembers` says so of a catalog and a history of
registrations, one more registration keeps it, and so a catalog is a map however the drivers came
into it. Models compare by their characters, which UTF-8 makes the order of their bytes too.
-/

namespace Attenuation

namespace Text

/-- The bytes of a text in UTF-8. -/
def bytes (text : String) : List UInt8 := text.toUTF8.data.toList

/-- The bytes of a text are those of its characters in order. -/
theorem bytes_eq (text : String) : bytes text = text.toList.flatMap String.utf8EncodeChar := by
  unfold bytes
  rw [String.toUTF8_eq_toByteArray]
  conv_lhs => rw [← String.ofList_toList (s := text)]
  rw [String.toByteArray_ofList, List.utf8Encode, List.data_toByteArray]

/-- Numbers that fit compare as the bytes that they are written to. -/
theorem cons_ofNat_lt {first second : Nat} (fits : first < 256) (others : second < 256)
    (rest further : List UInt8) :
    UInt8.ofNat first :: rest < UInt8.ofNat second :: further ↔
      first < second ∨ first = second ∧ rest < further := by
  rw [List.cons_lt_cons_iff, UInt8.ofNat_lt_iff_lt fits others, ← UInt8.toNat_inj,
    UInt8.toNat_ofNat', UInt8.toNat_ofNat', Nat.mod_eq_of_lt fits, Nat.mod_eq_of_lt others]

/-- A smaller character has the smaller bytes, whatever comes behind. A longer sequence starts with
a greater byte, and sequences of one length are the digits to base 64. -/
theorem utf8EncodeChar_append_lt {first second : Char} (less : first < second)
    (rest further : List UInt8) :
    String.utf8EncodeChar first ++ rest < String.utf8EncodeChar second ++ further := by
  have values : first.val.toNat < second.val.toNat := less
  have bound : second.val.toNat < 0x110000 := by
    rcases second.valid with low | high <;> omega
  unfold String.utf8EncodeChar
  generalize first.val.toNat = small at *
  generalize second.val.toNat = great at *
  have third (number : Nat) : number / 4096 = number / 64 / 64 :=
    (Nat.div_div_eq_div_mul number 64 64).symm
  have fourth (number : Nat) : number / 262144 = number / 64 / 64 / 64 := by
    rw [Nat.div_div_eq_div_mul, Nat.div_div_eq_div_mul]
  simp only [third, fourth]
  split_ifs <;>
    simp (disch := omega) only [List.cons_append, List.nil_append, cons_ofNat_lt] <;> omega

/-- Smaller characters have smaller bytes. -/
theorem flatMap_utf8EncodeChar_lt {first second : List Char} (less : first < second) :
    first.flatMap String.utf8EncodeChar < second.flatMap String.utf8EncodeChar := by
  induction less with
  | @nil character rest =>
    rw [List.flatMap_nil, List.flatMap_cons]
    cases encoded : String.utf8EncodeChar character with
    | nil => exact absurd encoded String.utf8EncodeChar_ne_nil
    | cons byte others => exact .nil
  | rel less =>
    rw [List.flatMap_cons, List.flatMap_cons]
    exact utf8EncodeChar_append_lt less _ _
  | cons _ ih =>
    rw [List.flatMap_cons, List.flatMap_cons]
    exact List.append_left_lt ih

/-- Texts compare as their bytes do. -/
theorem bytes_lt_iff (first second : String) : bytes first < bytes second ↔ first < second := by
  have smaller {first second : String} (less : first < second) : bytes first < bytes second := by
    rw [bytes_eq, bytes_eq]
    exact flatMap_utf8EncodeChar_lt (String.lt_iff_toList_lt.mp less)
  refine ⟨fun less => ?_, smaller⟩
  rcases lt_trichotomy first second with before | rfl | behind
  · exact before
  · exact absurd less (List.lt_irrefl _)
  · exact absurd less (List.lt_asymm (smaller behind))

end Text

namespace DriverKey

/-- The order in which keys are listed: by the bytes of their models, and for one model the network
terminal in front of the serial line in front of the simulated instrument. -/
def Precedes (first second : DriverKey) : Prop :=
  Text.bytes first.model < Text.bytes second.model ∨
    first.model = second.model ∧
      [first.transport, second.transport].Sublist [.telnet, .serial, .simulated]

/-- Where a key stands in the lexicographic order of models and transports. -/
def place (key : DriverKey) : String ×ₗ ℕ := toLex (key.model, key.transport.rank)

/-- No two keys stand at one place. -/
theorem place_injective : Function.Injective place := by
  rintro ⟨model, transport⟩ ⟨otherModel, otherTransport⟩ same
  obtain ⟨rfl, ranks⟩ := Prod.mk.inj (toLex.injective same)
  cases transport <;> cases otherTransport <;> first | rfl | cases ranks

/-- A transport is in front of another one exactly if its rank is smaller. -/
theorem rank_lt_iff (first second : Transport) :
    first.rank < second.rank ↔ [first, second].Sublist [.telnet, .serial, .simulated] := by
  cases first <;> cases second <;> decide

/-- Keys precede one another as their places do. -/
theorem precedes_iff (first second : DriverKey) :
    first.Precedes second ↔ first.place < second.place := by
  unfold Precedes place
  rw [Text.bytes_lt_iff, ← rank_lt_iff, Prod.Lex.toLex_lt_toLex]

/-- Keys in ascending order are distinct. -/
theorem nodup_of_ascending {keys : List DriverKey} (ascending : keys.Pairwise Precedes) :
    keys.Nodup := by
  refine ascending.imp fun {first second} less => ?_
  rintro rfl
  rw [precedes_iff] at less
  exact lt_irrefl _ less

/-- The catalog puts keys in the order of their places. -/
theorem before_iff (first second : DriverKey) :
    first.before second = true ↔ first.place < second.place := by
  unfold before place
  simp [Prod.Lex.toLex_lt_toLex]

end DriverKey

/-- A driver that is registered for a key. -/
structure Registration where
  /-- The key. -/
  key : DriverKey
  /-- The driver. -/
  factory : DriverFactory

namespace Registration

/-- The last registration for a key in a history is that of a driver. -/
def Latest (history : List Registration) (key : DriverKey) (factory : DriverFactory) : Prop :=
  ∃ earlier later, history = earlier ++ ⟨key, factory⟩ :: later ∧
    ∀ registration ∈ later, registration.key ≠ key

/-- A history has a registration for a key. -/
def Registered (history : List Registration) (key : DriverKey) : Prop :=
  ∃ registration ∈ history, registration.key = key

/-- The event of a registration. -/
def event (registration : Registration) : Event :=
  .driverRegistered registration.key.model registration.key.transport

variable {history : List Registration} {key : DriverKey} {factory : DriverFactory}

/-- Without registrations there is no last one. -/
theorem not_latest_nil : ¬ Latest [] key factory := by
  rintro ⟨earlier, later, split, -⟩
  cases earlier <;> cases split

/-- One more registration is the last one for its key and leaves the last ones for other keys. -/
theorem latest_append (history : List Registration) (registration : Registration)
    (key : DriverKey) (factory : DriverFactory) :
    Latest (history ++ [registration]) key factory ↔
      if key = registration.key then registration.factory = factory
      else Latest history key factory := by
  constructor
  · rintro ⟨earlier, later, split, others⟩
    rcases List.eq_nil_or_concat' later with rfl | ⟨front, last, rfl⟩
    · obtain ⟨rfl, same⟩ := List.append_inj' split rfl
      cases same
      rw [if_pos rfl]
    · rw [← List.cons_append, ← List.append_assoc] at split
      obtain ⟨rfl, same⟩ := List.append_inj' split rfl
      cases same
      have apart : registration.key ≠ key := others registration (by simp)
      rw [if_neg apart.symm]
      exact ⟨earlier, front, rfl, fun one inside => others one (by simp [inside])⟩
  · intro last
    by_cases own : key = registration.key
    · rw [if_pos own] at last
      subst own last
      exact ⟨history, [], rfl, fun one inside => absurd inside List.not_mem_nil⟩
    · rw [if_neg own] at last
      obtain ⟨earlier, later, rfl, others⟩ := last
      refine ⟨earlier, later ++ [registration], by simp, fun one inside => ?_⟩
      rcases List.mem_append.mp inside with front | back
      · exact others one front
      · rw [List.mem_singleton.mp back]
        exact Ne.symm own

/-- A key has a last registration exactly if it has one. -/
theorem exists_latest_iff (history : List Registration) (key : DriverKey) :
    (∃ factory, Latest history key factory) ↔ Registered history key := by
  constructor
  · rintro ⟨factory, earlier, later, rfl, -⟩
    exact ⟨⟨key, factory⟩, by simp, rfl⟩
  · rintro ⟨registration, inside, rfl⟩
    induction history using List.reverseRecOn with
    | nil => exact absurd inside List.not_mem_nil
    | append_singleton front last ih =>
      by_cases own : registration.key = last.key
      · exact ⟨last.factory, (latest_append front last _ _).mpr (by rw [if_pos own])⟩
      · rcases List.mem_append.mp inside with early | late
        · obtain ⟨factory, found⟩ := ih early
          exact ⟨factory, (latest_append front last _ _).mpr (by rwa [if_neg own])⟩
        · exact absurd (congrArg key (List.mem_singleton.mp late)) own

end Registration

namespace Catalog

open Registration (Latest Registered)

/-- The entries of a catalog with distinct keys in ascending order, and for every key the driver
that was registered last in a history. -/
structure Remembers (catalog : Catalog) (history : List Registration) : Prop where
  /-- The driver found for a key is the one that was registered last. -/
  latest : ∀ key factory, catalog.resolve key.model key.transport = some factory ↔
    Latest history key factory
  /-- The keys are in ascending order. -/
  ascending : catalog.keys.Pairwise DriverKey.Precedes

/-- The keys of entries with one more driver are the keys that were there and the new one. -/
theorem mem_keys_insertEntry (key sought : DriverKey) (factory : DriverFactory)
    (entries : List (DriverKey × DriverFactory)) :
    sought ∈ (insertEntry key factory entries).map Prod.fst ↔
      sought = key ∨ sought ∈ entries.map Prod.fst := by
  induction entries with
  | nil => simp [insertEntry]
  | cons entry rest ih =>
    obtain ⟨other, kept⟩ := entry
    rw [insertEntry]
    split
    case isTrue same =>
      subst same
      simp
    case isFalse =>
      split
      · simp
      · rw [List.map_cons, List.mem_cons, ih, List.map_cons, List.mem_cons]
        exact or_left_comm

/-- Entries with one more driver are in ascending order if they were before. -/
theorem insertEntry_ascending (key : DriverKey) (factory : DriverFactory)
    {entries : List (DriverKey × DriverFactory)}
    (ascending : (entries.map Prod.fst).Pairwise DriverKey.Precedes) :
    ((insertEntry key factory entries).map Prod.fst).Pairwise DriverKey.Precedes := by
  induction entries with
  | nil => exact List.pairwise_singleton _ _
  | cons entry rest ih =>
    obtain ⟨other, kept⟩ := entry
    obtain ⟨first, others⟩ := List.pairwise_cons.mp ascending
    rw [insertEntry]
    split
    case isTrue same =>
      subst same
      exact ascending
    case isFalse apart =>
      split
      case isTrue front =>
        have less : key.Precedes other :=
          (DriverKey.precedes_iff _ _).mpr ((DriverKey.before_iff _ _).mp front)
        refine List.pairwise_cons.mpr ⟨fun later inside => ?_, ascending⟩
        rcases List.mem_cons.mp inside with rfl | behind
        · exact less
        · simp only [DriverKey.precedes_iff] at less first ⊢
          exact less.trans (first later behind)
      case isFalse behind =>
        refine List.pairwise_cons.mpr ⟨fun later inside => ?_, ih others⟩
        rcases (mem_keys_insertEntry key later factory rest).mp inside with rfl | inside
        · rw [DriverKey.before_iff] at behind
          rw [DriverKey.precedes_iff]
          exact lt_of_le_of_ne (not_lt.mp behind) (DriverKey.place_injective.ne apart)
        · exact first later inside

/-- An empty catalog remembers no registration. -/
theorem Remembers.empty : empty.Remembers [] where
  latest key factory := iff_of_false (by simp [resolve, Catalog.empty]) Registration.not_latest_nil
  ascending := List.Pairwise.nil

/-- A catalog with one more driver remembers one more registration. -/
theorem Remembers.insert {catalog : Catalog} {history : List Registration}
    (remembers : catalog.Remembers history) (registration : Registration) :
    (catalog.insert registration.key registration.factory).Remembers
      (history ++ [registration]) where
  latest key factory := by
    rw [resolve_insert, Registration.latest_append]
    by_cases own : key = registration.key
    · rw [if_pos own, if_pos own, Option.some_inj]
    · rw [if_neg own, if_neg own, remembers.latest]
  ascending := insertEntry_ascending _ _ remembers.ascending

/-- Register drivers in order. -/
def registerAll {ε : Type} (catalog : Catalog) (registrations : List Registration) :
    Action ε Catalog :=
  registrations.foldlM (fun catalog registration =>
    catalog.register registration.key.model registration.key.transport registration.factory)
    catalog

/-- Registering drivers in order is always done, records one event for each of them, and leaves a
catalog that remembers all of them. -/
theorem run_registerAll {ε : Type} {catalog : Catalog} {history : List Registration}
    (remembers : catalog.Remembers history) (registrations : List Registration) (bench : Bench) :
    ∃ result, (catalog.registerAll registrations : Action ε Catalog).run bench =
        (.done result, bench.record (registrations.map Registration.event)) ∧
      result.Remembers (history ++ registrations) := by
  unfold registerAll
  induction registrations generalizing catalog history bench with
  | nil => exact ⟨catalog, by rw [List.map_nil, Bench.record_nil]; rfl, by rwa [List.append_nil]⟩
  | cons registration rest ih =>
    have registered : (catalog.register registration.key.model registration.key.transport
        registration.factory : Action ε Catalog).run bench =
        (.done (catalog.insert registration.key registration.factory),
          bench.record [registration.event]) := rfl
    obtain ⟨result, ran, all⟩ := ih (remembers.insert registration)
      (bench.record [registration.event])
    refine ⟨result, ?_, by rwa [List.append_assoc] at all⟩
    rw [List.foldlM_cons, Action.run_bind_done _ registered, ran, Bench.record_record]
    rfl

/-- Where a catalog starts. -/
inductive Origin where
  /-- Without drivers. -/
  | blank
  /-- With the simulated models over every transport. -/
  | simulated

/-- The catalog at the start. -/
def Origin.start {ε : Type} : Origin → Action ε Catalog
  | .blank => pure Catalog.empty
  | .simulated => Catalog.simulated

/-- What was registered at the start. -/
def Origin.registered : Origin → List Registration
  | .blank => []
  | .simulated => simulatedPairs.map fun pair => ⟨⟨pair.1, pair.2⟩, simulatedDriver⟩

/-- Register drivers in order in the catalog of a start. -/
def registerFrom {ε : Type} (origin : Origin) (registrations : List Registration) :
    Action ε Catalog := do
  (← origin.start).registerAll registrations

/-- The simulated models are registered one after the other. -/
theorem simulated_eq {ε : Type} :
    (Catalog.simulated : Action ε Catalog) = empty.registerAll Origin.simulated.registered := by
  unfold registerAll Origin.registered
  rw [List.foldlM_map]
  rfl

/-- The catalog of the simulated models is always made and remembers them. -/
theorem run_simulated {ε : Type} (bench : Bench) :
    ∃ catalog after, (Catalog.simulated : Action ε Catalog).run bench = (.done catalog, after) ∧
      catalog.Remembers Origin.simulated.registered := by
  obtain ⟨catalog, ran, remembers⟩ := run_registerAll (ε := ε) .empty
    Origin.simulated.registered bench
  exact ⟨catalog, _, by rw [simulated_eq, ran], remembers⟩

/-- Registering drivers in order is always done, and leaves a catalog that remembers them behind
those of the start. -/
theorem run_registerFrom {ε : Type} (origin : Origin) (registrations : List Registration)
    (bench : Bench) :
    ∃ catalog after, (registerFrom origin registrations : Action ε Catalog).run bench =
        (.done catalog, after) ∧
      catalog.Remembers (origin.registered ++ registrations) := by
  have started : ∃ first here, (origin.start : Action ε Catalog).run bench = (.done first, here) ∧
      first.Remembers origin.registered := by
    cases origin with
    | blank => exact ⟨empty, bench, rfl, .empty⟩
    | simulated => exact run_simulated bench
  obtain ⟨first, here, ranStart, remembers⟩ := started
  obtain ⟨catalog, ran, all⟩ := run_registerAll (ε := ε) remembers registrations here
  exact ⟨catalog, _, by rw [registerFrom, Action.run_bind_done _ ranStart, ran], all⟩

namespace Remembers

variable {catalog : Catalog} {history : List Registration}

/-- A catalog finds no driver for a key exactly if none was registered for it. -/
theorem resolve_eq_none_iff (remembers : catalog.Remembers history) (key : DriverKey) :
    catalog.resolve key.model key.transport = none ↔ ¬ Registered history key := by
  rw [← Registration.exists_latest_iff, Option.eq_none_iff_forall_ne_some]
  simp only [ne_eq, remembers.latest, not_exists]

/-- A catalog contains a driver for a key exactly if one was registered for it. -/
theorem contains_iff (remembers : catalog.Remembers history) (key : DriverKey) :
    catalog.contains key.model key.transport = true ↔ Registered history key := by
  rw [contains, Option.isSome_iff_ne_none, Ne, remembers.resolve_eq_none_iff, not_not]

/-- A catalog lists the keys for which drivers were registered. -/
theorem mem_keys_iff (remembers : catalog.Remembers history) (key : DriverKey) :
    key ∈ catalog.keys ↔ Registered history key := by
  rw [← remembers.contains_iff, contains, resolve, Option.isSome_map, List.find?_isSome, keys,
    List.mem_map]
  simp only [decide_eq_true_eq]

/-- There is one listing in ascending order of the keys for which drivers were registered. -/
theorem eq_keys (remembers : catalog.Remembers history) {listing : List DriverKey}
    (ascending : listing.Pairwise DriverKey.Precedes)
    (same : ∀ key, key ∈ listing ↔ Registered history key) : listing = catalog.keys := by
  have alike : listing.Perm catalog.keys :=
    (List.perm_ext_iff_of_nodup (DriverKey.nodup_of_ascending ascending)
      (DriverKey.nodup_of_ascending remembers.ascending)).mpr fun key =>
        (same key).trans (remembers.mem_keys_iff key).symm
  refine alike.eq_of_pairwise (fun first second _ _ less greater => ?_) ascending
    remembers.ascending
  rw [DriverKey.precedes_iff] at less greater
  exact absurd greater less.asymm

/-- A descriptor whose key has a registration gets its driver from the last one. -/
theorem create_of_latest (remembers : catalog.Remembers history) {config : InstrumentConfig}
    {factory : DriverFactory} (latest : Latest history ⟨config.model, config.transport⟩ factory) :
    catalog.create config = factory config := by
  have found := (remembers.latest ⟨config.model, config.transport⟩ factory).mpr latest
  rw [create, found]

/-- A descriptor whose key has no registration gets a simulated instrument where the transport is
the simulated one, and otherwise the fault that names the key. -/
theorem create_of_not_registered (remembers : catalog.Remembers history)
    {config : InstrumentConfig} (none : ¬ Registered history ⟨config.model, config.transport⟩) :
    catalog.create config = if config.transport = .simulated then simulatedDriver config
      else .error (.unknownDriver config.model config.transport) := by
  have found := (remembers.resolve_eq_none_iff ⟨config.model, config.transport⟩).mpr none
  rw [create, found]

end Remembers

/-- **A catalog is the map of what was registered in it.** Registering drivers in order, in an empty
catalog or in that of the simulated models, is always done. For every key the catalog finds then
the driver that was registered last, those of the start counting as earlier, and finds none where
none was registered. It lists the keys with a registration and no others, each once and in
ascending order, and there is no other such listing, so that the order of the registrations does
not matter. A descriptor gets its driver from what is found for its key; where nothing is found it
gets a simulated instrument over the simulated transport, and the fault that names the key over any
other. Over the simulated transport that fault is none of the catalog: only a driver that was
registered can end in it. -/
theorem maps_registrations {ε : Type} (origin : Origin) (registrations : List Registration)
    (bench : Bench) :
    let history := origin.registered ++ registrations
    ∃ catalog after, (registerFrom origin registrations : Action ε Catalog).run bench =
        (.done catalog, after) ∧
      (∀ key : DriverKey,
        (∀ factory, catalog.resolve key.model key.transport = some factory ↔
          Latest history key factory) ∧
        (catalog.resolve key.model key.transport = none ↔ ¬ Registered history key) ∧
        (catalog.contains key.model key.transport = true ↔ Registered history key) ∧
        (key ∈ catalog.keys ↔ Registered history key)) ∧
      catalog.keys.Nodup ∧
      catalog.keys.Pairwise DriverKey.Precedes ∧
      (∀ listing : List DriverKey, listing.Pairwise DriverKey.Precedes →
        (∀ key, key ∈ listing ↔ Registered history key) → listing = catalog.keys) ∧
      ∀ config : InstrumentConfig,
        (∀ factory, Latest history ⟨config.model, config.transport⟩ factory →
          catalog.create config = factory config) ∧
        (¬ Registered history ⟨config.model, config.transport⟩ →
          catalog.create config =
            if config.transport = .simulated then simulatedDriver config
            else .error (.unknownDriver config.model config.transport)) ∧
        (config.transport = .simulated → ∀ model transport,
          catalog.create config = .error (.unknownDriver model transport) →
          ∃ factory, Latest history ⟨config.model, .simulated⟩ factory ∧
            factory config = .error (.unknownDriver model transport)) := by
  intro history
  obtain ⟨catalog, after, ran, remembers⟩ := run_registerFrom (ε := ε) origin registrations bench
  refine ⟨catalog, after, ran, fun key => ⟨remembers.latest key,
    remembers.resolve_eq_none_iff key, remembers.contains_iff key, remembers.mem_keys_iff key⟩,
    DriverKey.nodup_of_ascending remembers.ascending, remembers.ascending,
    fun listing => remembers.eq_keys,
    fun config => ⟨fun factory => remembers.create_of_latest, remembers.create_of_not_registered,
      fun simulated model transport unknown => ?_⟩⟩
  by_cases registered : Registered history ⟨config.model, config.transport⟩
  · obtain ⟨factory, latest⟩ := (Registration.exists_latest_iff _ _).mpr registered
    rw [remembers.create_of_latest latest] at unknown
    rw [simulated] at latest
    exact ⟨factory, latest, unknown⟩
  · rw [remembers.create_of_not_registered registered, if_pos simulated] at unknown
    cases unknown

end Catalog

end Attenuation
