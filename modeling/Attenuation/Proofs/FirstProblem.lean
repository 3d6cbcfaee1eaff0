import Attenuation.Proofs.Assembly
import Mathlib.Data.Prod.Lex

/-!
# The first problem of a rack description

Building a rack stops at a problem of its description. `RackConfig.Problem` lists every problem that
there can be, each at its site, whatever other problems there are; the rank of a site says when
building comes to it. Building fails exactly if there is a problem, and the fault is that of the site
with the least rank. Each part of building is a search for problems, and a search that goes on where
another one found nothing finds the first problem of both.
-/

namespace Attenuation

/-- How a search for problems ends: it is done if there is none, and fails with the fault of a
problem to which no other one comes before. -/
inductive Outcome.FindsFirst {ε α σ κ : Type} [LE κ] (rank : σ → κ) (problem : σ → ε → Prop) :
    Outcome ε α → Prop where
  /-- There is no problem. -/
  | done (value : α) (clear : ∀ site fault, ¬ problem site fault) :
    FindsFirst rank problem (.done value)
  /-- No other problem is at a site of lower rank. -/
  | failed {site : σ} {fault : ε} (found : problem site fault)
    (least : ∀ other otherFault, problem other otherFault → rank site ≤ rank other) :
    FindsFirst rank problem (.failed fault)

namespace Outcome.FindsFirst

variable {ε α σ κ : Type} [LE κ] {rank : σ → κ} {problem other : σ → ε → Prop}
  {outcome : Outcome ε α}

/-- What is found depends on nothing but the problems that there are. -/
theorem congr (finds : outcome.FindsFirst rank problem)
    (same : ∀ site fault, problem site fault ↔ other site fault) :
    outcome.FindsFirst rank other := by
  obtain rfl : problem = other := funext₂ fun site fault => propext (same site fault)
  exact finds

/-- What is found is found among sites of another kind that are ranked alike. -/
theorem lift {σ' κ' : Type} [LE κ'] (outer : σ' → κ') (embed : σ → σ')
    (finds : outcome.FindsFirst rank problem)
    (ranked : ∀ site later, rank site ≤ rank later → outer (embed site) ≤ outer (embed later)) :
    outcome.FindsFirst outer fun site fault =>
      ∃ inner, site = embed inner ∧ problem inner fault := by
  cases finds with
  | done value clear => exact .done value fun _ fault ⟨inner, _, found⟩ => clear inner fault found
  | failed found least =>
    refine .failed ⟨_, rfl, found⟩ ?_
    rintro _ otherFault ⟨inner, rfl, problem⟩
    exact ranked _ _ (least inner otherFault problem)

/-- A check that stops where another one finds a problem and goes on where it finds nothing finds the
first problem of both. -/
theorem andThen {first second : σ → ε → Prop} {one other whole : Except ε Unit}
    (early : (Outcome.ofExcept one).FindsFirst rank first)
    (late : (Outcome.ofExcept other).FindsFirst rank second)
    (stops : ∀ fault, one = .error fault → whole = .error fault)
    (goesOn : one = .ok () → whole = other)
    (ordered : ∀ site fault later laterFault, first site fault → second later laterFault →
      rank site ≤ rank later) :
    (Outcome.ofExcept whole).FindsFirst rank fun site fault =>
      first site fault ∨ second site fault := by
  cases one with
  | error fault =>
    rw [stops fault rfl]
    cases early with
    | failed found least =>
      refine .failed (.inl found) fun site otherFault problem => ?_
      rcases problem with own | behind
      · exact least site otherFault own
      · exact ordered _ _ site otherFault found behind
  | ok =>
    rw [goesOn rfl]
    cases early with
    | done _ clear =>
      refine late.congr fun site fault => ?_
      exact ⟨.inr, fun problem => problem.resolve_left (clear site fault)⟩

/-- A search is done exactly if there is no problem. -/
theorem isDone_iff (finds : outcome.FindsFirst rank problem) :
    outcome.isDone ↔ ∀ site fault, ¬ problem site fault := by
  cases finds with
  | done value clear => exact ⟨fun _ => clear, fun _ => rfl⟩
  | failed found least => exact ⟨nofun, fun clear => absurd found (clear _ _)⟩

/-- A search fails exactly if there is a problem. -/
theorem exists_failed_iff (finds : outcome.FindsFirst rank problem) :
    (∃ fault, outcome = .failed fault) ↔ ∃ site fault, problem site fault := by
  cases finds with
  | done value clear => exact ⟨nofun, fun ⟨site, fault, found⟩ => absurd found (clear site fault)⟩
  | failed found least => exact ⟨fun _ => ⟨_, _, found⟩, fun _ => ⟨_, rfl⟩⟩

/-- A search fails with the fault of the first problem and with no other one, when no two problems
are at sites of one rank. -/
theorem failed_iff {κ : Type} [PartialOrder κ] {rank : σ → κ} {problem : σ → ε → Prop}
    {outcome : Outcome ε α} (finds : outcome.FindsFirst rank problem)
    (apart : Function.Injective rank)
    (unique : ∀ site fault other, problem site fault → problem site other → fault = other)
    (fault : ε) :
    outcome = .failed fault ↔ ∃ site, problem site fault ∧
      ∀ other otherFault, problem other otherFault → rank site ≤ rank other := by
  cases finds with
  | done value clear =>
    exact ⟨nofun, fun ⟨site, found, _⟩ => absurd found (clear site fault)⟩
  | @failed site own found least =>
    constructor
    · rintro ⟨⟩
      exact ⟨site, found, least⟩
    · rintro ⟨other, problem, first⟩
      obtain rfl : site = other :=
        apart (le_antisymm (least other fault problem) (first site own found))
      rw [unique site own fault found problem]

end Outcome.FindsFirst

namespace Action

variable {ε α β σ κ : Type} [LE κ] {rank : σ → κ}

/-- A search that goes on behind another one, at later sites, finds the first problem of both. -/
theorem bind_findsFirst {first second : σ → ε → Prop} {action : Action ε α}
    {next : α → Action ε β} {bench : Bench}
    (early : (action.run bench).1.FindsFirst rank first)
    (late : ∀ value after, action.run bench = (.done value, after) →
      ((next value).run after).1.FindsFirst rank second)
    (ordered : ∀ site fault other otherFault, first site fault → second other otherFault →
      rank site ≤ rank other) :
    ((action >>= next).run bench).1.FindsFirst rank
      fun site fault => first site fault ∨ second site fault := by
  cases ran : action.run bench with
  | mk outcome after =>
    rw [ran] at early
    cases early with
    | failed found least =>
      rw [run_bind_failed next ran]
      refine .failed (.inl found) fun other otherFault problem => ?_
      rcases problem with before | behind
      · exact least other otherFault before
      · exact ordered _ _ other otherFault found behind
    | done value clear =>
      rw [run_bind_done next ran]
      refine (late value after ran).congr fun site fault => ?_
      exact ⟨.inr, fun problem => problem.resolve_left (clear site fault)⟩

/-- A search that ends with a step that always succeeds finds what it found before that step. -/
theorem bind_findsFirst_done {problem : σ → ε → Prop} {action : Action ε α}
    {bench : Bench} (finds : (action.run bench).1.FindsFirst rank problem)
    (next : α → Action ε β) (last : ∀ value after, ((next value).run after).1.isDone) :
    ((action >>= next).run bench).1.FindsFirst rank problem := by
  cases ran : action.run bench with
  | mk outcome after =>
    rw [ran] at finds
    cases finds with
    | failed found least =>
      rw [run_bind_failed next ran]
      exact .failed found least
    | done value clear =>
      obtain ⟨result, later, ended⟩ := exists_of_isDone (last value after)
      rw [run_bind_done next ran, ended]
      exact .done result clear

/-- A search through a list finds the first problem of its items, when the sites of an item come
before those of the items behind it. -/
theorem mapM_findsFirst {γ : Type} {action : γ → Action ε β} (holds : Bench → Prop)
    (problem : Nat → γ → σ → ε → Prop) {items : List γ} {bench : Bench} (start : holds bench)
    (each : ∀ position item here, items[position]? = some item → holds here →
      ((action item).run here).1.FindsFirst rank (problem position item))
    (keeps : ∀ item here value after, holds here →
      (action item).run here = (.done value, after) → holds after)
    (ordered : ∀ position item site fault later other otherSite otherFault, position < later →
      problem position item site fault → problem later other otherSite otherFault →
      rank site ≤ rank otherSite) :
    ((items.mapM action).run bench).1.FindsFirst rank fun site fault =>
      ∃ position item, items[position]? = some item ∧ problem position item site fault := by
  induction items generalizing bench problem with
  | nil =>
    rw [List.mapM_nil]
    exact .done _ fun site fault ⟨position, item, listed, _⟩ => nomatch listed
  | cons item rest ih =>
    have behind (value : β) (after : Bench) (ran : (action item).run bench = (.done value, after)) :
        ((rest.mapM action >>= fun values => pure (value :: values)).run after).1.FindsFirst rank
          fun site fault => ∃ position other, rest[position]? = some other ∧
            problem (position + 1) other site fault :=
      bind_findsFirst_done (ih (fun position => problem (position + 1))
        (keeps item bench value after start ran)
        (fun position other here listed => each (position + 1) other here listed)
        fun position one site fault later other otherSite otherFault less =>
          ordered _ one site fault _ other otherSite otherFault (Nat.succ_lt_succ less))
        _ fun _ _ => rfl
    rw [List.mapM_cons]
    refine (bind_findsFirst (each 0 item bench rfl start) behind
      fun site fault other otherFault found ⟨position, one, _, later⟩ =>
        ordered 0 item site fault (position + 1) one other otherFault (Nat.succ_pos position) found
          later).congr fun site fault => ?_
    constructor
    · rintro (own | ⟨position, other, listed, found⟩)
      · exact ⟨0, item, rfl, own⟩
      · exact ⟨position + 1, other, listed, found⟩
    · rintro ⟨position, other, listed, found⟩
      cases position with
      | zero =>
        cases listed
        exact .inl found
      | succ position => exact .inr ⟨position, other, listed, found⟩

end Action

/-- The driver that is available for a descriptor: the registered one, or a simulated instrument
where the transport is the simulated one. -/
def Catalog.available? (catalog : Catalog) (config : InstrumentConfig) : Option DriverFactory :=
  match catalog.resolve config.model config.transport with
  | some factory => some factory
  | none => if config.transport = .simulated then some simulatedDriver else none

namespace InstrumentConfig

/-- What building looks at to make an instrument of a descriptor. -/
inductive Aspect where
  /-- Whether a driver is available. -/
  | availability
  /-- Whether the driver can be made. -/
  | driver
  /-- Whether the driver has the described channels. -/
  | channels
  /-- The offset of a channel. -/
  | offset (index : Nat)

/-- When building comes to an aspect of a descriptor. -/
def Aspect.rank : Aspect → Nat
  | .availability => 0
  | .driver => 1
  | .channels => 2
  | .offset index => 3 + index

/-- The problems of a descriptor. -/
inductive Problem (catalog : Catalog) (config : InstrumentConfig) : Aspect → RackFault → Prop where
  /-- No driver is available for the model over the transport. -/
  | unavailable (missing : catalog.available? config = none) :
    config.Problem catalog .availability (.unknownDriver config.model config.transport)
  /-- The driver cannot be made. -/
  | refused {factory : DriverFactory} {fault : RackFault}
    (found : catalog.available? config = some factory) (refuses : factory config = .error fault) :
    config.Problem catalog .driver fault
  /-- The driver has another number of channels than are described. -/
  | mismatch {factory : DriverFactory} {driver : Driver}
    (found : catalog.available? config = some factory) (made : factory config = .ok driver)
    (differs : driver.instrument.channelCount ≠ config.channelCount.toNat) :
    config.Problem catalog .channels (.channelCountMismatch config.model
      config.channelCount.toNat driver.instrument.channelCount)
  /-- The offset of a channel is not finite. -/
  | notFinite {index : Nat} (inside : index < config.channelCount.toNat)
    (infinite : (config.offset index).isFinite = false) :
    config.Problem catalog (.offset index)
      (.operation (Attenuator.notFinite "offset" (config.offset index)))

/-- Building comes to two aspects of a descriptor one after the other. -/
theorem Aspect.rank_injective : Function.Injective Aspect.rank := by
  intro one other same
  cases one <;> cases other <;> simp_all [Aspect.rank] <;> omega

/-- An aspect of a descriptor has one problem at most. -/
theorem Problem.unique {catalog : Catalog} {config : InstrumentConfig} {aspect : Aspect}
    {fault other : RackFault} (one : config.Problem catalog aspect fault)
    (another : config.Problem catalog aspect other) : fault = other := by
  cases one with
  | unavailable => cases another; rfl
  | refused found refuses =>
    cases another with
    | refused available fails =>
      cases found.symm.trans available
      cases refuses.symm.trans fails
      rfl
  | mismatch found made =>
    cases another with
    | mismatch available created =>
      cases found.symm.trans available
      cases made.symm.trans created
      rfl
  | notFinite => cases another; rfl

/-- A descriptor without the offsets and the path labels beyond its channels. -/
def trimmed (config : InstrumentConfig) : InstrumentConfig :=
  { config with
    offsets := config.offsets.map (List.take config.channelCount.toNat)
    paths := config.paths.map (List.take config.channelCount.toNat) }

/-- A trimmed list is short exactly if the whole one is. -/
theorem short?_take {α : Type} (config : InstrumentConfig) (list : Option (List α)) :
    config.short? (list.map (List.take config.channelCount.toNat)) = config.short? list := by
  cases list with
  | none => rfl
  | some items =>
    simp only [short?, Option.map_some, List.length_take]
    split
    case isTrue short => rw [if_pos (by omega), Nat.min_eq_right (by omega)]
    case isFalse enough => rw [if_neg (by omega)]

/-- Trimming keeps what is wrong with a descriptor by itself. -/
@[simp]
theorem validate_trimmed (config : InstrumentConfig) (position : Nat) :
    config.trimmed.validate position = config.validate position := by
  have offsets : config.trimmed.short? config.trimmed.offsets = config.short? config.offsets :=
    config.short?_take config.offsets
  have paths : config.trimmed.short? config.trimmed.paths = config.short? config.paths :=
    config.short?_take config.paths
  rw [validate, validate, offsets, paths]
  rfl

/-- Trimming keeps the offsets of the channels. -/
theorem offset_trimmed (config : InstrumentConfig) {index : Nat}
    (inside : index < config.channelCount.toNat) :
    config.trimmed.offset index = config.offset index := by
  unfold offset trimmed
  cases config.offsets with
  | none => rfl
  | some offsets => simp [inside]

end InstrumentConfig

/-- A driver is made by the one that is available. -/
theorem Catalog.create_eq (catalog : Catalog) (config : InstrumentConfig) :
    catalog.create config =
      match catalog.available? config with
      | some factory => factory config
      | none => .error (.unknownDriver config.model config.transport) := by
  unfold create available?
  cases catalog.resolve config.model config.transport with
  | some factory => rfl
  | none => by_cases simulated : config.transport = .simulated <;> simp [simulated]

/-- A descriptor has the problems of another one for the same driver that has its channels and
their offsets. -/
theorem InstrumentConfig.Problem.of_alike {catalog : Catalog} {config other : InstrumentConfig}
    {aspect : InstrumentConfig.Aspect} {fault : RackFault} (model : other.model = config.model)
    (transport : other.transport = config.transport)
    (channels : other.channelCount = config.channelCount)
    (driver : catalog.create other = catalog.create config)
    (offsets : ∀ index < config.channelCount.toNat, other.offset index = config.offset index)
    (problem : config.Problem catalog aspect fault) : other.Problem catalog aspect fault := by
  have available : catalog.available? other = catalog.available? config := by
    rw [Catalog.available?, Catalog.available?, model, transport]
  have made {factory : DriverFactory} (found : catalog.available? config = some factory) :
      factory other = factory config := by
    rw [Catalog.create_eq, Catalog.create_eq, available, found] at driver
    exact driver
  cases problem with
  | unavailable missing =>
    rw [← model, ← transport]
    exact .unavailable (available.trans missing)
  | refused found refuses => exact .refused (available.trans found) ((made found).trans refuses)
  | mismatch found creates differs =>
    rw [← model, ← channels]
    exact .mismatch (available.trans found) ((made found).trans creates) (by rwa [channels])
  | @notFinite index inside infinite =>
    rw [← offsets index inside] at infinite ⊢
    exact .notFinite (by rwa [channels]) infinite

/-- Trimming keeps the problems of a descriptor whose driver is made without the trimmed parts. -/
theorem InstrumentConfig.problem_trimmed {catalog : Catalog} {config : InstrumentConfig}
    (kept : catalog.create config.trimmed = catalog.create config)
    (aspect : InstrumentConfig.Aspect) (fault : RackFault) :
    config.trimmed.Problem catalog aspect fault ↔ config.Problem catalog aspect fault :=
  ⟨.of_alike rfl rfl rfl kept.symm fun _ inside => (config.offset_trimmed inside).symm,
    .of_alike rfl rfl rfl kept fun _ => config.offset_trimmed⟩

namespace Rack

/-- The attenuator of a channel is created, unless its offset is not finite. -/
theorem run_buildAttenuator {session : SessionId} {bench : Bench} (config : InstrumentConfig)
    (free : (bench.session session).poisoned = false) (index : Nat)
    (present : index < (bench.simulator (bench.session session).simulator).channelCount) :
    (buildAttenuator config session index).run bench =
      (if (config.offset index).isFinite then
        .done (config.attenuator session
          (bench.simulator (bench.session session).simulator).model index)
      else .failed (.operation (Attenuator.notFinite "offset" (config.offset index))), bench) := by
  unfold buildAttenuator InstrumentConfig.attenuator
  rw [Action.run_bind, Action.run_mapFault_outcome, Attenuator.run_create, free,
    if_neg Bool.false_ne_true, if_neg (Nat.not_le.mpr present)]
  by_cases finite : (config.offset index).isFinite
  · rw [if_pos finite, if_pos finite]
    cases config.path index <;> rfl
  · rw [if_neg finite, if_neg finite]
    rfl

/-- The driver of a descriptor is connected when it can be made, and its attenuators are created
when it has the described channels. -/
theorem run_buildInstrument (catalog : Catalog) (config : InstrumentConfig) (bench : Bench) :
    (buildInstrument catalog config).run bench =
      match catalog.create config with
      | .error fault => (.failed fault, bench)
      | .ok driver =>
        if driver.instrument.channelCount = config.channelCount.toNat then
          ((List.range config.channelCount.toNat).mapM (buildAttenuator config bench.nextSession) >>=
            fun attenuators => do
              Action.emit (.connected config.model config.transport config.channelCount.toNat)
              return RackInstrument.mk bench.nextSession attenuators).run (bench.connect driver).2
        else (.failed (.channelCountMismatch config.model config.channelCount.toNat
          driver.instrument.channelCount), (bench.connect driver).2) := by
  unfold buildInstrument Catalog.connect
  cases made : catalog.create config with
  | error fault => rfl
  | ok driver =>
    have counted := Session.run_info_bind bench.nextSession InstrumentInfo.channelCount
      (bench.connect driver).2
    simp only [Bench.session_connect, Bench.simulator_connect, ↓reduceIte,
      Bool.false_eq_true] at counted
    have connected : (do
        let driver ← Action.ofExcept (.ok driver)
        Action.modifyGet fun bench => bench.connect driver : Action RackFault SessionId).run
          bench = (.done bench.nextSession, (bench.connect driver).2) := by
      rw [Action.run_bind_done _ (Action.run_ofExcept_ok driver bench), Action.run_modifyGet,
        Bench.connect_fst]
    have reported : ((Session.channelCount bench.nextSession).mapFault fun fault =>
        RackFault.operation (.session fault)).run (bench.connect driver).2 =
          (.done driver.instrument.channelCount, (bench.connect driver).2) := by
      rw [Action.run_mapFault_outcome, Session.channelCount, counted]
      rfl
    rw [Action.run_bind_done _ connected, Action.run_bind_done _ reported]
    dsimp only
    split <;> rfl

/-- Creating the attenuators of an instrument that has the described channels finds the first of
them whose offset is not finite. -/
theorem buildAttenuators_findsFirst (session : SessionId) (bench : Bench) (catalog : Catalog)
    (config : InstrumentConfig) (free : (bench.session session).poisoned = false)
    (present : (bench.simulator (bench.session session).simulator).channelCount =
      config.channelCount.toNat) :
    (((List.range config.channelCount.toNat).mapM
      (buildAttenuator config session)).run bench).1.FindsFirst InstrumentConfig.Aspect.rank
        fun aspect fault => (∃ index, aspect = .offset index) ∧
          config.Problem catalog aspect fault := by
  have ran (index : Nat) (inside : index < config.channelCount.toNat) :=
    run_buildAttenuator config free index (by rwa [present])
  refine (Action.mapM_findsFirst (· = bench) (fun index _ aspect fault =>
    aspect = .offset index ∧ config.Problem catalog aspect fault) rfl ?_ ?_ ?_).congr ?_
  · rintro index other _ listed rfl
    obtain ⟨inside, rfl⟩ : index < config.channelCount.toNat ∧ index = other := by
      obtain ⟨short, same⟩ := List.getElem?_eq_some_iff.mp listed
      rw [List.length_range] at short
      exact ⟨short, by rwa [List.getElem_range] at same⟩
    rw [ran index inside]
    by_cases finite : (config.offset index).isFinite
    · rw [if_pos finite]
      refine .done _ ?_
      rintro _ fault ⟨rfl, problem⟩
      cases problem with
      | notFinite _ infinite => cases infinite.symm.trans finite
    · rw [if_neg finite]
      refine .failed ⟨rfl, .notFinite inside (Bool.eq_false_iff.mpr finite)⟩ ?_
      rintro _ otherFault ⟨rfl, -⟩
      exact le_refl _
  · rintro index _ attenuator after rfl done
    exact (buildAttenuator_done done).2
  · rintro index _ _ fault later _ _ otherFault less ⟨rfl, -⟩ ⟨rfl, -⟩
    exact Nat.add_le_add_left less.le 3
  · intro aspect fault
    constructor
    · rintro ⟨index, _, -, placed, problem⟩
      exact ⟨⟨index, placed⟩, problem⟩
    · rintro ⟨⟨index, rfl⟩, problem⟩
      cases problem with
      | notFinite inside infinite =>
        exact ⟨index, index, by simp [inside], rfl, .notFinite inside infinite⟩

/-- Making an instrument of a descriptor finds the first problem of the descriptor. -/
theorem buildInstrument_findsFirst (catalog : Catalog) (config : InstrumentConfig)
    (bench : Bench) :
    ((buildInstrument catalog config).run bench).1.FindsFirst InstrumentConfig.Aspect.rank
      (config.Problem catalog) := by
  rw [run_buildInstrument, Catalog.create_eq]
  cases available : catalog.available? config with
  | none =>
    exact .failed (.unavailable available) fun other _ _ => Nat.zero_le _
  | some factory =>
    dsimp only
    cases made : factory config with
    | error fault =>
      refine .failed (.refused available made) fun other otherFault problem => ?_
      cases problem with
      | unavailable missing => cases missing.symm.trans available
      | _ => simp [InstrumentConfig.Aspect.rank] <;> omega
    | ok driver =>
      -- What is left to go wrong is the number of channels, and the offsets behind it.
      have behind {aspect : InstrumentConfig.Aspect} {fault : RackFault}
          (problem : config.Problem catalog aspect fault) :
          InstrumentConfig.Aspect.channels.rank ≤ aspect.rank := by
        cases problem with
        | unavailable missing => cases missing.symm.trans available
        | refused found refuses =>
          cases found.symm.trans available
          cases refuses.symm.trans made
        | mismatch => exact le_refl _
        | notFinite => exact Nat.le_add_right_of_le (by decide)
      dsimp only
      split
      case isFalse differs => exact .failed (.mismatch available made differs) fun _ _ => behind
      case isTrue matching =>
        have offsets := buildAttenuators_findsFirst bench.nextSession (bench.connect driver).2
          catalog config (by simp)
          (by simp [Simulator.ofConfig, matching])
        refine (Action.bind_findsFirst_done offsets _ fun _ _ => rfl).congr fun aspect fault => ?_
        refine ⟨And.right, fun problem => ⟨?_, problem⟩⟩
        cases problem with
        | unavailable missing => cases missing.symm.trans available
        | refused found refuses =>
          cases found.symm.trans available
          cases refuses.symm.trans made
        | mismatch found other differs =>
          cases found.symm.trans available
          cases other.symm.trans made
          exact absurd matching differs
        | notFinite => exact ⟨_, rfl⟩

end Rack

namespace RackConfig

/-- Where a rack can have a problem. -/
inductive Site where
  /-- In the description by itself. -/
  | description
  /-- At an instrument. -/
  | instrument (position : Nat) (aspect : InstrumentConfig.Aspect)
  /-- At a member of a group. -/
  | member (group position : Nat)

/-- When building comes to a site: to the description first, then to the instruments in order, and
then to the groups in order and to their members in order. -/
def Site.rank : Site → ℕ ×ₗ ℕ ×ₗ ℕ
  | .description => toLex (0, toLex (0, 0))
  | .instrument position aspect => toLex (1, toLex (position, aspect.rank))
  | .member group position => toLex (2, toLex (group, position))

/-- A description has a channel if it has the instrument with that many channels. -/
def HasChannel (config : RackConfig) (instrument index : Nat) : Prop :=
  ∃ descriptor, config.instruments[instrument]? = some descriptor ∧
    index < descriptor.channelCount.toNat

/-- The problems of a rack. -/
inductive Problem (catalog : Catalog) (config : RackConfig) : Site → RackFault → Prop where
  /-- The description is inconsistent. -/
  | description {fault : ConfigFault} (invalid : config.validate = .error fault) :
    config.Problem catalog .description (.config fault)
  /-- An instrument has a problem. -/
  | instrument {position : Nat} {descriptor : InstrumentConfig} {aspect : InstrumentConfig.Aspect}
    {fault : RackFault} (described : config.instruments[position]? = some descriptor)
    (problem : descriptor.Problem catalog aspect fault) :
    config.Problem catalog (.instrument position aspect) fault
  /-- A member of a group refers to a channel that there is not. -/
  | member {place position : Nat} {group : GroupConfig} {reference : MemberRef}
    (described : config.groups[place]? = some group)
    (listed : group.members[position]? = some reference)
    (missing : ¬ config.HasChannel reference.instrument.toNat reference.index.toNat) :
    config.Problem catalog (.member place position)
      (.unknownMember group.name reference.instrument.toNat reference.index.toNat)

/-- The first problem of a rack. -/
def FirstProblem (catalog : Catalog) (config : RackConfig) (site : Site) (fault : RackFault) :
    Prop :=
  config.Problem catalog site fault ∧
    ∀ other otherFault, config.Problem catalog other otherFault → site.rank ≤ other.rank

/-- Building comes to two sites one after the other. -/
theorem Site.rank_injective : Function.Injective Site.rank := by
  intro one other same
  cases one <;> cases other <;> simp_all [Site.rank, InstrumentConfig.Aspect.rank_injective.eq_iff]

/-- A site has one problem at most. -/
theorem Problem.unique {catalog : Catalog} {config : RackConfig} {site : Site}
    {fault other : RackFault} (one : config.Problem catalog site fault)
    (another : config.Problem catalog site other) : fault = other := by
  cases one with
  | description invalid =>
    cases another with
    | description inconsistent =>
      cases invalid.symm.trans inconsistent
      rfl
  | instrument described problem =>
    cases another with
    | instrument same also =>
      cases described.symm.trans same
      exact problem.unique also
  | member described listed =>
    cases another with
    | member same also =>
      cases described.symm.trans same
      cases listed.symm.trans also
      rfl

/-- A description whose descriptors are trimmed. -/
def trimmed (config : RackConfig) : RackConfig :=
  { config with instruments := config.instruments.map InstrumentConfig.trimmed }

/-- Trimming keeps what is wrong with descriptors by themselves. -/
theorem validateInstruments_trimmed (descriptors : List InstrumentConfig) (position : Nat) :
    validateInstruments position (descriptors.map InstrumentConfig.trimmed) =
      validateInstruments position descriptors := by
  induction descriptors generalizing position with
  | nil => rfl
  | cons descriptor rest ih => simp only [List.map_cons, validateInstruments, ih,
      InstrumentConfig.validate_trimmed]

/-- Trimming keeps the channels of a description. -/
theorem hasChannel_trimmed (config : RackConfig) (instrument index : Nat) :
    config.trimmed.HasChannel instrument index ↔ config.HasChannel instrument index := by
  simp [HasChannel, trimmed, InstrumentConfig.trimmed]

/-- Trimming keeps the problems of a description whose drivers are made without the trimmed
parts. -/
theorem problem_trimmed {catalog : Catalog} {config : RackConfig}
    (kept : ∀ descriptor ∈ config.instruments,
      catalog.create descriptor.trimmed = catalog.create descriptor) (site : Site)
    (fault : RackFault) :
    config.trimmed.Problem catalog site fault ↔ config.Problem catalog site fault := by
  have checked : config.trimmed.validate = config.validate := by
    simp only [validate, trimmed, validateInstruments_trimmed]
  constructor
  · intro problem
    cases problem with
    | description invalid => exact .description (checked.symm.trans invalid)
    | instrument described problem =>
      rw [trimmed, List.getElem?_map] at described
      obtain ⟨descriptor, found, rfl⟩ := Option.map_eq_some_iff.mp described
      exact .instrument found ((InstrumentConfig.problem_trimmed
        (kept descriptor (List.mem_of_getElem? found)) _ _).mp problem)
    | member described listed missing =>
      exact .member described listed (mt (config.hasChannel_trimmed _ _).mpr missing)
  · intro problem
    cases problem with
    | description invalid => exact .description (checked.trans invalid)
    | @instrument position descriptor aspect fault described problem =>
      have trimmed : config.trimmed.instruments[position]? = some descriptor.trimmed := by
        simp [trimmed, described]
      exact .instrument trimmed ((InstrumentConfig.problem_trimmed
          (kept descriptor (List.mem_of_getElem? described)) _ _).mpr problem)
    | member described listed missing =>
      exact .member described listed (mt (config.hasChannel_trimmed _ _).mp missing)

end RackConfig

namespace Rack

/-- The instruments of an equipped bench have the channels that are described, and no others. -/
theorem Equipped.channelOf?_eq_none {catalog : Catalog} {bench after : Bench} {config : RackConfig}
    {instruments : List RackInstrument}
    (equipped : Equipped catalog bench config.instruments instruments after)
    (instrument index : Nat) :
    channelOf? instruments instrument index = none ↔ ¬ config.HasChannel instrument index := by
  unfold channelOf? RackConfig.HasChannel
  cases described : config.instruments[instrument]? with
  | none =>
    simp [equipped.missing described]
  | some descriptor =>
    obtain ⟨driver, -, -, placed, -⟩ := equipped.placed instrument descriptor described
    simp [placed, InstrumentConfig.assembled]

/-- Adding the members of a group finds the first that refers to a channel that there is not. -/
theorem addMembers_findsFirst (instruments : List RackInstrument) (references : List MemberRef)
    (group : Group) (bench : Bench) :
    ((references.foldlM (addMember instruments) group).run bench).1.FindsFirst id
      fun (position : Nat) fault => ∃ reference, references[position]? = some reference ∧
        channelOf? instruments reference.instrument.toNat reference.index.toNat = none ∧
        fault = .unknownMember group.name reference.instrument.toNat reference.index.toNat := by
  induction references generalizing group bench with
  | nil => exact .done _ fun position fault ⟨reference, listed, _⟩ => nomatch listed
  | cons reference rest ih =>
    rw [List.foldlM_cons]
    cases found : channelOf? instruments reference.instrument.toNat reference.index.toNat with
    | none =>
      have stops : (addMember instruments group reference).run bench =
          (.failed (.unknownMember group.name reference.instrument.toNat
            reference.index.toNat), bench) := by
        rw [addMember, found]
        rfl
      rw [Action.run_bind_failed _ stops]
      exact .failed ⟨reference, rfl, found, rfl⟩ fun position _ _ => Nat.zero_le position
    | some attenuator =>
      have added : (addMember instruments group reference).run bench =
          (.done { group with members := group.members ++ [attenuator] },
            bench.record [group.additionEvent attenuator]) := by
        rw [addMember, found]
        rfl
      rw [Action.run_bind_done _ added]
      refine ((ih _ _).lift id Nat.succ fun _ _ => Nat.succ_le_succ).congr
        fun position fault => ?_
      constructor
      · rintro ⟨inner, rfl, other, listed, problem⟩
        exact ⟨other, listed, problem⟩
      · rintro ⟨other, listed, missing, same⟩
        cases position with
        | zero =>
          cases listed
          cases found.symm.trans missing
        | succ inner => exact ⟨inner, rfl, other, listed, missing, same⟩

/-- Checking a description finds what is wrong with it by itself. -/
theorem validate_findsFirst (config : RackConfig) (catalog : Catalog) (bench : Bench) :
    (((Action.ofExcept config.validate).mapFault RackFault.config).run bench).1.FindsFirst
      RackConfig.Site.rank fun site fault =>
        site = .description ∧ config.Problem catalog site fault := by
  rw [Action.run_mapFault_outcome, Action.run_ofExcept]
  cases checked : config.validate with
  | error fault =>
    refine .failed ⟨rfl, .description checked⟩ ?_
    rintro _ otherFault ⟨rfl, -⟩
    exact le_refl _
  | ok =>
    refine .done _ ?_
    rintro _ fault ⟨rfl, problem⟩
    cases problem with
    | description invalid => cases invalid.symm.trans checked

/-- Making the instruments of a description finds the first problem of one of them. -/
theorem buildInstruments_findsFirst (config : RackConfig) (catalog : Catalog) (bench : Bench) :
    ((config.instruments.mapM (buildInstrument catalog)).run bench).1.FindsFirst
      RackConfig.Site.rank fun site fault =>
        (∃ position aspect, site = .instrument position aspect) ∧
          config.Problem catalog site fault := by
  refine (Action.mapM_findsFirst (fun _ => True) (fun position descriptor site fault =>
    ∃ aspect, site = .instrument position aspect ∧
      descriptor.Problem catalog aspect fault) trivial ?_ (fun _ _ _ _ _ _ => trivial) ?_).congr ?_
  · intro position descriptor here described _
    refine (buildInstrument_findsFirst catalog descriptor here).lift RackConfig.Site.rank
      (RackConfig.Site.instrument position) fun site later le => ?_
    simpa [RackConfig.Site.rank, Prod.Lex.toLex_le_toLex] using le
  · rintro position _ _ fault later _ _ otherFault less ⟨_, rfl, -⟩ ⟨_, rfl, -⟩
    simp [RackConfig.Site.rank, Prod.Lex.toLex_le_toLex, less]
  · intro site fault
    constructor
    · rintro ⟨position, descriptor, described, aspect, rfl, problem⟩
      exact ⟨⟨position, aspect, rfl⟩, .instrument described problem⟩
    · rintro ⟨⟨position, aspect, rfl⟩, problem⟩
      cases problem with
      | instrument described problem => exact ⟨position, _, described, aspect, rfl, problem⟩

/-- Building the groups of a description from its instruments finds the first member that refers to
a channel that there is not. -/
theorem buildGroups_findsFirst {config : RackConfig} {catalog : Catalog} {before bench : Bench}
    {instruments : List RackInstrument}
    (equipped : Equipped catalog before config.instruments instruments bench) :
    ((config.groups.mapM (buildGroup instruments)).run bench).1.FindsFirst
      RackConfig.Site.rank fun site fault =>
        (∃ place position, site = .member place position) ∧ config.Problem catalog site fault := by
  refine (Action.mapM_findsFirst (fun _ => True) (fun place group site fault =>
    ∃ position, site = .member place position ∧ ∃ reference : MemberRef,
      group.members[position]? = some reference ∧
      channelOf? instruments reference.instrument.toNat reference.index.toNat = none ∧
      fault = .unknownMember group.name reference.instrument.toNat reference.index.toNat)
    trivial ?_ (fun _ _ _ _ _ _ => trivial) ?_).congr ?_
  · intro place group here described _
    have members := addMembers_findsFirst instruments group.members
      (Group.empty group.name) here
    refine (Action.bind_findsFirst_done members _ fun _ _ => rfl).lift RackConfig.Site.rank
      (RackConfig.Site.member place) fun position later le => ?_
    simpa [RackConfig.Site.rank, Prod.Lex.toLex_le_toLex] using le
  · rintro place _ _ fault later _ _ otherFault less ⟨_, rfl, -⟩ ⟨_, rfl, -⟩
    simp [RackConfig.Site.rank, Prod.Lex.toLex_le_toLex, less]
  · intro site fault
    constructor
    · rintro ⟨place, group, described, position, rfl, reference, listed, missing, rfl⟩
      exact ⟨⟨place, position, rfl⟩,
        .member described listed ((equipped.channelOf?_eq_none _ _).mp missing)⟩
    · rintro ⟨⟨place, position, rfl⟩, problem⟩
      cases problem with
      | member described listed missing =>
        exact ⟨place, _, described, position, rfl, _, listed,
          (equipped.channelOf?_eq_none _ _).mpr missing, rfl⟩

/-- Building a rack finds the first problem of its description. -/
theorem build_findsFirst (config : RackConfig) (catalog : Catalog) (bench : Bench) :
    ((build config catalog).run bench).1.FindsFirst RackConfig.Site.rank
      (config.Problem catalog) := by
  have groups (instruments : List RackInstrument) (here after : Bench)
      (ran : (config.instruments.mapM (buildInstrument catalog)).run here =
        (.done instruments, after)) :=
    Action.bind_findsFirst_done (buildGroups_findsFirst (equipped_of_done ran))
      (fun groups => pure (Rack.mk instruments groups)) fun _ _ => rfl
  have parts (here : Bench) := Action.bind_findsFirst
    (buildInstruments_findsFirst config catalog here)
    (fun instruments after ran => groups instruments here after ran) (by
      rintro _ fault _ otherFault ⟨⟨position, aspect, rfl⟩, -⟩ ⟨⟨place, member, rfl⟩, -⟩
      simp [RackConfig.Site.rank, Prod.Lex.toLex_le_toLex])
  refine (Action.bind_findsFirst (validate_findsFirst config catalog bench)
    (fun _ after _ => parts after) ?_).congr fun site fault => ?_
  · rintro _ fault _ otherFault ⟨rfl, -⟩ (⟨⟨position, aspect, rfl⟩, -⟩ | ⟨⟨place, member, rfl⟩, -⟩) <;>
      simp [RackConfig.Site.rank, Prod.Lex.toLex_le_toLex]
  · constructor
    · rintro (⟨-, problem⟩ | ⟨-, problem⟩ | ⟨-, problem⟩) <;> exact problem
    · intro problem
      cases site with
      | description => exact .inl ⟨rfl, problem⟩
      | instrument position aspect => exact .inr (.inl ⟨⟨position, aspect, rfl⟩, problem⟩)
      | member place position => exact .inr (.inr ⟨⟨place, position, rfl⟩, problem⟩)

/-- **Building a rack reports the first problem of its description.** It fails exactly if there is a
problem: the description is inconsistent, an instrument has no driver, or one that cannot be made,
or other channels than are described, or a channel whose offset is not finite, or a group refers to
a channel that there is not. The fault is that of the problem to which building comes first, and
without a problem the rack is built. What is listed beyond the channels makes no difference, unless
to a driver that reads it. -/
theorem build_reports_first (config : RackConfig) (catalog : Catalog) (bench : Bench) :
    ((∃ fault, ((build config catalog).run bench).1 = .failed fault) ↔
      ∃ site fault, config.Problem catalog site fault) ∧
    (∀ fault, ((build config catalog).run bench).1 = .failed fault ↔
      ∃ site, config.FirstProblem catalog site fault) ∧
    (((build config catalog).run bench).1.isDone ↔
      ∀ site fault, ¬ config.Problem catalog site fault) ∧
    ((∀ descriptor ∈ config.instruments,
        catalog.create descriptor.trimmed = catalog.create descriptor) →
      ∀ fault, ((build config.trimmed catalog).run bench).1 = .failed fault ↔
        ((build config catalog).run bench).1 = .failed fault) := by
  have finds (config : RackConfig) := build_findsFirst config catalog bench
  have reported (config : RackConfig) := (finds config).failed_iff
    RackConfig.Site.rank_injective fun _ _ _ one another => one.unique another
  refine ⟨(finds config).exists_failed_iff, reported config, (finds config).isDone_iff,
    fun kept fault => ?_⟩
  rw [reported, reported]
  simp only [RackConfig.problem_trimmed kept]

/-- Three instruments, the first with a spare offset that is not a number, the second with an
infinite offset, the third of a model without a driver, and a group of a channel that there is
not. -/
def muddled : RackConfig where
  instruments := [
    { twin with offsets := some [0.5, 1.5, 0.0 / 0.0] },
    { twin with offsets := some [0.5, 1.0 / 0.0] },
    { twin with model := "NONE", transport := .telnet }]
  groups := [⟨"pair", [⟨7, 0⟩]⟩]

/-- Of what is wrong with the muddled description, the infinite offset is reported, with the spare
lists and without. -/
theorem build_reports_first_muddled :
    (∃ site, muddled.FirstProblem Catalog.empty site
      (.operation (.invalidArgument "offset must be finite, got inf"))) ∧
    ((build muddled.trimmed Catalog.empty).run Bench.empty).1 =
      .failed (.operation (.invalidArgument "offset must be finite, got inf")) := by
  obtain ⟨-, first, -, spare⟩ := build_reports_first muddled Catalog.empty Bench.empty
  have failed : ((build muddled Catalog.empty).run Bench.empty).1 =
      .failed (.operation (.invalidArgument "offset must be finite, got inf")) := by
    have wording : (match ((build muddled Catalog.empty).run Bench.empty).1 with
        | .failed (.operation (.invalidArgument text)) => text == "offset must be finite, got inf"
        | _ => false) = true := by decide +kernel
    split at wording
    case h_1 text ended => rw [ended, eq_of_beq wording]
    case h_2 => cases wording
  refine ⟨(first _).mp failed, (spare ?_ _).mpr failed⟩
  intro descriptor listed
  simp only [muddled, List.mem_cons, List.not_mem_nil, or_false] at listed
  rcases listed with rfl | rfl | rfl <;> rfl

end Rack

end Attenuation
