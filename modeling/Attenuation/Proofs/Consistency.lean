import Attenuation.Proofs.FirstProblem

/-!
# The check of a rack description

What a description must satisfy by itself, before anything is connected: every instrument has a
model name, a list of offsets or paths that is given has an entry for every channel, and no two
groups share a name. `RackConfig.Defect` lists every way in which a description can violate this,
each at its place; the check accepts exactly the descriptions without a defect, and reports the one
at the first place.
-/

namespace Attenuation

namespace InstrumentConfig

/-- What the check of a descriptor looks at, in this order. -/
inductive Requirement where
  /-- The model name. -/
  | model
  /-- The number of offsets. -/
  | offsets
  /-- The number of paths. -/
  | paths

/-- When the check of a descriptor comes to a requirement. -/
def Requirement.rank : Requirement → Nat
  | .model => 0
  | .offsets => 1
  | .paths => 2

/-- The defects of the descriptor at a position. -/
inductive Defect (config : InstrumentConfig) (position : Nat) : Requirement → ConfigFault → Prop where
  /-- The model name is made of white space alone. -/
  | emptyModel (blank : ∀ c ∈ config.model.toList, Text.isBlank c) :
    config.Defect position .model (.emptyModel position)
  /-- The list of offsets is shorter than the channel count. -/
  | missingOffsets {offsets : List Level} (given : config.offsets = some offsets)
    (short : offsets.length < config.channelCount.toNat) :
    config.Defect position .offsets
      (.missingOffsets position offsets.length config.channelCount.toNat)
  /-- The list of paths is shorter than the channel count. -/
  | missingPaths {paths : List String} (given : config.paths = some paths)
    (short : paths.length < config.channelCount.toNat) :
    config.Defect position .paths
      (.missingPaths position paths.length config.channelCount.toNat)

variable {config : InstrumentConfig} {position : Nat}

/-- A list is short exactly if it is given and has fewer entries than there are channels. -/
theorem short?_eq_some_iff {α : Type} {list : Option (List α)} {given : Nat} :
    config.short? list = some given ↔
      ∃ items, list = some items ∧ items.length < config.channelCount.toNat ∧
        items.length = given := by
  cases list with
  | none => simp [short?]
  | some items => by_cases short : items.length < config.channelCount.toNat <;> simp [short?, short]

/-- The check of a descriptor finds its first defect. -/
theorem validate_findsFirst (config : InstrumentConfig) (position : Nat) :
    (Outcome.ofExcept (config.validate position)).FindsFirst Requirement.rank
      (config.Defect position) := by
  unfold validate
  by_cases blank : Text.isBlankText config.model
  · rw [if_pos blank]
    exact .failed (.emptyModel (by simpa [Text.isBlankText] using blank)) fun _ _ _ => Nat.zero_le _
  rw [if_neg blank]
  have named : ¬ ∀ c ∈ config.model.toList, Text.isBlank c := by
    simpa [Text.isBlankText] using blank
  cases offsets : config.short? config.offsets with
  | some given =>
    obtain ⟨items, listed, short, rfl⟩ := short?_eq_some_iff.mp offsets
    refine .failed (.missingOffsets listed short) fun other fault defect => ?_
    cases defect with
    | emptyModel blank => exact absurd blank named
    | missingOffsets => exact le_refl _
    | missingPaths => decide
  | none =>
    have enough {items : List Level} (listed : config.offsets = some items) :
        ¬ items.length < config.channelCount.toNat := fun short => by
      cases offsets.symm.trans (short?_eq_some_iff.mpr ⟨items, listed, short, rfl⟩)
    cases paths : config.short? config.paths with
    | some given =>
      obtain ⟨items, listed, short, rfl⟩ := short?_eq_some_iff.mp paths
      refine .failed (.missingPaths listed short) fun other fault defect => ?_
      cases defect with
      | emptyModel blank => exact absurd blank named
      | missingOffsets listed short => exact absurd short (enough listed)
      | missingPaths => exact le_refl _
    | none =>
      refine .done _ fun requirement fault defect => ?_
      cases defect with
      | emptyModel blank => exact named blank
      | missingOffsets listed short => exact enough listed short
      | missingPaths listed short =>
        cases paths.symm.trans (short?_eq_some_iff.mpr ⟨_, listed, short, rfl⟩)

/-- The check of a descriptor comes to two requirements one after the other. -/
theorem Requirement.rank_injective : Function.Injective Requirement.rank := by
  intro one other same
  cases one <;> cases other <;> first | rfl | cases same

/-- A requirement is violated in one way at most. -/
theorem Defect.unique {requirement : Requirement} {fault other : ConfigFault}
    (one : config.Defect position requirement fault)
    (another : config.Defect position requirement other) : fault = other := by
  cases one with
  | emptyModel => cases another; rfl
  | missingOffsets given =>
    cases another with
    | missingOffsets same =>
      cases given.symm.trans same
      rfl
  | missingPaths given =>
    cases another with
    | missingPaths same =>
      cases given.symm.trans same
      rfl

end InstrumentConfig

namespace RackConfig

/-- Where a description can have a defect. -/
inductive Place where
  /-- At a requirement of an instrument. -/
  | instrument (position : Nat) (requirement : InstrumentConfig.Requirement)
  /-- At the name of a group. -/
  | group (position : Nat)

/-- When the check comes to a place: to the instruments in order first, and then to the groups in
order. -/
def Place.rank : Place → ℕ ×ₗ ℕ ×ₗ ℕ
  | .instrument position requirement => toLex (0, toLex (position, requirement.rank))
  | .group position => toLex (1, toLex (position, 0))

/-- The defects of a description. -/
inductive Defect (config : RackConfig) : Place → ConfigFault → Prop where
  /-- An instrument has a defect. -/
  | instrument {position : Nat} {descriptor : InstrumentConfig}
    {requirement : InstrumentConfig.Requirement} {fault : ConfigFault}
    (described : config.instruments[position]? = some descriptor)
    (defect : descriptor.Defect position requirement fault) :
    config.Defect (.instrument position requirement) fault
  /-- A group has the name of an earlier one. -/
  | duplicateGroup {position earlier : Nat} {group other : GroupConfig}
    (described : config.groups[position]? = some group) (before : earlier < position)
    (known : config.groups[earlier]? = some other) (same : other.name = group.name) :
    config.Defect (.group position) (.duplicateGroup group.name)

/-- What a description must satisfy. -/
structure Consistent (config : RackConfig) : Prop where
  /-- Every model name has a character that is not white space. -/
  models : ∀ descriptor ∈ config.instruments, ∃ c ∈ descriptor.model.toList,
    Text.isBlank c = false
  /-- Every list of offsets has an entry for each channel. -/
  offsets : ∀ descriptor ∈ config.instruments, ∀ offsets, descriptor.offsets = some offsets →
    descriptor.channelCount.toNat ≤ offsets.length
  /-- Every list of paths has an entry for each channel. -/
  paths : ∀ descriptor ∈ config.instruments, ∀ paths, descriptor.paths = some paths →
    descriptor.channelCount.toNat ≤ paths.length
  /-- No two groups share a name. -/
  names : config.groups.Pairwise fun one other => one.name ≠ other.name

variable {config : RackConfig}

/-- A description is consistent exactly if it has no defect. -/
theorem consistent_iff :
    config.Consistent ↔ ∀ place fault, ¬ config.Defect place fault := by
  constructor
  · intro consistent place fault defect
    cases defect with
    | instrument described defect =>
      have member := List.mem_of_getElem? described
      cases defect with
      | emptyModel blank =>
        obtain ⟨c, inside, visible⟩ := consistent.models _ member
        exact Bool.false_ne_true (visible.symm.trans (blank c inside))
      | missingOffsets given short =>
        exact Nat.not_le_of_lt short (consistent.offsets _ member _ given)
      | missingPaths given short =>
        exact Nat.not_le_of_lt short (consistent.paths _ member _ given)
    | duplicateGroup described before known same =>
      obtain ⟨inside, rfl⟩ := List.getElem?_eq_some_iff.mp described
      obtain ⟨present, rfl⟩ := List.getElem?_eq_some_iff.mp known
      exact List.pairwise_iff_getElem.mp consistent.names _ _ present inside before same
  · intro clear
    have sound (descriptor : InstrumentConfig) (member : descriptor ∈ config.instruments) :
        ∃ position, ∀ requirement fault, ¬ descriptor.Defect position requirement fault := by
      obtain ⟨position, described⟩ := List.mem_iff_getElem?.mp member
      exact ⟨position, fun _ _ defect => clear _ _ (.instrument described defect)⟩
    refine ⟨fun descriptor member => ?_, fun descriptor member offsets given => ?_,
      fun descriptor member paths given => ?_, ?_⟩
    · obtain ⟨position, none⟩ := sound descriptor member
      by_contra blank
      push Not at blank
      exact none _ _ (.emptyModel fun c inside => Bool.eq_true_of_not_eq_false (blank c inside))
    · obtain ⟨position, none⟩ := sound descriptor member
      exact Nat.le_of_not_lt fun short => none _ _ (.missingOffsets given short)
    · obtain ⟨position, none⟩ := sound descriptor member
      exact Nat.le_of_not_lt fun short => none _ _ (.missingPaths given short)
    · refine List.pairwise_iff_getElem.mpr fun earlier position present inside before same => ?_
      exact clear _ _ (.duplicateGroup (List.getElem?_eq_getElem inside) before
        (List.getElem?_eq_getElem present) same)

/-- The check comes to two places one after the other. -/
theorem Place.rank_injective : Function.Injective Place.rank := by
  intro one other same
  cases one <;> cases other <;>
    simp_all [Place.rank, InstrumentConfig.Requirement.rank_injective.eq_iff]

/-- A place has one defect at most. -/
theorem Defect.unique {place : Place} {fault other : ConfigFault}
    (one : config.Defect place fault) (another : config.Defect place other) : fault = other := by
  cases one with
  | instrument described defect =>
    cases another with
    | instrument same also =>
      cases described.symm.trans same
      exact defect.unique also
  | duplicateGroup described =>
    cases another with
    | duplicateGroup same =>
      cases described.symm.trans same
      rfl

/-- The check of instruments, the first of them at a position, finds their first defect. -/
theorem validateInstruments_findsFirst (start : Nat) (descriptors : List InstrumentConfig) :
    (Outcome.ofExcept (validateInstruments start descriptors)).FindsFirst Place.rank
      fun place fault => ∃ index descriptor requirement, descriptors[index]? = some descriptor ∧
        place = .instrument (start + index) requirement ∧
        descriptor.Defect (start + index) requirement fault := by
  induction descriptors generalizing start with
  | nil => exact .done _ fun place fault ⟨_, _, _, listed, _⟩ => nomatch listed
  | cons descriptor rest ih =>
    have own := (descriptor.validate_findsFirst start).lift Place.rank (Place.instrument start)
      fun site later le => by simpa [Place.rank, Prod.Lex.toLex_le_toLex] using le
    refine (own.andThen (ih (start + 1)) (fun fault stopped => ?_) (fun passed => ?_) ?_).congr
      fun place fault => ?_
    · rw [validateInstruments, stopped]
    · rw [validateInstruments, passed]
    · rintro _ fault _ laterFault ⟨requirement, rfl, -⟩ ⟨index, _, other, -, rfl, -⟩
      have before : start < start + 1 + index := by omega
      simp [Place.rank, Prod.Lex.toLex_le_toLex, before]
    · constructor
      · rintro (⟨requirement, rfl, defect⟩ | ⟨index, other, requirement, listed, rfl, defect⟩)
        · exact ⟨0, descriptor, requirement, rfl, rfl, defect⟩
        · have shift : start + 1 + index = start + (index + 1) := by omega
          rw [shift] at defect ⊢
          exact ⟨index + 1, other, requirement, listed, rfl, defect⟩
      · rintro ⟨index, other, requirement, listed, rfl, defect⟩
        cases index with
        | zero =>
          cases listed
          exact .inl ⟨requirement, rfl, defect⟩
        | succ index =>
          have shift : start + (index + 1) = start + 1 + index := by omega
          rw [shift] at defect ⊢
          exact .inr ⟨index, other, requirement, listed, rfl, defect⟩

/-- The check of names finds the first that was seen before or occurs in front of its place. -/
theorem validateNames_findsFirst (seen names : List String) :
    (Outcome.ofExcept (validateNames seen names)).FindsFirst id
      fun (position : Nat) fault => ∃ name, names[position]? = some name ∧
        (name ∈ seen ∨ ∃ earlier < position, names[earlier]? = some name) ∧
        fault = .duplicateGroup name := by
  induction names generalizing seen with
  | nil => exact .done _ fun position fault ⟨name, listed, _⟩ => nomatch listed
  | cons name rest ih =>
    unfold validateNames
    by_cases known : seen.contains name
    · rw [if_pos known]
      have found : ∃ other, (name :: rest)[0]? = some other ∧
          (other ∈ seen ∨ ∃ earlier < 0, (name :: rest)[earlier]? = some other) ∧
          ConfigFault.duplicateGroup name = .duplicateGroup other :=
        ⟨name, rfl, .inl (by simpa using known), rfl⟩
      exact .failed found fun position _ _ => Nat.zero_le position
    rw [if_neg known]
    have unseen : name ∉ seen := by simpa using known
    refine ((ih (name :: seen)).lift id Nat.succ fun _ _ => Nat.succ_le_succ).congr
      fun position fault => ?_
    -- A name behind the first one is new for what is left exactly if it is new for the whole.
    constructor
    · rintro ⟨inner, rfl, other, listed, repeated, same⟩
      refine ⟨other, listed, ?_, same⟩
      rcases repeated with before | ⟨earlier, less, found⟩
      · rcases List.mem_cons.mp before with rfl | before
        · exact .inr ⟨0, Nat.succ_pos inner, rfl⟩
        · exact .inl before
      · exact .inr ⟨earlier + 1, Nat.succ_lt_succ less, found⟩
    · rintro ⟨other, listed, repeated, same⟩
      cases position with
      | zero =>
        cases listed
        rcases repeated with before | ⟨earlier, less, -⟩
        · exact absurd before unseen
        · exact absurd less (Nat.not_lt_zero earlier)
      | succ inner =>
        refine ⟨inner, rfl, other, listed, ?_, same⟩
        rcases repeated with before | ⟨earlier, less, found⟩
        · exact .inl (List.mem_cons_of_mem name before)
        · cases earlier with
          | zero =>
            cases found
            exact .inl List.mem_cons_self
          | succ earlier => exact .inr ⟨earlier, Nat.lt_of_succ_lt_succ less, found⟩

/-- The check of a description finds its first defect. -/
theorem validate_findsFirst (config : RackConfig) :
    (Outcome.ofExcept config.validate).FindsFirst Place.rank config.Defect := by
  have instruments := validateInstruments_findsFirst 0 config.instruments
  have groups := (validateNames_findsFirst [] (config.groups.map GroupConfig.name)).lift Place.rank
    Place.group fun position later le => by
      simpa [Place.rank, Prod.Lex.toLex_le_toLex] using le.lt_or_eq
  refine (instruments.andThen groups (fun fault stopped => ?_) (fun passed => ?_) ?_).congr
    fun place fault => ?_
  · rw [validate, stopped]
  · rw [validate, passed]
  · rintro _ fault _ laterFault ⟨index, _, requirement, -, rfl, -⟩ ⟨position, rfl, -⟩
    simp [Place.rank, Prod.Lex.toLex_le_toLex]
  · constructor
    · rintro (⟨index, descriptor, requirement, described, rfl, defect⟩ |
        ⟨position, rfl, name, listed, repeated, rfl⟩)
      · rw [Nat.zero_add] at defect ⊢
        exact .instrument described defect
      · rw [List.getElem?_map] at listed
        obtain ⟨group, described, rfl⟩ := Option.map_eq_some_iff.mp listed
        obtain ⟨earlier, before, found⟩ := repeated.resolve_left List.not_mem_nil
        rw [List.getElem?_map] at found
        obtain ⟨other, known, same⟩ := Option.map_eq_some_iff.mp found
        exact .duplicateGroup described before known same
    · intro defect
      cases defect with
      | @instrument position descriptor requirement fault described defect =>
        refine .inl ⟨position, descriptor, requirement, described, ?_, ?_⟩
        · rw [Nat.zero_add]
        · rwa [Nat.zero_add]
      | @duplicateGroup position earlier group other described before known same =>
        refine .inr ⟨position, rfl, group.name, ?_, .inr ⟨earlier, before, ?_⟩, rfl⟩
        · rw [List.getElem?_map, described, Option.map_some]
        · rw [List.getElem?_map, known, Option.map_some, same]

/-- A description that is checked is consistent. -/
theorem consistent_of_validate (checked : config.validate = .ok ()) : config.Consistent := by
  have finds := config.validate_findsFirst
  rw [checked] at finds
  exact consistent_iff.mpr (finds.isDone_iff.mp rfl)

/-- **The check of a description is exact.** It accepts a description exactly if every model name
has a character that is not white space, every list of offsets or paths that is given is as long as
there are channels, and no two groups share a name. Otherwise it reports a defect, and of all defects
the one to which it comes first: an instrument before one behind it and before every group, at an
instrument the model name before the offsets and these before the paths, and of the groups whose name
an earlier one has the first. -/
theorem validate_exact (config : RackConfig) :
    (config.validate = .ok () ↔ config.Consistent) ∧
    ∀ fault, config.validate = .error fault ↔
      ∃ place, config.Defect place fault ∧
        ∀ other otherFault, config.Defect other otherFault → place.rank ≤ other.rank := by
  have finds := config.validate_findsFirst
  have failed (fault : ConfigFault) :
      Outcome.ofExcept config.validate = .failed fault ↔ config.validate = .error fault := by
    cases config.validate <;> simp [Outcome.ofExcept]
  have done : (Outcome.ofExcept config.validate).isDone ↔ config.validate = .ok () := by
    cases config.validate <;> simp [Outcome.ofExcept, Outcome.isDone]
  constructor
  · rw [← done, finds.isDone_iff, consistent_iff]
  · intro fault
    rw [← failed]
    exact finds.failed_iff Place.rank_injective (fun _ _ _ one another => one.unique another) fault

end RackConfig

end Attenuation
