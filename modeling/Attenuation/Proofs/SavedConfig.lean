import Attenuation.Proofs.ConfigText
import Attenuation.Proofs.Result
import Mathlib.Data.List.Forall2
import Mathlib.Data.Option.Basic

/-!
# Saved descriptions

What the description of a rack comes back as when it is saved and loaded again. Everything but its
levels is kept. `RackConfig.ReadBackAs` relates a description to what comes back, and
`RackConfig.SpoiledBy` says why nothing does: an offset that is not finite, or a finite level whose
text is refused as a number. Every description is either read back or spoiled.
-/

namespace Attenuation

open Json (rereadDouble)

variable {α β : Type}

/-- A level comes back as the level that its text is read as. -/
def Level.ReadBackAs (before after : Level) : Prop := rereadDouble before = .ok after

/-- A calibrated level comes back as it was. -/
example : Level.ReadBackAs 95.25 95.25 := rfl

/-- A level may come back as its neighbour. -/
example : Level.ReadBackAs 1e-23 1.0000000000000001e-23 ∧
    (1.0000000000000001e-23 : Level) ≠ 1e-23 := by
  constructor
  · rfl
  · decide +kernel

/-- An optional level comes back as none if it is not a finite one, and else exactly if its text is
read. -/
theorem Json.rereadOptional_eq_ok {before after : Option Level} :
    rereadOptional before = .ok after ↔
      Option.Rel Level.ReadBackAs (before.filter Float.isFinite) after := by
  have nothing : (Except.ok none : Except Json.Fault (Option Level)) = .ok after ↔
      Option.Rel Level.ReadBackAs none after := by
    constructor
    · intro same
      cases same
      exact .none
    · intro related
      cases related
      rfl
  unfold rereadOptional
  cases before with
  | none => exact nothing
  | some level =>
    dsimp only
    by_cases finite : level.isFinite
    · rw [if_pos finite, Option.filter_some, if_pos finite]
      constructor
      · intro packed
        obtain ⟨read, same, rfl⟩ := Result.map_eq_ok.mp packed
        exact .some same
      · intro related
        cases related with
        | some read => exact Result.map_eq_ok.mpr ⟨_, read, rfl⟩
    · rw [if_neg finite, Option.filter_some, if_neg finite]
      exact nothing

/-- What an instrument descriptor comes back as. -/
structure InstrumentConfig.ReadBackAs (before after : InstrumentConfig) : Prop where
  /-- Every field that holds no levels is kept. -/
  kept : after = { before with offsets := after.offsets, maximum := after.maximum }
  /-- As many offsets come back, each as its text is read. -/
  offsets : Option.Rel (List.Forall₂ Level.ReadBackAs) before.offsets after.offsets
  /-- A finite maximum comes back as its text is read, and any other one does not. -/
  maximum : Option.Rel Level.ReadBackAs (before.maximum.filter Float.isFinite) after.maximum

/-- What the description of a rack comes back as. -/
structure RackConfig.ReadBackAs (before after : RackConfig) : Prop where
  /-- As many instruments come back. -/
  instruments : List.Forall₂ InstrumentConfig.ReadBackAs before.instruments after.instruments
  /-- The groups are kept. -/
  groups : after.groups = before.groups

/-- The levels of an instrument descriptor. -/
def InstrumentConfig.levels (config : InstrumentConfig) : List Level :=
  config.offsets.getD [] ++ config.maximum.toList

/-- Why an instrument descriptor does not come back. -/
inductive InstrumentConfig.SpoiledBy (config : InstrumentConfig) : Json.Fault → Prop where
  /-- An offset is not finite and written as null, where a number is expected. -/
  | offset {offset : Level} (listed : offset ∈ config.offsets.getD [])
    (notFinite : offset.isFinite = false) :
    config.SpoiledBy (.misshapen (.wrongKind .null "f64"))
  /-- The text of a finite level is refused as a number. -/
  | level {level : Level} {fault : Json.Fault} (listed : level ∈ config.levels)
    (finite : level.isFinite) (refused : rereadDouble level = .error fault) :
    config.SpoiledBy fault

/-- The description of a rack does not come back because of one of its instruments. -/
def RackConfig.SpoiledBy (config : RackConfig) (fault : Json.Fault) : Prop :=
  ∃ instrument ∈ config.instruments, instrument.SpoiledBy fault

namespace InstrumentConfig

variable {config after : InstrumentConfig}

/-- The offsets come back exactly if each of them does. -/
theorem rereadOffsets_eq_ok {offsets : Option (List Level)} :
    config.rereadOffsets = .ok offsets ↔
      Option.Rel (List.Forall₂ Level.ReadBackAs) config.offsets offsets := by
  unfold rereadOffsets
  cases config.offsets with
  | none =>
    constructor
    · intro same
      cases same
      exact .none
    · intro related
      cases related
      rfl
  | some before =>
    constructor
    · intro read
      obtain ⟨levels, mapped, rfl⟩ := Result.map_eq_ok.mp read
      exact .some (Result.mapM_eq_ok.mp mapped)
    · intro related
      cases related with
      | some related => exact Result.map_eq_ok.mpr ⟨_, Result.mapM_eq_ok.mpr related, rfl⟩

/-- The maximum comes back as none if there is no finite one, and else exactly if its text is
read. -/
theorem rereadMaximum_eq_ok {maximum : Option Level} :
    config.rereadMaximum = .ok maximum ↔
      Option.Rel Level.ReadBackAs (config.maximum.filter Float.isFinite) maximum :=
  Json.rereadOptional_eq_ok

/-- A descriptor is read back as what comes back, and as nothing else. -/
theorem reread_eq_ok : config.reread = .ok after ↔ config.ReadBackAs after := by
  unfold reread
  constructor
  · intro read
    obtain ⟨offsets, readOffsets, read⟩ := Result.bind_eq_ok.mp read
    obtain ⟨maximum, readMaximum, same⟩ := Result.bind_eq_ok.mp read
    cases same
    exact ⟨rfl, rereadOffsets_eq_ok.mp readOffsets, rereadMaximum_eq_ok.mp readMaximum⟩
  · intro back
    rw [rereadOffsets_eq_ok.mpr back.offsets, rereadMaximum_eq_ok.mpr back.maximum]
    exact congrArg Except.ok back.kept.symm

/-- A fault in the offsets spoils the descriptor. -/
theorem spoiledBy_of_rereadOffsets {fault : Json.Fault}
    (failed : config.rereadOffsets = .error fault) : config.SpoiledBy fault := by
  unfold rereadOffsets at failed
  cases known : config.offsets with
  | none =>
    rw [known] at failed
    cases failed
  | some offsets =>
    rw [known] at failed
    obtain ⟨offset, member, refused⟩ := Result.mapM_eq_error (Result.map_eq_error failed)
    have listed : offset ∈ config.offsets.getD [] := by rwa [known]
    cases finite : offset.isFinite with
    | true => exact .level (List.mem_append_left _ listed) finite refused
    | false =>
      rw [Json.rereadDouble_notFinite finite] at refused
      cases refused
      exact .offset listed finite

/-- A fault in the maximum spoils the descriptor. -/
theorem spoiledBy_of_rereadMaximum {fault : Json.Fault}
    (failed : config.rereadMaximum = .error fault) : config.SpoiledBy fault := by
  unfold rereadMaximum at failed
  cases known : config.maximum with
  | none =>
    rw [known] at failed
    cases failed
  | some maximum =>
    rw [known] at failed
    dsimp only at failed
    have listed : maximum ∈ config.levels := List.mem_append_right _ (by simp [known])
    by_cases finite : maximum.isFinite
    · rw [if_pos finite] at failed
      exact .level listed finite (Result.map_eq_error failed)
    · rw [if_neg finite] at failed
      cases failed

/-- A descriptor that is not read back is spoiled by the fault. -/
theorem spoiledBy_of_reread {fault : Json.Fault} (failed : config.reread = .error fault) :
    config.SpoiledBy fault := by
  obtain offsets | ⟨offsets, -, failed⟩ := Result.bind_eq_error failed
  · exact spoiledBy_of_rereadOffsets offsets
  · obtain maximum | ⟨maximum, -, same⟩ := Result.bind_eq_error failed
    · exact spoiledBy_of_rereadMaximum maximum
    · cases same

/-- The offsets of a descriptor that comes back are read. -/
theorem ReadBackAs.offset (back : config.ReadBackAs after) {offset : Level}
    (listed : offset ∈ config.offsets.getD []) : ∃ level, offset.ReadBackAs level := by
  have related := back.offsets
  generalize after.offsets = read at related
  cases known : config.offsets with
  | none =>
    rw [known] at listed
    cases listed
  | some offsets =>
    rw [known] at listed related
    cases related with
    | some related =>
      obtain ⟨level, -, back⟩ := Json.exists_mem_of_forall₂ related listed
      exact ⟨level, back⟩

/-- The finite levels of a descriptor that comes back are read. -/
theorem ReadBackAs.level (back : config.ReadBackAs after) {level : Level}
    (listed : level ∈ config.levels) (finite : level.isFinite) :
    ∃ read, level.ReadBackAs read := by
  obtain offset | maximum := List.mem_append.mp listed
  · exact back.offset offset
  · have known : config.maximum = some level := by simpa using maximum
    have related := back.maximum
    generalize after.maximum = read at related
    rw [known, Option.filter_some, if_pos finite] at related
    cases related with
    | some read => exact ⟨_, read⟩

/-- A descriptor that comes back is not spoiled. -/
theorem ReadBackAs.not_spoiledBy (back : config.ReadBackAs after) (fault : Json.Fault) :
    ¬ config.SpoiledBy fault := by
  intro spoiled
  cases spoiled with
  | offset listed notFinite =>
    obtain ⟨level, read⟩ := back.offset listed
    cases (Json.rereadDouble_notFinite notFinite).symm.trans read
  | level listed finite refused =>
    obtain ⟨level, read⟩ := back.level listed finite
    cases refused.symm.trans read

/-- A descriptor comes back as it was if its levels are finite and come back as they were. -/
theorem readBackAs_self
    (same : ∀ level ∈ config.levels, level.isFinite ∧ level.ReadBackAs level) :
    config.ReadBackAs config where
  kept := rfl
  offsets := by
    have offset (level : Level) (listed : level ∈ config.offsets.getD []) :=
      (same level (List.mem_append_left _ listed)).2
    cases known : config.offsets with
    | none => exact .none
    | some offsets =>
      rw [known] at offset
      exact .some (List.forall₂_same.mpr offset)
  maximum := by
    cases known : config.maximum with
    | none => exact .none
    | some maximum =>
      obtain ⟨finite, read⟩ := same maximum (List.mem_append_right _ (by simp [known]))
      rw [Option.filter_some, if_pos finite]
      exact .some read

end InstrumentConfig

namespace RackConfig

variable {config after : RackConfig}

/-- A description is read back as what comes back, and as nothing else. -/
theorem reread_eq_ok : config.reread = .ok after ↔ config.ReadBackAs after := by
  unfold reread
  constructor
  · intro read
    obtain ⟨instruments, mapped, same⟩ := Result.bind_eq_ok.mp read
    cases same
    exact ⟨(Result.mapM_eq_ok.mp mapped).imp fun _ _ => InstrumentConfig.reread_eq_ok.mp, rfl⟩
  · intro back
    have mapped := Result.mapM_eq_ok.mpr
      (back.instruments.imp fun _ _ => InstrumentConfig.reread_eq_ok.mpr)
    have groups := back.groups
    rw [mapped]
    cases after
    cases groups
    rfl

/-- A description that is not read back is spoiled by the fault. -/
theorem spoiledBy_of_reread {fault : Json.Fault} (failed : config.reread = .error fault) :
    config.SpoiledBy fault := by
  obtain failed | ⟨instruments, -, same⟩ := Result.bind_eq_error failed
  · obtain ⟨instrument, member, failed⟩ := Result.mapM_eq_error failed
    exact ⟨instrument, member, InstrumentConfig.spoiledBy_of_reread failed⟩
  · cases same

/-- A description that comes back is not spoiled. -/
theorem ReadBackAs.not_spoiledBy (back : config.ReadBackAs after) (fault : Json.Fault) :
    ¬ config.SpoiledBy fault := by
  rintro ⟨instrument, member, spoiled⟩
  obtain ⟨read, -, back⟩ := Json.exists_mem_of_forall₂ back.instruments member
  exact back.not_spoiledBy fault spoiled

/-- A saved description is loaded from its file as from its text. That fails exactly if an offset
is not finite or the text of a finite level is refused, with that fault. Otherwise everything but
the levels is kept, and each level is what its text is read as. A description whose levels are
finite and read back as they were is loaded as it was. -/
theorem saved_reads_back (config : RackConfig) :
    CommandLine.load (.ok config.save.toUTF8) = (ofJsonText config.save).mapError .json ∧
    ((∃ fault, ofJsonText config.save = .error fault) ↔ ∃ fault, config.SpoiledBy fault) ∧
    (∀ fault, ofJsonText config.save = .error fault → config.SpoiledBy fault) ∧
    ((¬ ∃ fault, config.SpoiledBy fault) →
      ∃ after, ofJsonText config.save = .ok after ∧ config.ReadBackAs after) ∧
    ((∀ instrument ∈ config.instruments, ∀ level ∈ instrument.levels,
      level.isFinite ∧ level.ReadBackAs level) → ofJsonText config.save = .ok config) := by
  rw [load_save, ofJsonText_save]
  refine ⟨rfl, ⟨?_, ?_⟩, fun fault => spoiledBy_of_reread, ?_, ?_⟩
  · rintro ⟨fault, failed⟩
    exact ⟨fault, spoiledBy_of_reread failed⟩
  · rintro ⟨fault, spoiled⟩
    cases read : config.reread with
    | error fault => exact ⟨fault, rfl⟩
    | ok after => exact absurd spoiled ((reread_eq_ok.mp read).not_spoiledBy fault)
  · intro clean
    cases read : config.reread with
    | error fault => exact absurd ⟨fault, spoiledBy_of_reread read⟩ clean
    | ok after => exact ⟨after, rfl, reread_eq_ok.mp read⟩
  · intro same
    have back : List.Forall₂ InstrumentConfig.ReadBackAs config.instruments config.instruments :=
      List.forall₂_same.mpr fun instrument member =>
        InstrumentConfig.readBackAs_self (same instrument member)
    exact reread_eq_ok.mpr ⟨back, rfl⟩

end RackConfig

end Attenuation
