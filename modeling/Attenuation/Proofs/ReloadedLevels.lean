import Attenuation.Proofs.SavedConfig
import Attenuation.Proofs.ScaledSignificand

/-!
# Reloaded levels

What the levels of a description are when it is saved and loaded again. The text of every finite
level is read, as a level that is less than five units in the last place away. A level whose text
has few digits and few places is reloaded as the very same double, and so is each zero with its
sign. Other levels may come back as a neighbour: the reader rounds the digits, the power of ten and
what it makes of them, each for itself.
-/

namespace Attenuation

open Decimal (Binary Numeral Parts isNegative withSign)
open Float.Model (UnpackedFloat)
open Float.Model.UnpackedFloat (Sign)
open Json (rereadDouble scaleSignificand?)

namespace Level

variable {level other : Level} {negative : Bool} {x : Binary}

/-- Levels that are taken apart into the same parts are the same. -/
theorem eq_of_unpack (same : level.toModel.unpack = other.toModel.unpack) : level = other := by
  obtain ⟨⟨bits, valid⟩⟩ := level
  obtain ⟨⟨otherBits, otherValid⟩⟩ := other
  have alike : bits.toBitVec = otherBits.toBitVec :=
    (UnpackedFloat.unpack_inj_of_valid valid otherValid).mp same
  cases UInt64.toBitVec_inj.mp alike
  rfl

/-- Levels of one value other than zero are the same. -/
theorem eq_of_value (isNumber : level.isNaN = false) (otherNumber : other.isNaN = false)
    (same : level.value = other.value) (nonzero : level.value ≠ 0) : level = other := by
  obtain alike | ⟨sign, otherSign, zero, -⟩ := unpack_eq_of_value isNumber otherNumber same
  · exact eq_of_unpack alike
  · refine absurd ?_ nonzero
    unfold value
    rw [zero]
    rfl

/-- A zero has the sign of its bits. -/
theorem sign_of_unpack_zero {sign : Sign} (zero : level.toModel.unpack = .zero sign) :
    sign = signOf (isNegative level) := by
  unfold Float.Model.unpack UnpackedFloat.unpack at zero
  dsimp only at zero
  rw [signOf_isNegative] at zero
  split at zero
  · split at zero <;> cases zero
  · split at zero
    · split at zero
      · cases zero
        rfl
      · cases zero
    · cases zero

/-- A double without a magnitude is one of the two zeros. -/
theorem eq_zero_of_parts (parts : Parts.ofFloat level = .finite negative x)
    (empty : x.mantissa = 0) : level = withSign negative 0.0 := by
  obtain ⟨finite, value⟩ := value_of_parts parts
  obtain ⟨magnitude, own, -⟩ := value_eq_parts finite
  cases parts.symm.trans own
  have zero : level.value = Level.value 0.0 := by
    rw [value, Binary.value, empty, Nat.cast_zero, zero_mul]
    cases isNegative level <;> rfl
  obtain ⟨sign, unpacked⟩ : ∃ sign, level.toModel.unpack = .zero sign := by
    obtain alike | ⟨sign, -, unpacked, -⟩ :=
      unpack_eq_of_value (isNaN_of_isFinite finite) rfl zero
    · exact ⟨.positive, alike⟩
    · exact ⟨sign, unpacked⟩
  apply eq_of_unpack
  rw [unpacked, sign_of_unpack_zero unpacked]
  cases isNegative level <;> rfl

/-- The unit in the last place is that of the magnitude. -/
theorem ulp_of_parts (parts : Parts.ofFloat level = .finite negative x) (double : x.OfDouble) :
    level.ulp = 2 ^ x.exponent := by
  obtain ⟨finite, value⟩ := value_of_parts parts
  have positive : 0 < x.value := magnitude_pos double.positive _
  change level.toModel.unpack.isFinite = true at finite
  unfold Level.value at value
  unfold ulp
  cases unpacked : level.toModel.unpack with
  | notANumber | infinity => rw [unpacked] at finite; cases finite
  | zero sign =>
    rw [unpacked] at value
    cases negative <;> simp [exact, signed, signOf] at value <;> linarith
  | finite sign mantissa exponent some =>
    have sits := (sits_of_unpack unpacked).1
    have magnitude := magnitude_pos some exponent
    have same : (mantissa : ℚ) * 2 ^ exponent = x.mantissa * 2 ^ x.exponent := by
      change _ = x.value
      rw [unpacked] at value
      cases sign <;> cases negative <;> simp only [exact, signed, signOf] at value <;> linarith
    -- Both are normalized, so one value has one exponent.
    have exponents : exponent = x.exponent := by
      have order := sits.compare_eq double.toSits
      rw [compare_eq_iff_eq.mpr same, Ordering.then_eq_eq, compare_eq_iff_eq] at order
      exact order.1
    rw [exponents]

/-- The decimal that is collected from the text of a finite level. -/
def written (level : Level) : Numeral :=
  match Parts.ofFloat level with
  | .finite _ x => x.written
  | _ => ⟨0, 0⟩

/-- A level that is written with at most twenty-two places and digits of at most fifty-three
bits. -/
def Plain (level : Level) : Prop :=
  level.written.digits < 2 ^ 53 ∧ level.written.exponent.natAbs ≤ 22

instance (level : Level) : Decidable level.Plain := inferInstanceAs (Decidable (_ ∧ _))

/-- What a finite level may be reloaded as. -/
structure ReloadsAs (before after : Level) : Prop where
  /-- It is finite. -/
  finite : after.isFinite
  /-- It is less than five units in the last place away. -/
  close : |after.value - before.value| < 5 * before.ulp
  /-- It is the very same double if the level is written plainly. -/
  same : before.Plain → after = before

/-- What a level is reloaded as if it is reloaded as itself. -/
theorem ReloadsAs.refl (finite : level.isFinite) : level.ReloadsAs level where
  finite := finite
  close := by
    obtain ⟨unit, ulp, -⟩ := ulp_spec finite
    rw [sub_self, abs_zero, ulp]
    linarith [twoPow_pos unit]
  same := fun _ => rfl

/-- Each zero is read from its own text. -/
theorem rereadDouble_zero (negative : Bool) :
    rereadDouble (withSign negative 0.0) = .ok (withSign negative 0.0) := by
  cases negative <;> rfl

/-- A finite level is finite with a sign. -/
theorem isFinite_withSign (finite : level.isFinite) : (withSign negative level).isFinite := by
  obtain ⟨value, number⟩ := value_withSign negative level
  refine isFinite_of_value (number.trans (isNaN_of_isFinite finite)) ?_
  rw [value]
  have small := abs_value_lt finite
  cases negative with
  | true => rwa [signOf, signed, abs_neg]
  | false => exact small

/-- What is scaled from the plain text of a level other than zero is the level again. -/
theorem withSign_scaled_of_plain (parts : Parts.ofFloat level = .finite negative x)
    (double : x.OfDouble) (plain : level.Plain)
    (scaled : scaleSignificand? x.written.digits x.written.exponent = some other) :
    withSign negative other = level := by
  unfold Plain written at plain
  rw [parts] at plain
  obtain ⟨near, some, -⟩ := double.written_spec
  obtain ⟨read, exactly, readNumber, readValue⟩ :=
    scaleSignificand_exact double near some plain.1 plain.2
  cases scaled.symm.trans exactly
  obtain ⟨finite, value⟩ := value_of_parts parts
  obtain ⟨signedValue, signedNumber⟩ := value_withSign negative other
  have same : Level.value (withSign negative other) = level.value := by
    rw [signedValue, readValue, value]
  -- The values agree, and only for zeros would that leave two levels.
  have nonzero : level.value ≠ 0 := by
    have positive : 0 < x.value := magnitude_pos double.positive _
    rw [value]
    cases negative with
    | true => exact neg_ne_zero.mpr positive.ne'
    | false => exact positive.ne'
  exact eq_of_value (signedNumber.trans readNumber) (isNaN_of_isFinite finite) same
    (same.trans_ne nonzero)

/-- **The text of a finite level is never refused.** -/
theorem exists_reloadsAs (finite : level.isFinite) :
    ∃ after, level.ReadBackAs after ∧ level.ReloadsAs after := by
  obtain ⟨x, parts, -⟩ := value_eq_parts finite
  generalize isNegative level = negative at parts
  by_cases empty : x.mantissa = 0
  · have zero := eq_zero_of_parts parts empty
    refine ⟨level, ?_, .refl finite⟩
    rw [zero]
    exact rereadDouble_zero negative
  · have double := Binary.ofDouble_of_parts parts empty
    obtain ⟨read, scaled, readFinite, close⟩ := scaleSignificand_close double
    have back : level.ReadBackAs (withSign negative read) := by
      unfold ReadBackAs
      rw [Json.rereadDouble_finite negative parts double.legible, scaled]
    have near : |Level.value (withSign negative read) - level.value| < 5 * level.ulp := by
      rw [(value_withSign negative read).1, (value_of_parts parts).2, abs_signed_sub,
        ulp_of_parts parts double]
      exact close
    exact ⟨_, back, isFinite_withSign readFinite, near, fun plain =>
      withSign_scaled_of_plain parts double plain scaled⟩

/-- What is read from the text of a finite level is what it may be reloaded as. -/
theorem ReadBackAs.reloadsAs (back : level.ReadBackAs other) (finite : level.isFinite) :
    level.ReloadsAs other := by
  obtain ⟨after, read, reloads⟩ := exists_reloadsAs finite
  cases read.symm.trans back
  exact reloads

end Level

/-- Related lists are related by what the relation says of the items of the first one. -/
theorem forall₂_imp_of_mem {α β : Type} {first second : α → β → Prop} {values : List α}
    {results : List β} (related : List.Forall₂ first values results)
    (weaker : ∀ value ∈ values, ∀ result, first value result → second value result) :
    List.Forall₂ second values results :=
  ((List.forall₂_and_left _ _).mpr ⟨weaker, related⟩).imp fun _ result both => both.1 result both.2

/-- Related lists are the same if the relation keeps the items of the first one. -/
theorem eq_of_forall₂ {α : Type} {relation : α → α → Prop} {values results : List α}
    (related : List.Forall₂ relation values results)
    (kept : ∀ value ∈ values, ∀ result, relation value result → result = value) :
    results = values := by
  have alike : List.Forall₂ (· = ·) values results :=
    forall₂_imp_of_mem related fun value listed result own => (kept value listed result own).symm
  rw [List.forall₂_eq_eq_eq] at alike
  exact alike.symm

/-- What an instrument descriptor is reloaded as. -/
structure InstrumentConfig.ReloadsAs (before after : InstrumentConfig) : Prop where
  /-- Every field that holds no levels is kept. -/
  kept : after = { before with offsets := after.offsets, maximum := after.maximum }
  /-- Each offset is reloaded. -/
  offsets : Option.Rel (List.Forall₂ Level.ReloadsAs) before.offsets after.offsets
  /-- The maximum is reloaded. -/
  maximum : Option.Rel Level.ReloadsAs before.maximum after.maximum

/-- What the description of a rack is reloaded as. -/
structure RackConfig.ReloadsAs (before after : RackConfig) : Prop where
  /-- Each instrument is reloaded. -/
  instruments : List.Forall₂ InstrumentConfig.ReloadsAs before.instruments after.instruments
  /-- The groups are kept. -/
  groups : after.groups = before.groups

/-- The levels of the description of a rack. -/
def RackConfig.levels (config : RackConfig) : List Level :=
  config.instruments.flatMap InstrumentConfig.levels

namespace InstrumentConfig

variable {config after : InstrumentConfig}

/-- A descriptor of finite levels is not spoiled. -/
theorem not_spoiledBy_of_finite (finite : ∀ level ∈ config.levels, level.isFinite)
    (fault : Json.Fault) : ¬ config.SpoiledBy fault := by
  intro spoiled
  cases spoiled with
  | offset listed notFinite =>
    exact Bool.false_ne_true (notFinite.symm.trans (finite _ (List.mem_append_left _ listed)))
  | level listed isFinite refused =>
    obtain ⟨after, read, -⟩ := Level.exists_reloadsAs isFinite
    cases refused.symm.trans read

/-- What a descriptor of finite levels comes back as is what it may be reloaded as. -/
theorem ReadBackAs.reloadsAs (back : config.ReadBackAs after)
    (finite : ∀ level ∈ config.levels, level.isFinite) : config.ReloadsAs after where
  kept := back.kept
  offsets := by
    have related := back.offsets
    have offset (level : Level) (listed : level ∈ config.offsets.getD []) : level.isFinite :=
      finite level (List.mem_append_left _ listed)
    generalize after.offsets = read at related ⊢
    cases known : config.offsets with
    | none =>
      rw [known] at related
      cases related
      exact .none
    | some offsets =>
      rw [known] at related offset
      cases related with
      | some related =>
        exact .some (forall₂_imp_of_mem related fun level listed _ back =>
          back.reloadsAs (offset level listed))
  maximum := by
    have related := back.maximum
    generalize after.maximum = read at related ⊢
    cases known : config.maximum with
    | none =>
      rw [known] at related
      cases related
      exact .none
    | some maximum =>
      have isFinite := finite maximum (List.mem_append_right _ (by simp [known]))
      rw [known, Option.filter_some, if_pos isFinite] at related
      cases related with
      | some read => exact .some (read.reloadsAs isFinite)

/-- A descriptor whose levels are written plainly is reloaded as it was. -/
theorem ReloadsAs.eq_of_plain (reloads : config.ReloadsAs after)
    (plain : ∀ level ∈ config.levels, level.Plain) : after = config := by
  have offsets : after.offsets = config.offsets := by
    have related := reloads.offsets
    have offset (level : Level) (listed : level ∈ config.offsets.getD []) : level.Plain :=
      plain level (List.mem_append_left _ listed)
    generalize after.offsets = read at related ⊢
    cases known : config.offsets with
    | none =>
      rw [known] at related
      cases related
      rfl
    | some offsets =>
      rw [known] at related offset
      cases related with
      | some related =>
        rw [eq_of_forall₂ related fun level listed _ reloads => reloads.same (offset level listed)]
  have maximum : after.maximum = config.maximum := by
    have related := reloads.maximum
    generalize after.maximum = read at related ⊢
    cases known : config.maximum with
    | none =>
      rw [known] at related
      cases related
      rfl
    | some maximum =>
      rw [known] at related
      cases related with
      | some related =>
        rw [related.same (plain maximum (List.mem_append_right _ (by simp [known])))]
  rw [reloads.kept, offsets, maximum]

end InstrumentConfig

namespace RackConfig

variable {config after : RackConfig}

/-- The levels of an instrument are levels of the description. -/
theorem mem_levels {instrument : InstrumentConfig} (member : instrument ∈ config.instruments)
    {level : Level} (listed : level ∈ instrument.levels) : level ∈ config.levels :=
  List.mem_flatMap_of_mem member listed

/-- A description whose levels are written plainly is reloaded as it was. -/
theorem ReloadsAs.eq_of_plain (reloads : config.ReloadsAs after)
    (plain : ∀ level ∈ config.levels, level.Plain) : after = config := by
  have instruments := eq_of_forall₂ reloads.instruments fun _ member _ own =>
    own.eq_of_plain fun level listed => plain level (mem_levels member listed)
  have groups := reloads.groups
  cases config
  cases after
  cases instruments
  cases groups
  rfl

/-- **A saved description of finite levels is loaded again.** Its file is never refused. Everything
but the levels is kept, and each level is reloaded as a finite one less than five units in the last
place away. If every level is written plainly, the very same description is loaded. -/
theorem load_save_reloads (config : RackConfig) (finite : ∀ level ∈ config.levels, level.isFinite) :
    ∃ after, CommandLine.load (.ok config.save.toUTF8) = .ok after ∧ config.ReloadsAs after ∧
      ((∀ level ∈ config.levels, level.Plain) → after = config) := by
  have own (instrument : InstrumentConfig) (member : instrument ∈ config.instruments)
      (level : Level) (listed : level ∈ instrument.levels) : level.isFinite :=
    finite level (mem_levels member listed)
  rw [load_save, ofJsonText_save]
  cases read : config.reread with
  | error fault =>
    obtain ⟨instrument, member, spoiled⟩ := spoiledBy_of_reread read
    exact absurd spoiled (instrument.not_spoiledBy_of_finite (own instrument member) fault)
  | ok after =>
    have back := reread_eq_ok.mp read
    have instruments := forall₂_imp_of_mem back.instruments fun instrument member _ back =>
      back.reloadsAs (own instrument member)
    have reloads : config.ReloadsAs after := ⟨instruments, back.groups⟩
    exact ⟨after, rfl, reloads, reloads.eq_of_plain⟩

/-- A rack of one simulated instrument with given offsets. -/
def calibrated (offsets : List Level) : RackConfig where
  instruments := [
    { model := "SIM-1", transport := .simulated, address := "", port := 23
      channelCount := .ofNat offsets.length, offsets := some offsets, paths := none
      maximum := some 60.0 }]
  groups := []

/-- Offsets of a tenth of a decibel and of the negative zero are loaded as they were saved. -/
theorem load_save_reloads_plain :
    (∀ level ∈ (calibrated [0.1, -0.0]).levels, level.isFinite) ∧
      (∀ level ∈ (calibrated [0.1, -0.0]).levels, level.Plain) ∧
      CommandLine.load (.ok (calibrated [0.1, -0.0]).save.toUTF8) =
        .ok (calibrated [0.1, -0.0]) := by
  have finite : ∀ level ∈ (calibrated [0.1, -0.0]).levels, level.isFinite := by decide +kernel
  have plain : ∀ level ∈ (calibrated [0.1, -0.0]).levels, level.Plain := by decide +kernel
  obtain ⟨after, loaded, -, same⟩ := load_save_reloads _ finite
  cases same plain
  exact ⟨finite, plain, loaded⟩

/-- The level that is written as `1e-23`. -/
def faint : Level := Float.ofBits 0x3B282DB34012B251

/-- The next level above it. -/
def faintNeighbour : Level := Float.ofBits 0x3B282DB34012B252

/-- That level is loaded as its neighbour: the reader divides one by `10 ^ 23`, which is no double,
and rounds twice. -/
theorem load_save_astray :
    (∀ level ∈ (calibrated [faint]).levels, level.isFinite) ∧
      CommandLine.load (.ok (calibrated [faint]).save.toUTF8) =
        .ok (calibrated [faintNeighbour]) ∧
      faintNeighbour ≠ faint := by
  refine ⟨by decide +kernel, ?_, by decide +kernel⟩
  rw [load_save, ofJsonText_save]
  rfl

end RackConfig

end Attenuation
