import Mathlib.Data.List.Forall2

/-!
# Results of several steps

A step that can fail ends in a value or in a fault. Here is when several steps end in which: one
behind another, one whose value is packed, and one for every item of a list.
-/

namespace Attenuation

namespace Result

variable {ε α β : Type}

/-- Two steps answer exactly if both do. -/
theorem bind_eq_ok {first : Except ε α} {next : α → Except ε β} {result : β} :
    (first >>= next) = .ok result ↔ ∃ value, first = .ok value ∧ next value = .ok result := by
  cases first with
  | error fault =>
    constructor
    · intro same
      cases same
    · rintro ⟨value, same, -⟩
      cases same
  | ok value =>
    constructor
    · intro same
      exact ⟨value, rfl, same⟩
    · rintro ⟨value, same, last⟩
      cases same
      exact last

/-- Two steps have the fault of the first, or of the second behind an answer of the first. -/
theorem bind_eq_error {first : Except ε α} {next : α → Except ε β} {fault : ε}
    (failed : (first >>= next) = .error fault) :
    first = .error fault ∨ ∃ value, first = .ok value ∧ next value = .error fault := by
  cases first with
  | error fault =>
    cases failed
    exact .inl rfl
  | ok value => exact .inr ⟨value, rfl, failed⟩

/-- An answer that is packed was an answer. -/
theorem map_eq_ok {answer : Except ε α} {pack : α → β} {result : β} :
    answer.map pack = .ok result ↔ ∃ value, answer = .ok value ∧ pack value = result := by
  cases answer with
  | error fault =>
    constructor
    · intro same
      cases same
    · rintro ⟨value, same, -⟩
      cases same
  | ok value =>
    constructor
    · intro same
      exact ⟨value, rfl, Except.ok.inj same⟩
    · rintro ⟨value, same, packed⟩
      cases same
      exact congrArg Except.ok packed

/-- A fault is not packed. -/
theorem map_eq_error {answer : Except ε α} {pack : α → β} {fault : ε}
    (failed : answer.map pack = .error fault) : answer = .error fault := by
  cases answer with
  | error fault =>
    cases failed
    rfl
  | ok value => cases failed

/-- A list is mapped without a fault exactly if each of its items is. -/
theorem mapM_eq_ok {form : α → Except ε β} {values : List α} {results : List β} :
    values.mapM form = .ok results ↔
      List.Forall₂ (fun value result => form value = .ok result) values results := by
  induction values generalizing results with
  | nil =>
    constructor
    · intro same
      cases same
      exact .nil
    · intro related
      cases related
      rfl
  | cons value values hypothesis =>
    rw [List.mapM_cons]
    constructor
    · intro mapped
      obtain ⟨result, first, mapped⟩ := bind_eq_ok.mp mapped
      obtain ⟨results, others, same⟩ := bind_eq_ok.mp mapped
      cases same
      exact .cons first (hypothesis.mp others)
    · intro related
      cases related with
      | cons first others =>
        rw [first, hypothesis.mpr others]
        rfl

/-- The fault of a list that is mapped is the fault of one of its items. -/
theorem mapM_eq_error {form : α → Except ε β} {values : List α} {fault : ε}
    (failed : values.mapM form = .error fault) : ∃ value ∈ values, form value = .error fault := by
  induction values with
  | nil => cases failed
  | cons value values hypothesis =>
    rw [List.mapM_cons] at failed
    obtain first | ⟨result, -, failed⟩ := bind_eq_error failed
    · exact ⟨value, List.mem_cons_self, first⟩
    · obtain others | ⟨results, -, same⟩ := bind_eq_error failed
      · obtain ⟨value, member, refused⟩ := hypothesis others
        exact ⟨value, List.mem_cons_of_mem _ member, refused⟩
      · cases same

end Result

end Attenuation
