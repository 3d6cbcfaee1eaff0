import Attenuation.Decimal.Literal

/-!
# Channel selections

Which channels of one instrument are meant, in the order in which they are taken.
-/

namespace Attenuation

/-- A choice of channels. -/
inductive Selection where
  /-- One channel. -/
  | single (index : Nat)
  /-- The listed channels, in the order of the list. -/
  | list (indices : List Nat)
  /-- The channels from the first on, below the second. -/
  | range (first stop : Nat)
deriving Repr, DecidableEq

namespace Selection

/-- The channels from `first` to `last`. The end of the half-open range is one past `last`, but no
index is past the greatest one. -/
def inclusive (first last : Nat) : Selection :=
  .range first (min (last + 1) Decimal.greatestIndex)

/-- The channels in the order in which they are taken. -/
def indices : Selection → List Nat
  | .single index => [index]
  | .list indices => indices
  | .range first stop => List.range' first (stop - first)

/-- A range takes the channels from its first on and below its stop. -/
theorem mem_indices_range (first stop index : Nat) :
    index ∈ (Selection.range first stop).indices ↔ first ≤ index ∧ index < stop := by
  simp only [indices, List.mem_range'_1]
  omega

end Selection

end Attenuation
