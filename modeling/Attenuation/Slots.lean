/-!
# Slots

A numbered store with a value in every slot: a slot that was never filled holds the default.
`get_put` is its whole law.
-/

namespace Attenuation

/-- A value in every numbered slot, of which finitely many were filled. -/
structure Slots (α : Type) where
  /-- The filled slots, each number once. -/
  entries : List (Nat × α)

namespace Slots

variable {α : Type}

/-- Slots of which none was filled. -/
def empty : Slots α := ⟨[]⟩

instance : Inhabited (Slots α) := ⟨empty⟩

/-- The value that a list of entries holds for a slot. -/
def findEntry (slot : Nat) : List (Nat × α) → Option α
  | [] => none
  | (other, kept) :: rest => if other = slot then some kept else findEntry slot rest

/-- The value in a slot. -/
def get [Inhabited α] (slots : Slots α) (slot : Nat) : α :=
  (findEntry slot slots.entries).getD default

/-- The entries after filling a slot. -/
def putEntry (slot : Nat) (value : α) : List (Nat × α) → List (Nat × α)
  | [] => [(slot, value)]
  | (other, kept) :: rest =>
    if other = slot then (slot, value) :: rest else (other, kept) :: putEntry slot value rest

/-- Fill a slot. -/
def put (slots : Slots α) (slot : Nat) (value : α) : Slots α :=
  ⟨putEntry slot value slots.entries⟩

/-- Looking up a slot after filling one. -/
theorem findEntry_putEntry (slot other : Nat) (value : α) (entries : List (Nat × α)) :
    findEntry other (putEntry slot value entries) =
      if other = slot then some value else findEntry other entries := by
  induction entries with
  | nil => by_cases same : other = slot <;> simp_all [putEntry, findEntry, eq_comm]
  | cons entry rest ih =>
    obtain ⟨key, kept⟩ := entry
    by_cases here : key = slot <;> by_cases same : other = slot <;>
      by_cases hit : key = other <;> simp_all [putEntry, findEntry]

/-- A filled slot holds what was put there, and every other slot what it held. -/
@[simp] theorem get_put [Inhabited α] (slots : Slots α) (slot other : Nat) (value : α) :
    (slots.put slot value).get other = if other = slot then value else slots.get other := by
  unfold get put
  rw [findEntry_putEntry]
  split <;> rfl

end Slots

end Attenuation
