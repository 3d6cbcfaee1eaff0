import Attenuation.Proofs.Actor
import Attenuation.Proofs.CommandConduct

/-!
# What callers hold

Attenuators, groups, racks and actors, and the places where an attenuator or a group is found among
them. A property of attenuators holds of everything that is held (`Holdings.All`) when it holds
wherever an attenuator can be: on its own, in a group, in a rack, or in the group of an actor.
-/

namespace Attenuation

/-- An actor that callers send requests to. -/
structure Worker where
  /-- The actor. -/
  actor : Actor
  /-- Its group was given back. -/
  joined : Bool

/-- What callers hold besides the bench. -/
structure Holdings where
  /-- Attenuators on their own. -/
  attenuators : List Attenuator
  /-- Groups on their own. -/
  groups : List Group
  /-- Racks. -/
  racks : List Rack
  /-- Actors. -/
  workers : List Worker

/-- Where a group is. The group of an actor is nowhere until the actor gives it back. -/
inductive GroupPlace where
  /-- A group on its own. -/
  | own (position : Nat)
  /-- A group of a rack. -/
  | racked (rack : Nat) (name : String)

/-- Where an attenuator is. -/
inductive AttenuatorPlace where
  /-- An attenuator on its own. -/
  | own (position : Nat)
  /-- A member of a group. -/
  | member (group : GroupPlace) (position : Nat)
  /-- A channel of a rack. -/
  | channel (rack instrument index : Nat)
  /-- The first channel of a rack with a path label. -/
  | labelled (rack : Nat) (path : String)

namespace Holdings

/-- Nothing is held. -/
def empty : Holdings := ⟨[], [], [], []⟩

/-- The group at a place. -/
def group? (held : Holdings) : GroupPlace → Option Group
  | .own position => held.groups[position]?
  | .racked rack name => do (← held.racks[rack]?).group? name

/-- Put a group at the place where it was found. -/
def putGroup (held : Holdings) (place : GroupPlace) (group : Group) : Holdings :=
  match place with
  | .own position => { held with groups := held.groups.set position group }
  | .racked position name =>
    match held.racks[position]? with
    | some rack => { held with racks := held.racks.set position (rack.putGroup name group) }
    | none => held

/-- The attenuator at a place. -/
def attenuator? (held : Holdings) : AttenuatorPlace → Option Attenuator
  | .own position => held.attenuators[position]?
  | .member place position => do (← held.group? place).members[position]?
  | .channel rack instrument index => do (← held.racks[rack]?).attenuator? instrument index
  | .labelled rack path => do (← held.racks[rack]?).findByPath? path

/-- What holds of every entry of a list holds after one entry was replaced by such a value. -/
theorem forall_mem_set {α : Type} {known : α → Prop} {entries : List α}
    (all : ∀ entry ∈ entries, known entry) (position : Nat) {value : α} (new : known value) :
    ∀ entry ∈ entries.set position value, known entry := by
  intro entry member
  rcases List.mem_or_eq_of_mem_set member with inside | rfl
  · exact all entry inside
  · exact new

/-- Every attenuator that is held anywhere has a property. -/
structure All (property : Attenuator → Prop) (held : Holdings) : Prop where
  /-- The attenuators on their own. -/
  attenuators : ∀ attenuator ∈ held.attenuators, property attenuator
  /-- The members of the groups on their own. -/
  groups : ∀ group ∈ held.groups, group.All property
  /-- The attenuators of the racks. -/
  racks : ∀ rack ∈ held.racks, rack.All property
  /-- The members of the groups of the actors. -/
  workers : ∀ worker ∈ held.workers, worker.actor.All property

namespace All

variable {property : Attenuator → Prop} {held : Holdings}

/-- Where nothing is held, nothing is to be shown. -/
theorem empty : Holdings.empty.All property := by
  constructor <;> intro _ member <;> exact absurd member List.not_mem_nil

/-- A property that follows from another one. -/
theorem imp {weaker : Attenuator → Prop} (all : held.All property)
    (follows : ∀ attenuator, property attenuator → weaker attenuator) : held.All weaker where
  attenuators attenuator member := follows attenuator (all.attenuators attenuator member)
  groups group present member inside := follows member (all.groups group present member inside)
  racks rack present := (all.racks rack present).imp follows
  workers worker present group own member inside :=
    follows member (all.workers worker present group own member inside)

/-- The members of a group that is found. -/
theorem group? (all : held.All property) {place : GroupPlace} {group : Group}
    (found : held.group? place = some group) : group.All property := by
  cases place with
  | own position => exact all.groups group (List.mem_of_getElem? found)
  | racked position name =>
    obtain ⟨rack, present, found⟩ := Option.bind_eq_some_iff.mp found
    exact (all.racks rack (List.mem_of_getElem? present)).groups group (Rack.group?_mem found)

/-- An attenuator that is found. -/
theorem attenuator? (all : held.All property) {place : AttenuatorPlace} {attenuator : Attenuator}
    (found : held.attenuator? place = some attenuator) : property attenuator := by
  cases place with
  | own position => exact all.attenuators attenuator (List.mem_of_getElem? found)
  | member place position =>
    obtain ⟨group, present, found⟩ := Option.bind_eq_some_iff.mp found
    exact all.group? present attenuator (List.mem_of_getElem? found)
  | channel position instrument index =>
    obtain ⟨rack, present, found⟩ := Option.bind_eq_some_iff.mp found
    have kept := all.racks rack (List.mem_of_getElem? present)
    exact kept.instruments attenuator (Rack.attenuator?_mem found)
  | labelled position path =>
    obtain ⟨rack, present, found⟩ := Option.bind_eq_some_iff.mp found
    have kept := all.racks rack (List.mem_of_getElem? present)
    exact kept.instruments attenuator (List.mem_of_find?_eq_some found)

/-- Attenuators that are all found. -/
theorem attenuators? (all : held.All property) {places : List AttenuatorPlace}
    {attenuators : List Attenuator}
    (found : places.mapM held.attenuator? = some attenuators) :
    ∀ attenuator ∈ attenuators, property attenuator := by
  induction places generalizing attenuators with
  | nil =>
    simp only [List.mapM_nil, Option.pure_def, Option.some.injEq] at found
    subst found
    exact fun attenuator member => absurd member List.not_mem_nil
  | cons place rest ih =>
    rw [List.mapM_cons] at found
    obtain ⟨first, here, found⟩ := Option.bind_eq_some_iff.mp found
    obtain ⟨others, later, found⟩ := Option.bind_eq_some_iff.mp found
    cases found
    exact List.forall_mem_cons.mpr ⟨all.attenuator? here, ih later⟩

/-- One more attenuator on its own. -/
theorem addAttenuator (all : held.All property) {attenuator : Attenuator}
    (known : property attenuator) :
    Holdings.All property { held with attenuators := held.attenuators ++ [attenuator] } :=
  { all with
    attenuators := List.forall_mem_append.mpr
      ⟨all.attenuators, List.forall_mem_singleton.mpr known⟩ }

/-- Another attenuator in the place of one on its own. -/
theorem setAttenuator (all : held.All property) (position : Nat) {attenuator : Attenuator}
    (known : property attenuator) :
    Holdings.All property { held with attenuators := held.attenuators.set position attenuator } :=
  { all with attenuators := forall_mem_set all.attenuators position known }

/-- One more group on its own. -/
theorem addGroup (all : held.All property) {group : Group} (members : group.All property) :
    Holdings.All property { held with groups := held.groups ++ [group] } :=
  { all with
    groups := List.forall_mem_append.mpr ⟨all.groups, List.forall_mem_singleton.mpr members⟩ }

/-- One more rack. -/
theorem addRack (all : held.All property) {rack : Rack} (known : rack.All property) :
    Holdings.All property { held with racks := held.racks ++ [rack] } :=
  { all with
    racks := List.forall_mem_append.mpr ⟨all.racks, List.forall_mem_singleton.mpr known⟩ }

/-- Another rack in the place of one. -/
theorem setRack (all : held.All property) (position : Nat) {rack : Rack}
    (known : rack.All property) :
    Holdings.All property { held with racks := held.racks.set position rack } :=
  { all with racks := forall_mem_set all.racks position known }

/-- Another group in the place of one that was found. -/
theorem putGroup (all : held.All property) (place : GroupPlace) {group : Group}
    (members : group.All property) : (held.putGroup place group).All property := by
  cases place with
  | own position => exact { all with groups := forall_mem_set all.groups position members }
  | racked position name =>
    simp only [Holdings.putGroup]
    cases present : held.racks[position]? with
    | none => exact all
    | some rack =>
      have known := all.racks rack (List.mem_of_getElem? present)
      exact all.setRack position (known.putGroup name members)

/-- One more actor. -/
theorem addWorker (all : held.All property) {worker : Worker}
    (known : worker.actor.All property) :
    Holdings.All property { held with workers := held.workers ++ [worker] } :=
  { all with
    workers := List.forall_mem_append.mpr ⟨all.workers, List.forall_mem_singleton.mpr known⟩ }

/-- Another actor in the place of one. -/
theorem setWorker (all : held.All property) (position : Nat) {worker : Worker}
    (known : worker.actor.All property) :
    Holdings.All property { held with workers := held.workers.set position worker } :=
  { all with workers := forall_mem_set all.workers position known }

/-- A group on its own is handed over. -/
theorem eraseGroup (all : held.All property) (position : Nat) :
    Holdings.All property { held with groups := held.groups.eraseIdx position } :=
  { all with groups := fun group member => all.groups group (List.mem_of_mem_eraseIdx member) }

end All

end Holdings

end Attenuation
