import Attenuation.Proofs.RackHistory
import Mathlib.Data.List.Nodup

/-!
# Looking for the groups of a rack

A rack finds the first group of a name, so what it finds rests on the names being distinct. They are
distinct in a description that was checked, and neither commands nor groups that are taken change
that: at every moment a name finds its group, by each way of looking, exactly when it is described
and was not taken.
-/

namespace Attenuation

namespace Rack

section Groups

variable {groups : List Group} {name : String} {group : Group}

/-- The group that is found is the one between those in front of it, none of which has the name, and
those behind it. -/
theorem exists_split_of_find (found : (groups.find? fun group => group.name == name) = some group) :
    ∃ front back, groups = front ++ group :: back ∧ group.name = name ∧
      ∀ other ∈ front, other.name ≠ name := by
  obtain ⟨named, front, back, split, before⟩ := List.find?_eq_some_iff_append.mp found
  refine ⟨front, back, split, by simpa using named, fun other inside => ?_⟩
  simpa using before other inside

/-- A group for change is the one that is found, and a change puts another one in its place. -/
theorem firstForChange?_eq (name : String) (groups : List Group) :
    firstForChange? name groups = (groups.find? fun group => group.name == name).map fun group =>
      (group, fun changed => replaceFirst name changed groups) := by
  induction groups with
  | nil => rfl
  | cons first rest ih =>
    unfold firstForChange? replaceFirst
    by_cases here : (first.name == name) = true
    · simp only [List.find?_cons, here, ↓reduceIte, Option.map_some]
    · rw [if_neg here, ih, List.find?_cons_of_neg (by exact here), Option.map_map]
      simp only [if_neg here]
      rfl

/-- Of groups with distinct names, the one that is found is the only one of its name. -/
theorem eq_of_find (distinct : (groups.map Group.name).Nodup)
    (found : (groups.find? fun group => group.name == name) = some group) {other : Group}
    (inside : other ∈ groups) (named : other.name = name) : other = group := by
  have own : group.name = name := by simpa using List.find?_some found
  exact List.inj_on_of_nodup_map distinct inside (List.mem_of_find?_eq_some found)
    (named.trans own.symm)

/-- Of groups with distinct names, a change changes the group of the name and no other. -/
theorem replaceFirst_eq_map (distinct : (groups.map Group.name).Nodup) (name : String)
    (changed : Group) :
    replaceFirst name changed groups =
      groups.map fun other => if other.name = name then changed else other := by
  induction groups with
  | nil => rfl
  | cons first rest ih =>
    rw [List.map_cons, List.nodup_cons] at distinct
    unfold replaceFirst
    by_cases here : first.name = name
    · have others : ∀ other ∈ rest, other.name ≠ name := by
        rintro other inside rfl
        exact distinct.1 (here ▸ List.mem_map_of_mem inside)
      have same : (rest.map fun other => if other.name = name then changed else other) = rest := by
        conv_rhs => rw [← List.map_id rest]
        exact List.map_congr_left fun other inside => if_neg (others other inside)
      rw [if_pos (by simpa using here), List.map_cons, if_pos here, same]
    · rw [if_neg (by simpa using here), List.map_cons, if_neg here, ih distinct.2]

/-- Groups have the names of their descriptions, in order. -/
theorem formed_names {instruments : List RackInstrument} {descriptions : List GroupConfig}
    (formed : List.Forall₂ (Formed instruments) descriptions groups) :
    groups.map Group.name = descriptions.map GroupConfig.name := by
  induction formed with
  | nil => rfl
  | cons own others ih => rw [List.map_cons, List.map_cons, own.name, ih]

end Groups

/-- A rack finds a group under a name, however it is looked for, and finds no other one. -/
structure Finds (rack : Rack) (name : String) (group : Group) : Prop where
  /-- The group is in the rack. -/
  belongs : group ∈ rack.groups
  /-- It is the only one of the name. -/
  only : ∀ other ∈ rack.groups, other.name = name ↔ other = group
  /-- It is found to be read. -/
  looked : rack.group? name = some group
  /-- It is found where it is required. -/
  required : rack.requireGroup name = .ok group
  /-- It is found to be changed, also where it is required, and a change leaves every other group
  where and as it is. -/
  forChange : ∃ change, rack.groupForChange? name = some (group, change) ∧
    rack.requireGroupForChange name = .ok (group, change) ∧
    ∀ changed, change changed = { rack with
      groups := rack.groups.map fun other => if other.name = name then changed else other }
  /-- It can be taken, which leaves every other group as it is and the order too. -/
  takes : ∃ front back, rack.groups = front ++ group :: back ∧
    rack.takeGroup? name = some (group, { rack with groups := front ++ back })

/-- A rack finds nothing under a name, however it is looked for. -/
structure Lacks (rack : Rack) (name : String) : Prop where
  /-- Nothing is found to be read. -/
  looked : rack.group? name = none
  /-- Where it is required, the fault names what is missing. -/
  required : rack.requireGroup name = .error (.groupNotFound name)
  /-- Nothing is found to be changed. -/
  forChange : rack.groupForChange? name = none
  /-- Where it is required to be changed, the fault names what is missing. -/
  requiredForChange : rack.requireGroupForChange name = .error (.groupNotFound name)
  /-- Nothing can be taken. -/
  takes : rack.takeGroup? name = none

variable {rack : Rack} {name : String} {group : Group}

/-- A group for change is the one that is found, and a change puts another one in its place. -/
theorem groupForChange?_eq (rack : Rack) (name : String) :
    rack.groupForChange? name =
      (rack.group? name).map fun group => (group, rack.putGroup name) := by
  unfold groupForChange?
  rw [firstForChange?_eq, Option.map_map]
  rfl

/-- A rack whose groups have distinct names finds each of them. -/
theorem finds_of_mem (distinct : (rack.groups.map Group.name).Nodup)
    (inside : group ∈ rack.groups) : rack.Finds group.name group := by
  have looked : rack.group? group.name = some group := by
    cases found : rack.group? group.name with
    | none =>
      have missed := List.find?_eq_none.mp found group inside
      simp at missed
    | some other => rw [eq_of_find distinct found inside rfl]
  have forChange : rack.groupForChange? group.name = some (group, rack.putGroup group.name) := by
    rw [groupForChange?_eq, looked]
    rfl
  refine ⟨inside, fun other belongs => ⟨fun named => ?_, fun same => same ▸ rfl⟩, looked, ?_,
    ⟨_, forChange, ?_, fun changed => ?_⟩, ?_⟩
  · exact eq_of_find distinct looked belongs named
  · rw [requireGroup, looked]
  · rw [requireGroupForChange, forChange]
  · rw [putGroup, replaceFirst_eq_map distinct]
  · obtain ⟨front, back, split, named, before⟩ := exists_split_of_find looked
    refine ⟨front, back, split, ?_⟩
    have left : rack.groups.eraseP (fun other => other.name == group.name) = front ++ back := by
      rw [split, List.eraseP_append_right _ (by simpa using before),
        List.eraseP_cons_of_pos (by simp)]
    rw [takeGroup?, looked, ← left]
    rfl

/-- A rack finds nothing under a name that none of its groups has. -/
theorem lacks_of_not_mem (absent : name ∉ rack.groups.map Group.name) : rack.Lacks name := by
  have looked : rack.group? name = none := by
    refine List.find?_eq_none.mpr fun other inside => ?_
    have apart : other.name ≠ name := fun same => absent (same ▸ List.mem_map_of_mem inside)
    simpa using apart
  have forChange : rack.groupForChange? name = none := by
    rw [groupForChange?_eq, looked]
    rfl
  refine ⟨looked, ?_, forChange, ?_, ?_⟩
  · rw [requireGroup, looked]
  · rw [requireGroupForChange, forChange]
  · rw [takeGroup?, looked]
    rfl

/-- A rack does not find what it lacks. -/
theorem Lacks.not_finds (lacks : rack.Lacks name) : ¬ rack.Finds name group := by
  intro finds
  have found := finds.looked
  rw [lacks.looked] at found
  cases found

/-- A group that is taken is the one that is found, and then nothing is found under its name, while
every other name finds what it found. -/
theorem Finds.of_takeGroup? (distinct : (rack.groups.map Group.name).Nodup) {left : Rack}
    (taken : rack.takeGroup? name = some (group, left)) :
    rack.Finds name group ∧ left.Lacks name ∧
      ∀ other found, other ≠ name → rack.Finds other found → left.Finds other found := by
  obtain ⟨first, looked, -⟩ := Option.bind_eq_some_iff.mp taken
  have named : first.name = name := by simpa using List.find?_some looked
  have finds := finds_of_mem distinct (group?_mem looked)
  rw [named] at finds
  obtain ⟨front, back, split, takes⟩ := finds.takes
  cases takes.symm.trans taken
  have whole := distinct
  rw [split, List.map_append, List.map_cons, List.nodup_middle, List.nodup_cons,
    ← List.map_append] at whole
  refine ⟨finds, lacks_of_not_mem (named ▸ whole.1), fun other found apart earlier => ?_⟩
  have own := (earlier.only found earlier.belongs).mpr rfl
  have inside : found ∈ front ++ back := by
    have belongs := earlier.belongs
    rw [split, List.mem_append, List.mem_cons] at belongs
    rcases belongs with early | rfl | late
    · exact List.mem_append_left _ early
    · exact absurd (own.symm.trans named) apart
    · exact List.mem_append_right _ late
  rw [← own]
  exact finds_of_mem whole.2 inside

variable {config : RackConfig} {catalog : Catalog} {taken : List String} {bench : Bench}

namespace AsDescribed

/-- The groups have distinct names. -/
theorem nodup (described : rack.AsDescribed config catalog taken bench) :
    (rack.groups.map Group.name).Nodup := by
  rw [formed_names described.groups]
  exact RackConfig.nodup_remaining described.distinct taken

/-- The names of the groups are the ones that are described and were not taken. -/
theorem mem_names (described : rack.AsDescribed config catalog taken bench) (name : String) :
    name ∈ rack.groups.map Group.name ↔
      name ∈ config.groups.map GroupConfig.name ∧ name ∉ taken := by
  rw [formed_names described.groups, RackConfig.remaining, List.mem_map, List.mem_map]
  constructor
  · rintro ⟨description, inside, rfl⟩
    obtain ⟨listed, left⟩ := List.mem_filter.mp inside
    exact ⟨⟨description, listed, rfl⟩, by simpa using left⟩
  · rintro ⟨⟨description, listed, rfl⟩, left⟩
    exact ⟨description, List.mem_filter.mpr ⟨listed, by simpa using left⟩, rfl⟩

/-- A command changes no group but the one that it sets, and that one only in the level that it
remembers. -/
theorem rackLeft_groups (described : rack.AsDescribed config catalog taken bench)
    (command : Command) {position : Nat} {group : Group}
    (found : rack.groups[position]? = some group) :
    (command.rackLeft rack bench).groups[position]? = some group ∨
      ∃ level, command = .set group.name level ∧ level.isFinite ∧
        (command.rackLeft rack bench).groups[position]? =
          some { group with lastCommanded := level } := by
  rcases command.rackLeft_cases described.calibrated with
    same | ⟨name, level, own, set, looked, finite, put⟩
  · rw [same]
    exact .inl found
  have changes : (command.rackLeft rack bench).groups[position]? =
      some (if group.name = name then { own with lastCommanded := level } else group) := by
    rw [put, putGroup, replaceFirst_eq_map described.nodup, List.getElem?_map, found]
    rfl
  by_cases hit : group.name = name
  · rw [if_pos hit] at changes
    have same := eq_of_find described.nodup looked (List.mem_of_getElem? found) hit
    exact .inr ⟨level, hit ▸ set, finite, same ▸ changes⟩
  · rw [if_neg hit] at changes
    exact .inl changes

end AsDescribed

/-- **Groups are found by their names.** Whatever became of a rack since it was built, its groups
are those of the description that were not taken, in order and with distinct names. A name finds a
group, the same one by each way of looking, exactly when it is described and was not taken, and
otherwise nothing, so that a name that was taken is not found and cannot be taken again. Taking a
group gives it as it is and leaves every other group, whatever it remembers, and the order. A
command changes no group but the one that it sets, and that one only in the level that it
remembers. -/
theorem History.lookups (history : History config catalog taken rack bench) :
    (rack.groups.map Group.name).Nodup ∧
    List.Forall₂ (Formed rack.instruments) (config.remaining taken) rack.groups ∧
    (∀ name, ((∃ group, rack.Finds name group) ↔
        name ∈ config.groups.map GroupConfig.name ∧ name ∉ taken) ∧
      (rack.Lacks name ↔ ¬ (name ∈ config.groups.map GroupConfig.name ∧ name ∉ taken))) ∧
    (∀ name ∈ taken, rack.Lacks name) ∧
    (∀ name group left, rack.takeGroup? name = some (group, left) →
      rack.Finds name group ∧ left.Lacks name ∧
        ∀ other found, other ≠ name → rack.Finds other found → left.Finds other found) ∧
    ∀ (command : Command) (position : Nat) (group : Group),
      rack.groups[position]? = some group →
      (command.rackLeft rack bench).groups[position]? = some group ∨
        ∃ level, command = .set group.name level ∧ level.isFinite ∧
          (command.rackLeft rack bench).groups[position]? =
            some { group with lastCommanded := level } := by
  have described := history.asDescribed
  have distinct := described.nodup
  have finds (name : String) (present : name ∈ rack.groups.map Group.name) :
      ∃ group, rack.Finds name group := by
    obtain ⟨group, inside, rfl⟩ := List.mem_map.mp present
    exact ⟨group, finds_of_mem distinct inside⟩
  have lookup (name : String) :
      ((∃ group, rack.Finds name group) ↔ name ∈ rack.groups.map Group.name) ∧
        (rack.Lacks name ↔ name ∉ rack.groups.map Group.name) := by
    by_cases present : name ∈ rack.groups.map Group.name
    · obtain ⟨group, found⟩ := finds name present
      refine ⟨iff_of_true ⟨group, found⟩ present, ?_⟩
      exact iff_of_false (fun lacks => lacks.not_finds found) (not_not.mpr present)
    · have lacks := lacks_of_not_mem present
      refine ⟨iff_of_false ?_ present, iff_of_true lacks present⟩
      rintro ⟨group, found⟩
      exact lacks.not_finds found
  simp only [described.mem_names] at lookup
  refine ⟨distinct, described.groups, lookup, fun name gone => ?_,
    fun name group left => Finds.of_takeGroup? distinct,
    fun command position group => described.rackLeft_groups command⟩
  exact (lookup name).2.mpr fun present => present.2 gone

/-- Two instruments that are described alike, with three groups of their channels. -/
def shelf : RackConfig where
  instruments := [twin, twin]
  groups := [⟨"pair", [⟨0, 1⟩, ⟨1, 1⟩]⟩, ⟨"left", [⟨0, 0⟩]⟩, ⟨"right", [⟨1, 0⟩]⟩]

/-- The group in the middle is taken after another one was set, and is the one that is missing. -/
theorem lookups_shelf :
    ∃ rack bench, History shelf Catalog.empty ["left"] rack bench ∧
      rack.groups.map Group.name = ["pair", "right"] ∧ rack.Lacks "left" ∧
      ∃ group, rack.Finds "right" group := by
  have done : ((build shelf Catalog.empty).run Bench.empty).1.isDone := by decide +kernel
  obtain ⟨rack, after, ran⟩ := Action.exists_of_isDone done
  have set := (History.built ran).commanded (.set "right" 7.5)
  obtain ⟨-, -, lookup, -, -, -⟩ := set.lookups
  obtain ⟨group, found⟩ := (lookup "left").1.mpr (by decide)
  obtain ⟨front, back, -, takes⟩ := found.takes
  have took := set.took takes
  obtain ⟨-, formed, later, missing, -, -⟩ := took.lookups
  have remaining : shelf.remaining ([] ++ ["left"]) =
      [⟨"pair", [⟨0, 1⟩, ⟨1, 1⟩]⟩, ⟨"right", [⟨1, 0⟩]⟩] := by decide
  rw [remaining] at formed
  exact ⟨_, _, took, formed_names formed, missing "left" (by decide),
    (later "right").1.mpr (by decide)⟩

end Rack

end Attenuation
