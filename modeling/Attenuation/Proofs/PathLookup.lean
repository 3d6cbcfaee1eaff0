import Attenuation.Proofs.FirstProblem
import Attenuation.Proofs.GroupLookup
import Mathlib.Algebra.Order.BigOperators.Group.List
import Mathlib.Algebra.GroupWithZero.Nat
import Mathlib.Algebra.Order.Group.Nat

/-!
# Attenuators by their paths

The attenuators of a rack are reached in three ways: by an instrument and a channel, by a place in
the sequence of all of them, and by the label of a path. Places are in the lexicographic order of
instruments and channels (`channelPlace_lt_channelPlace`), so that the first attenuator of a label
is the one of the smallest channel that is described with it (`Rack.History.findByPath?_exact`). A
label that is listed behind the channels of an instrument describes none of them.
-/

namespace Attenuation

/-- The place of a channel among the channels of all instruments, where instruments have so many. -/
def channelPlace (counts : List Nat) (instrument index : Nat) : Nat :=
  (counts.take instrument).sum + index

/-- Behind the channels of a first instrument are the places of the others. -/
theorem channelPlace_cons_succ (count : Nat) (counts : List Nat) (instrument index : Nat) :
    channelPlace (count :: counts) (instrument + 1) index =
      count + channelPlace counts instrument index := by
  simp [channelPlace, Nat.add_assoc]

/-- The next instrument begins where the channels of an instrument end. -/
theorem channelPlace_succ (counts : List Nat) (instrument : Nat) :
    channelPlace counts (instrument + 1) 0 =
      channelPlace counts instrument (counts[instrument]?.getD 0) := by
  unfold channelPlace
  rw [List.take_add_one, List.sum_append]
  cases counts[instrument]? <;> simp

/-- Places are in the order of the instruments and, within one, of its channels. -/
theorem channelPlace_lt_channelPlace {counts : List Nat} {instrument index other later : Nat}
    (inside : index < counts[instrument]?.getD 0)
    (earlier : toLex (instrument, index) < toLex (other, later)) :
    channelPlace counts instrument index < channelPlace counts other later := by
  rcases Prod.Lex.toLex_lt_toLex.mp earlier with front | ⟨same, front⟩
  · calc
      channelPlace counts instrument index
        < channelPlace counts instrument (counts[instrument]?.getD 0) :=
          Nat.add_lt_add_left inside _
      _ = channelPlace counts (instrument + 1) 0 := (channelPlace_succ counts instrument).symm
      _ ≤ channelPlace counts other later :=
          Nat.add_le_add (List.monotone_sum_take counts front) (Nat.zero_le later)
  · obtain rfl : instrument = other := same
    exact Nat.add_lt_add_left front _

namespace Rack

/-- How many attenuators instruments have. -/
def attenuatorCounts (instruments : List RackInstrument) : List Nat :=
  instruments.map (·.attenuators.length)

section Places

variable {instruments : List RackInstrument} {instrument index : Nat} {attenuator : Attenuator}

/-- A channel that is found is one of those that its instrument has. -/
theorem lt_of_channelOf? (found : channelOf? instruments instrument index = some attenuator) :
    index < (attenuatorCounts instruments)[instrument]?.getD 0 := by
  obtain ⟨owner, present, placed⟩ := Option.bind_eq_some_iff.mp found
  obtain ⟨inside, -⟩ := List.getElem?_eq_some_iff.mp placed
  simpa [attenuatorCounts, present] using inside

/-- A channel that is found is at its place. -/
theorem flatMap_channelPlace
    (found : channelOf? instruments instrument index = some attenuator) :
    (instruments.flatMap (·.attenuators))[
      channelPlace (attenuatorCounts instruments) instrument index]? = some attenuator := by
  induction instruments generalizing instrument with
  | nil => simp [channelOf?] at found
  | cons first rest ih =>
    rw [List.flatMap_cons]
    cases instrument with
    | zero =>
      have own : first.attenuators[index]? = some attenuator := found
      obtain ⟨inside, -⟩ := List.getElem?_eq_some_iff.mp own
      rw [channelPlace, List.take_zero, List.sum_nil, Nat.zero_add,
        List.getElem?_append_left inside, own]
    | succ instrument =>
      rw [attenuatorCounts, List.map_cons, channelPlace_cons_succ,
        List.getElem?_append_right (Nat.le_add_right _ _), Nat.add_sub_cancel_left]
      exact ih found

/-- Every place is the one of a channel. -/
theorem exists_channelPlace {place : Nat}
    (found : (instruments.flatMap (·.attenuators))[place]? = some attenuator) :
    ∃ instrument index, channelOf? instruments instrument index = some attenuator ∧
      place = channelPlace (attenuatorCounts instruments) instrument index := by
  induction instruments generalizing place with
  | nil => simp at found
  | cons first rest ih =>
    rw [List.flatMap_cons] at found
    by_cases own : place < first.attenuators.length
    · rw [List.getElem?_append_left own] at found
      exact ⟨0, place, found, (Nat.zero_add place).symm⟩
    · have behind := Nat.le_of_not_lt own
      rw [List.getElem?_append_right behind] at found
      obtain ⟨instrument, index, there, further⟩ := ih found
      refine ⟨instrument + 1, index, there, ?_⟩
      rw [attenuatorCounts, List.map_cons, channelPlace_cons_succ]
      exact (Nat.sub_eq_iff_eq_add' behind).mp further

end Places

/-- The attenuator of a channel has a label. -/
def Bears (rack : Rack) (label : String) (instrument index : Nat) : Prop :=
  ∃ attenuator, rack.attenuator? instrument index = some attenuator ∧
    attenuator.path = some label

/-- Nothing is found under a label exactly when no attenuator has it. -/
theorem findByPath?_eq_none {rack : Rack} {label : String} :
    rack.findByPath? label = none ↔
      ∀ instrument index, ¬ rack.Bears label instrument index := by
  unfold findByPath?
  rw [List.find?_eq_none]
  constructor
  · rintro none instrument index ⟨attenuator, found, labelled⟩
    exact none attenuator (List.mem_of_getElem? (flatMap_channelPlace found)) (by simp [labelled])
  · intro none attenuator inside labelled
    obtain ⟨place, there⟩ := List.mem_iff_getElem?.mp inside
    obtain ⟨instrument, index, found, -⟩ := exists_channelPlace there
    exact none instrument index ⟨attenuator, found, by simpa using labelled⟩

/-- The attenuator that is found under a label is the one of the smallest channel that has it. -/
theorem findByPath?_eq_some {rack : Rack} {label : String} {attenuator : Attenuator} :
    rack.findByPath? label = some attenuator ↔
      ∃ instrument index, rack.attenuator? instrument index = some attenuator ∧
        attenuator.path = some label ∧
        ∀ other later, rack.Bears label other later →
          toLex (instrument, index) ≤ toLex (other, later) := by
  unfold findByPath?
  rw [List.find?_eq_some_iff_getElem]
  constructor
  · rintro ⟨labelled, place, inside, here, before⟩
    obtain ⟨instrument, index, found, rfl⟩ :=
      exists_channelPlace (List.getElem?_eq_some_iff.mpr ⟨inside, here⟩)
    refine ⟨instrument, index, found, by simpa using labelled, ?_⟩
    rintro other later ⟨also, present, alike⟩
    -- a smaller channel would stand further in front, where nothing has the label
    by_contra smaller
    have earlier := channelPlace_lt_channelPlace (lt_of_channelOf? present) (not_le.mp smaller)
    obtain ⟨_, same⟩ := List.getElem?_eq_some_iff.mp (flatMap_channelPlace present)
    have unlike := before _ earlier
    simp [attenuators, same, alike] at unlike
  · rintro ⟨instrument, index, found, labelled, smallest⟩
    obtain ⟨inside, here⟩ := List.getElem?_eq_some_iff.mp (flatMap_channelPlace found)
    refine ⟨by simp [labelled], _, inside, here, fun place earlier => ?_⟩
    have present : place < rack.attenuators.length := earlier.trans inside
    obtain ⟨other, later, there, rfl⟩ :=
      exists_channelPlace (List.getElem?_eq_getElem present)
    -- a channel further in front is smaller, so that it does not have the label
    by_contra alike
    have bears : rack.Bears label other later := ⟨_, there, by simpa using alike⟩
    rcases (smallest other later bears).eq_or_lt with same | larger
    · obtain ⟨rfl, rfl⟩ := Prod.mk.inj (toLex.injective same)
      exact Nat.lt_irrefl _ earlier
    · have further := channelPlace_lt_channelPlace (lt_of_channelOf? found) larger
      exact Nat.lt_asymm earlier further

end Rack

namespace RackConfig

/-- How many channels the instruments of a description have. -/
def channelCounts (config : RackConfig) : List Nat :=
  config.instruments.map (·.channelCount.toNat)

/-- A channel of a description is listed with a label. -/
def Labels (config : RackConfig) (label : String) (instrument index : Nat) : Prop :=
  ∃ descriptor, config.instruments[instrument]? = some descriptor ∧
    index < descriptor.channelCount.toNat ∧ descriptor.path index = some label

/-- A channel is the smallest one of a description that is listed with a label. -/
structure FirstLabelled (config : RackConfig) (label : String) (instrument index : Nat) :
    Prop where
  /-- The channel is listed with the label. -/
  labels : config.Labels label instrument index
  /-- No smaller channel is. -/
  smallest : ∀ other later, config.Labels label other later →
    toLex (instrument, index) ≤ toLex (other, later)

end RackConfig

namespace Rack

variable {config : RackConfig} {catalog : Catalog} {taken : List String} {rack : Rack}
  {bench : Bench}

/-- Taking a group leaves the instruments. -/
theorem instruments_takeGroup? {left : Rack} {name : String} {group : Group}
    (found : rack.takeGroup? name = some (group, left)) : left.instruments = rack.instruments := by
  obtain ⟨_, -, taken⟩ := Option.bind_eq_some_iff.mp found
  cases taken
  rfl

/-- Whatever became of a rack, its instruments are the ones that building it connected. -/
theorem History.equipped (history : History config catalog taken rack bench) :
    ∃ before after, Equipped catalog before config.instruments rack.instruments after := by
  induction history with
  | built ran => exact ⟨_, _, (assembled_of_done ran).equipped⟩
  | @commanded taken rack bench command earlier ih =>
    rcases command.rackLeft_cases earlier.asDescribed.calibrated with
      same | ⟨name, level, group, -, -, -, put⟩
    · rwa [same]
    · rw [put]
      exact ih
  | took earlier found ih => rwa [instruments_takeGroup? found]
  | meanwhile earlier evolved ih => exact ih

namespace Equipped

variable {before after : Bench} {descriptors : List InstrumentConfig}
  {instruments : List RackInstrument}

/-- The instruments have as many attenuators as are described. -/
theorem attenuatorCounts_eq
    (equipped : Equipped catalog before descriptors instruments after) :
    attenuatorCounts instruments = descriptors.map (·.channelCount.toNat) := by
  refine List.ext_getElem? fun position => ?_
  unfold attenuatorCounts
  rw [List.getElem?_map, List.getElem?_map]
  cases described : descriptors[position]? with
  | none =>
    rw [equipped.missing described]
    rfl
  | some descriptor =>
    obtain ⟨driver, -, -, placed, -⟩ := equipped.placed position descriptor described
    rw [placed]
    simp [InstrumentConfig.assembled]

/-- The attenuator of a described channel has the channel and the path that is listed for it. -/
theorem channelOf?_described
    (equipped : Equipped catalog before descriptors instruments after) {instrument index : Nat}
    {descriptor : InstrumentConfig} (described : descriptors[instrument]? = some descriptor)
    (inside : index < descriptor.channelCount.toNat) :
    ∃ attenuator, channelOf? instruments instrument index = some attenuator ∧
      attenuator.index = index ∧ attenuator.path = descriptor.path index := by
  obtain ⟨driver, -, -, placed, -⟩ := equipped.placed instrument descriptor described
  refine ⟨descriptor.attenuator (before.nextSession + instrument) driver.instrument.model index,
    ?_, rfl, rfl⟩
  simp [channelOf?, placed, InstrumentConfig.assembled, inside]

end Equipped

/-- An attenuator has a label exactly when its channel is listed with it. -/
theorem Equipped.bears_iff {before after : Bench}
    (equipped : Equipped catalog before config.instruments rack.instruments after)
    (label : String) (instrument index : Nat) :
    rack.Bears label instrument index ↔ config.Labels label instrument index := by
  constructor
  · rintro ⟨attenuator, found, labelled⟩
    have present : config.HasChannel instrument index := by
      by_contra absent
      rw [attenuator?, (equipped.channelOf?_eq_none instrument index).mpr absent] at found
      cases found
    obtain ⟨descriptor, described, inside⟩ := present
    obtain ⟨own, there, -, path⟩ := equipped.channelOf?_described described inside
    cases there.symm.trans found
    exact ⟨descriptor, described, inside, path ▸ labelled⟩
  · rintro ⟨descriptor, described, inside, listed⟩
    obtain ⟨attenuator, found, -, path⟩ := equipped.channelOf?_described described inside
    exact ⟨attenuator, found, path.trans listed⟩

/-- **An attenuator is found by its path exactly as it is described.** Whatever became of a rack
since it was built, it has an attenuator for every channel of its description and no others, and
the attenuator of a channel is at the place behind those of all earlier instruments and earlier
channels. Nothing is found under a label exactly when no channel is listed with it, however far
the list of an instrument goes on behind its channels. What is found under a label otherwise is the
attenuator of the lexicographically smallest instrument and channel that is listed with it, which
is also the one at the place of that channel. -/
theorem History.findByPath?_exact (history : History config catalog taken rack bench) :
    rack.attenuators.length = config.channelCounts.sum ∧
    (∀ instrument index, ¬ config.HasChannel instrument index →
      rack.attenuator? instrument index = none) ∧
    (∀ instrument index descriptor, config.instruments[instrument]? = some descriptor →
      index < descriptor.channelCount.toNat →
      ∃ attenuator, rack.attenuator? instrument index = some attenuator ∧
        rack.attenuators[channelPlace config.channelCounts instrument index]? = some attenuator ∧
        attenuator.index = index ∧ attenuator.path = descriptor.path index) ∧
    (∀ label, rack.findByPath? label = none ↔
      ∀ instrument index, ¬ config.Labels label instrument index) ∧
    ∀ label attenuator, rack.findByPath? label = some attenuator ↔
      ∃ instrument index, config.FirstLabelled label instrument index ∧
        rack.attenuator? instrument index = some attenuator ∧
        rack.attenuators[channelPlace config.channelCounts instrument index]? = some attenuator ∧
        attenuator.path = some label := by
  obtain ⟨before, after, equipped⟩ := history.equipped
  have counts : attenuatorCounts rack.instruments = config.channelCounts :=
    equipped.attenuatorCounts_eq
  have placed {instrument index : Nat} {attenuator : Attenuator}
      (found : rack.attenuator? instrument index = some attenuator) :
      rack.attenuators[channelPlace config.channelCounts instrument index]? = some attenuator :=
    counts ▸ flatMap_channelPlace found
  refine ⟨?_, fun instrument index absent => ?_, ?_, fun label => ?_, fun label attenuator => ?_⟩
  · rw [attenuators, List.length_flatMap, ← counts]
    rfl
  · exact (equipped.channelOf?_eq_none instrument index).mpr absent
  · intro instrument index descriptor described inside
    obtain ⟨attenuator, found, own, path⟩ := equipped.channelOf?_described described inside
    exact ⟨attenuator, found, placed found, own, path⟩
  · simp only [findByPath?_eq_none, equipped.bears_iff]
  · simp only [findByPath?_eq_some, equipped.bears_iff]
    constructor
    · rintro ⟨instrument, index, found, labelled, smallest⟩
      have labels := (equipped.bears_iff label instrument index).mp ⟨attenuator, found, labelled⟩
      exact ⟨instrument, index, ⟨labels, smallest⟩, found, placed found, labelled⟩
    · rintro ⟨instrument, index, first, found, -, labelled⟩
      exact ⟨instrument, index, found, labelled, first.smallest⟩

/-- An instrument without channels, one without labels, and two that are described alike. -/
def labelled : RackConfig where
  instruments := [{ twin with channelCount := 0 }, { twin with paths := none }, twin, twin]
  groups := []

/-- The label of two channels finds the first of them, at the fourth place, and the label that is
listed behind the channels finds nothing. -/
theorem findByPath?_labelled :
    ∃ rack bench attenuator, History labelled Catalog.empty [] rack bench ∧
      rack.findByPath? "right" = some attenuator ∧ rack.attenuator? 2 1 = some attenuator ∧
      rack.attenuators[3]? = some attenuator ∧ rack.findByPath? "spare" = none := by
  have done : ((build labelled Catalog.empty).run Bench.empty).1.isDone := by decide +kernel
  obtain ⟨rack, after, ran⟩ := Action.exists_of_isDone done
  have built := History.built ran
  obtain ⟨-, -, channels, missing, finds⟩ := built.findByPath?_exact
  have first : labelled.FirstLabelled "right" 2 1 := by
    refine ⟨⟨twin, rfl, by decide, rfl⟩, ?_⟩
    rintro other later ⟨descriptor, described, inside, listed⟩
    match other, later with
    | 0, _ => cases described; cases inside
    | 1, _ => cases described; cases listed
    | 2, 0 => cases described; exact absurd listed (by decide)
    | 2, later + 1 => exact Prod.Lex.toLex_le_toLex.mpr (.inr ⟨rfl, by simp⟩)
    | other + 3, _ => exact Prod.Lex.toLex_le_toLex.mpr (.inl (by simp))
  have spare : ∀ instrument index, ¬ labelled.Labels "spare" instrument index := by
    rintro instrument index ⟨descriptor, described, inside, listed⟩
    match instrument, index with
    | 0, _ => cases described; cases inside
    | 1, _ => cases described; cases listed
    | 2, 0 | 2, 1 | 3, 0 | 3, 1 => cases described; exact absurd listed (by decide)
    | 2, index + 2 | 3, index + 2 => cases described; exact absurd inside (by simp [twin])
    | instrument + 4, _ => cases described
  obtain ⟨attenuator, found, placed, -, path⟩ := channels 2 1 twin rfl (by decide)
  exact ⟨rack, after, attenuator, built,
    (finds "right" attenuator).mpr ⟨2, 1, first, found, placed, path⟩, found, placed,
    (missing "spare").mpr spare⟩

end Rack

end Attenuation
