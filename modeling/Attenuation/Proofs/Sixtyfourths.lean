import Attenuation.Proofs.ReadBack
import Attenuation.Proofs.ReportedMaximum
import Attenuation.Proofs.SelectedChannels

/-!
# Levels in sixty-fourths of a decibel

Sums and differences of doubles are rounded, but not on a scale of sixty-fourths of a decibel as
long as the levels are not huge: such sums and differences are again on the scale, and doubles hold
them exactly. So with offsets and maxima on this scale a command is decided by the exact sum, the
channel holds that sum, and a read takes the offset off again without a trace.
-/

namespace Attenuation

namespace Level

/-- A finite level that is a whole number of sixty-fourths of a decibel within a bound. -/
structure Sixtyfourths (bound : ℚ) (level : Level) : Prop where
  /-- The level is finite. -/
  finite : level.isFinite
  /-- The level is a whole number of sixty-fourths. -/
  whole : ∃ count : ℤ, level.value = count / 64
  /-- The level is within the bound. -/
  within : |level.value| ≤ bound

/-- A finite level of so many sixty-fourths is on the scale up to 2⁴⁰ dB. -/
theorem sixtyfourths_of_value {level : Level} (count : ℤ) (finite : level.isFinite)
    (whole : level.value = count / 64) (small : |count| ≤ 2 ^ 46) :
    level.Sixtyfourths (2 ^ 40) where
  finite := finite
  whole := ⟨count, whole⟩
  within := by
    have bounded : |(count : ℚ)| ≤ 2 ^ 46 := by exact_mod_cast small
    rw [whole, abs_div, abs_of_pos (show (0 : ℚ) < 64 by norm_num)]
    linarith

/-- A level nearest to a whole number of sixty-fourths that is not huge is that number. -/
theorem Nearest.sixtyfourths {level : Level} {number bound : ℚ} (nearest : level.Nearest number)
    (count : ℤ) (whole : number = count / 64) (within : |number| ≤ bound)
    (small : bound ≤ 2 ^ 46) : level.value = number ∧ level.Sixtyfourths bound := by
  have short : |count| < 2 ^ 53 := by
    have scaled : |(count : ℚ)| = 64 * |number| := by
      rw [whole, abs_div, abs_of_pos (show (0 : ℚ) < 64 by norm_num)]
      ring
    have : |(count : ℚ)| < 2 ^ 53 := by linarith
    exact_mod_cast this
  have onGrid : OnGrid number := by
    refine ⟨count, -6, short, by decide, whole.trans ?_⟩
    rw [zpow_neg, div_eq_mul_inv]
    norm_num
  have inside : |number| < beyond :=
    (within.trans small).trans_lt (zpow_lt_zpow_right₀ (by norm_num) (show (46 : ℤ) < 1024 by decide))
  have held := nearest.eq_of_onGrid onGrid inside.le
  rw [← held] at within whole inside
  exact ⟨held, isFinite_of_value nearest.isNumber inside, ⟨count, whole⟩, within⟩

namespace Sixtyfourths

variable {level other : Level} {bound reach : ℚ}

/-- A sum on the scale is exact. -/
theorem add (scaled : level.Sixtyfourths bound) (otherScaled : other.Sixtyfourths reach)
    (small : bound + reach ≤ 2 ^ 46) :
    (level + other).value = level.value + other.value ∧
      (level + other).Sixtyfourths (bound + reach) := by
  obtain ⟨count, whole⟩ := scaled.whole
  obtain ⟨more, otherWhole⟩ := otherScaled.whole
  refine (add_nearest scaled.finite otherScaled.finite).sixtyfourths (count + more) ?_
    ((abs_add_le _ _).trans (add_le_add scaled.within otherScaled.within)) small
  rw [whole, otherWhole]
  push_cast
  ring

/-- A difference on the scale is exact. -/
theorem sub (scaled : level.Sixtyfourths bound) (otherScaled : other.Sixtyfourths reach)
    (small : bound + reach ≤ 2 ^ 46) :
    (level - other).value = level.value - other.value ∧
      (level - other).Sixtyfourths (bound + reach) := by
  obtain ⟨count, whole⟩ := scaled.whole
  obtain ⟨less, otherWhole⟩ := otherScaled.whole
  refine (sub_nearest scaled.finite otherScaled.finite).sixtyfourths (count - less) ?_
    ((abs_sub _ _).trans (add_le_add scaled.within otherScaled.within)) small
  rw [whole, otherWhole]
  push_cast
  ring

/-- An offset on the scale that is added and taken off again leaves no trace. -/
theorem back (scaled : level.Sixtyfourths (2 ^ 40)) (otherScaled : other.Sixtyfourths (2 ^ 40)) :
    (level + other - other).value = level.value ∧ (level + other - other).isFinite := by
  obtain ⟨sum, sumScaled⟩ := scaled.add otherScaled (by norm_num)
  obtain ⟨difference, differenceScaled⟩ := sumScaled.sub otherScaled (by norm_num)
  refine ⟨?_, differenceScaled.finite⟩
  rw [difference, sum, add_sub_cancel_right]

end Sixtyfourths

end Level

namespace Attenuator

/-- A healthy attenuator whose offset and whose known maximum are on the scale. -/
structure OnScale (attenuator : Attenuator) (bench : Bench) (maximum : Level) : Prop
    extends Healthy attenuator bench where
  /-- The offset is on the scale. -/
  calibrated : attenuator.offset.Sixtyfourths (2 ^ 40)
  /-- The instrument has reported the maximum. -/
  known : (attenuator.simulator bench).maximum = some maximum
  /-- The maximum is on the scale. -/
  limited : maximum.Sixtyfourths (2 ^ 40)

/-- A command is exact when it is done, its channel holds the sum of level and offset afterwards, and
a read gives the level. -/
def SetsExactly (attenuator : Attenuator) (bench : Bench) (value : Level) : Prop :=
  ∃ after raw read later, (attenuator.set value).run bench = (.done (), after) ∧
    (attenuator.simulator after).values[attenuator.index]? = some raw ∧
    (raw.isFinite ∧ raw.value = value.value + attenuator.offset.value) ∧
    attenuator.get.run after = (.done read, later) ∧
    read.isFinite ∧ read.value = value.value

variable {attenuator : Attenuator} {bench : Bench} {maximum value : Level}

/-- A healthy attenuator that accepts a level stores the raw level. -/
theorem Healthy.stores (healthy : attenuator.Healthy bench)
    (accepts : attenuator.Accepts bench value) :
    (attenuator.set value).run bench = (.done (), attenuator.driven value bench) ∧
      (attenuator.simulator (attenuator.driven value bench)).values[attenuator.index]? =
        some (attenuator.raw value) := by
  have left : ((attenuator.set value).run bench).2 = attenuator.driven value bench :=
    set_done_bench accepts
  refine ⟨Prod.ext accepts left, ?_⟩
  have answered := ((set_done_iff attenuator value bench).mp accepts).2
  have behind : attenuator.simulator (attenuator.driven value bench) =
      (attenuator.response value bench).simulator :=
    (simulator_driven attenuator value bench (attenuator.simulatorId bench)).trans (if_pos rfl)
  have stored : (attenuator.response value bench).simulator.values =
      (attenuator.simulator bench).values.set attenuator.index
        (Simulator.quantize (attenuator.simulator bench).step (attenuator.raw value)) :=
    Simulator.set_values_of_ok _ _ _ answered
  rw [behind, stored, healthy.step, List.getElem?_set_self healthy.present]
  rfl

/-- A command to an attenuator on the scale is decided by the exact sum, and is exact. -/
theorem OnScale.decided_exactly (onScale : attenuator.OnScale bench maximum)
    (scaled : value.Sixtyfourths (2 ^ 40)) :
    if value.value + attenuator.offset.value ≤ maximum.value
    then attenuator.SetsExactly bench value else attenuator.Rejects bench value maximum := by
  obtain ⟨sum, sumScaled⟩ := scaled.add onScale.calibrated (by norm_num)
  have decided := onScale.commandable.decided onScale.known scaled.finite
  have above : maximum < attenuator.raw value ↔
      maximum.value < value.value + attenuator.offset.value := by
    rw [← sum]
    exact Level.lt_iff (Level.isNaN_of_isFinite onScale.limited.finite)
      (Level.isNaN_of_isFinite sumScaled.finite)
  simp only [above] at decided
  split
  case isFalse beyond =>
    rw [if_pos (not_le.mp beyond)] at decided
    exact decided
  case isTrue within =>
    rw [if_neg within.not_gt] at decided
    obtain ⟨ran, stored⟩ := onScale.toHealthy.stores decided
    have healthy : attenuator.Healthy (attenuator.driven value bench) :=
      onScale.toHealthy.keep (kept_driven onScale.takesSets value attenuator)
    obtain ⟨same, finite⟩ := scaled.back onScale.calibrated
    exact ⟨_, _, _, _, ran, stored, ⟨sumScaled.finite, sum⟩, healthy.audible.get_done stored,
      finite, same⟩

/-- An attenuator on the scale reports the exact difference of its maximum and its offset. -/
theorem OnScale.reports (onScale : attenuator.OnScale bench maximum) :
    ∃ reported, attenuator.maximum.run bench = (.done reported, bench) ∧ reported.isFinite ∧
      reported.value = maximum.value - attenuator.offset.value := by
  obtain ⟨difference, differenceScaled⟩ := onScale.limited.sub onScale.calibrated (by norm_num)
  refine ⟨maximum - attenuator.offset, ?_, differenceScaled.finite, difference⟩
  rw [run_maximum, onScale.free, onScale.known]
  rfl

end Attenuator

namespace Group

/-- The members of a group are on channels of their own. -/
def OnOwnChannels (group : Group) (bench : Bench) : Prop :=
  (group.members.map fun member => (member.simulatorId bench, member.index)).Nodup

/-- On channels of their own, a member is the last one on its channel. -/
theorem OnOwnChannels.lastOn?_eq {group : Group} {bench : Bench}
    (apart : group.OnOwnChannels bench) {member last : Attenuator} (inside : member ∈ group.members)
    (found : group.lastOn? bench member = some last) : last = member := by
  obtain ⟨belongs, shared⟩ := List.mem_filter.mp (List.mem_of_getLast? found)
  have shared := of_decide_eq_true shared
  exact List.inj_on_of_nodup_map apart belongs inside (Prod.ext shared.1 shared.2)

/-- A group of healthy members on channels of their own, with offsets on the scale, is synchronized
after every command to a level on the scale that it accepts. -/
theorem synchronized_onScale {group commanded : Group} {bench after : Bench} {value : Level}
    (healthy : ∀ member ∈ group.members, member.Healthy bench)
    (calibrated : ∀ member ∈ group.members, member.offset.Sixtyfourths (2 ^ 40))
    (apart : group.OnOwnChannels bench) (scaled : value.Sixtyfourths (2 ^ 40))
    (done : (group.set value).run bench = (.done commanded, after)) :
    ∃ later, commanded.isSynchronized.run after = (.done true, later) := by
  obtain ⟨accepted, rfl, rfl⟩ := of_set_done done
  have audible (member : Attenuator) (inside : member ∈ group.members) :
      member.Audible ((group.reached value bench group.size).record
        [.groupSet group.name group.size value]) :=
    ((healthy member inside).keep ((reached_keeps healthy value group.size member).trans
      (Attenuator.Undisturbed.record member _ _).toKept)).audible
  obtain ⟨answer, later, asked, -, all⟩ := allRead_audible audible value
  have yes : answer = true := all.mpr fun member inside => by
    obtain ⟨last, found, stored⟩ := accepted.holds_last inside
    rw [apart.lastOn?_eq inside found, (healthy member inside).step] at stored
    obtain ⟨same, finite⟩ := scaled.back (calibrated member inside)
    exact ⟨_, stored, (Level.beq_iff (Level.isNaN_of_isFinite finite)
      (Level.isNaN_of_isFinite scaled.finite)).mpr same⟩
  rw [yes] at asked
  exact ⟨later, asked⟩

end Group

/-- **On a scale of sixty-fourths of a decibel everything is exact.** Take offsets, maxima and levels
that are whole numbers of sixty-fourths with magnitudes of up to 2⁴⁰ dB. A command to a healthy
attenuator is done if the exact sum of level and offset is not above the maximum, and then the
channel holds this sum and a read gives the level; otherwise the command is rejected without a call
to the instrument. The reported maximum is the exact difference. A group of such attenuators on
channels of their own is synchronized after every command that is done. -/
theorem exact_onScale (bench : Bench) :
    (∀ (attenuator : Attenuator) (maximum : Level), attenuator.OnScale bench maximum →
      (∀ value : Level, value.Sixtyfourths (2 ^ 40) →
        if value.value + attenuator.offset.value ≤ maximum.value
        then attenuator.SetsExactly bench value else attenuator.Rejects bench value maximum) ∧
      ∃ reported, attenuator.maximum.run bench = (.done reported, bench) ∧ reported.isFinite ∧
        reported.value = maximum.value - attenuator.offset.value) ∧
    ∀ (group : Group), (∀ member ∈ group.members, ∃ maximum, member.OnScale bench maximum) →
      group.OnOwnChannels bench → ∀ (value : Level) (commanded : Group) (after : Bench),
      value.Sixtyfourths (2 ^ 40) → (group.set value).run bench = (.done commanded, after) →
      ∃ later, commanded.isSynchronized.run after = (.done true, later) := by
  constructor
  · intro attenuator maximum onScale
    exact ⟨fun value scaled => onScale.decided_exactly scaled, onScale.reports⟩
  · intro group members apart value commanded after scaled done
    refine Group.synchronized_onScale (fun member inside => ?_) (fun member inside => ?_) apart
      scaled done
    · obtain ⟨maximum, onScale⟩ := members member inside
      exact onScale.toHealthy
    · obtain ⟨maximum, onScale⟩ := members member inside
      exact onScale.calibrated

/-- Two channels of an instrument with offsets of half a decibel and of minus a quarter. -/
def Group.offsetPair : Group where
  name := "pair"
  members := [⟨0, "SIM-4", 0, 0.5, none⟩, ⟨0, "SIM-4", 1, -0.25, none⟩]
  lastCommanded := 0.0

/-- The two channels are on the scale. -/
theorem Group.onScale_offsetPair :
    ∀ member ∈ offsetPair.members, member.OnScale fourChannels 95.0 := by
  have limited : Level.Sixtyfourths (2 ^ 40) 95.0 :=
    Level.sixtyfourths_of_value (95 * 64) (by rfl) (by
      change ((95 * 2 ^ 46 : Nat) : ℚ) * 2 ^ (-46 : ℤ) = _
      norm_num) (by decide)
  have half : Level.Sixtyfourths (2 ^ 40) 0.5 :=
    Level.sixtyfourths_of_value 32 (by rfl) (by
      change ((2 ^ 52 : Nat) : ℚ) * 2 ^ (-53 : ℤ) = _
      norm_num) (by decide)
  have quarter : Level.Sixtyfourths (2 ^ 40) (-0.25) :=
    Level.sixtyfourths_of_value (-16) (by rfl) (by
      change -(((2 ^ 52 : Nat) : ℚ) * 2 ^ (-54 : ℤ)) = _
      norm_num) (by decide)
  have healthy (index : Nat) (present : index < 4) (offset : Level) :
      (Attenuator.mk 0 "SIM-4" index offset none).Healthy fourChannels :=
    ⟨rfl, nofun, nofun, rfl, rfl, rfl, rfl, present⟩
  simp only [offsetPair, List.forall_mem_cons]
  exact ⟨⟨healthy 0 (by decide) _, half, rfl, limited⟩,
    ⟨healthy 1 (by decide) _, quarter, rfl, limited⟩, nofun⟩

/-- With an offset of half a decibel and a maximum of 95 dB, 94.5 dB is stored and read back exactly,
a sixty-fourth more is rejected, and a group with another offset beside it is synchronized. -/
theorem exact_onScale_offsetPair :
    (Attenuator.mk 0 "SIM-4" 0 0.5 none).SetsExactly Group.fourChannels 94.5 ∧
    (Attenuator.mk 0 "SIM-4" 0 0.5 none).Rejects Group.fourChannels 94.515625 95.0 ∧
    ∃ commanded after later,
      (Group.offsetPair.set 94.5).run Group.fourChannels = (.done commanded, after) ∧
      commanded.isSynchronized.run after = (.done true, later) := by
  have reached : Level.value 94.5 = (6048 : ℤ) / 64 := by
    change ((94 * 2 ^ 46 + 2 ^ 45 : Nat) : ℚ) * 2 ^ (-46 : ℤ) = _
    norm_num
  have missed : Level.value 94.515625 = (6049 : ℤ) / 64 := by
    change ((94 * 2 ^ 46 + 33 * 2 ^ 40 : Nat) : ℚ) * 2 ^ (-46 : ℤ) = _
    norm_num
  have half : Level.value 0.5 = 1 / 2 := by
    change ((2 ^ 52 : Nat) : ℚ) * 2 ^ (-53 : ℤ) = _
    norm_num
  have limit : Level.value 95.0 = 95 := by
    change ((95 * 2 ^ 46 : Nat) : ℚ) * 2 ^ (-46 : ℤ) = _
    norm_num
  obtain ⟨attenuators, groups⟩ := exact_onScale Group.fourChannels
  obtain ⟨commands, -⟩ := attenuators _ _ (Group.onScale_offsetPair _ List.mem_cons_self)
  have scaled := Level.sixtyfourths_of_value _ (by rfl) reached (by decide)
  have exact := commands 94.5 scaled
  have beyond := commands 94.515625 (Level.sixtyfourths_of_value _ (by rfl) missed (by decide))
  rw [reached, half, limit, if_pos (by norm_num)] at exact
  rw [missed, half, limit, if_neg (by norm_num)] at beyond
  have done : ((Group.offsetPair.set 94.5).run Group.fourChannels).1.isDone := by decide +kernel
  obtain ⟨commanded, after, ran⟩ := Action.exists_of_isDone done
  obtain ⟨later, asked⟩ := groups Group.offsetPair
    (fun member inside => ⟨95.0, Group.onScale_offsetPair member inside⟩)
    (by unfold Group.OnOwnChannels; decide) 94.5 commanded after scaled ran
  exact ⟨exact, beyond, commanded, after, later, ran, asked⟩

end Attenuation
