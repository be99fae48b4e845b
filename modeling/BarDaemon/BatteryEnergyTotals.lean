import BarDaemon.BatteryEnergy
import Mathlib.Algebra.Order.BigOperators.Group.List
import Mathlib.Algebra.Order.Group.Nat

/-!
# Totals of the energy bins

No bin loses or gains time or energy where a pair is split.
-/

namespace BarDaemon.BatteryEnergy

open BatteryHistory SortedEntries

/-! ### Arithmetic -/

theorem checkedAdd_eq {first second : Nat} (fits : first + second ≤ u64Max) :
    checkedAdd first second = some (first + second) :=
  if_pos fits

theorem checkedSub_eq {first second : Nat} (fits : second ≤ first) :
    checkedSub first second = some (first - second) :=
  if_pos fits

theorem checkedMul_eq {first second : Nat} (fits : first * second ≤ u64Max) :
    checkedMul first second = some (first * second) :=
  if_pos fits

theorem ratio_eq {numerator denominator : Rat} (nonzero : denominator ≠ 0) :
    ratio numerator denominator = some (numerator / denominator) :=
  if_neg nonzero

/-! ### Segments -/

namespace DischargeSegment

variable {segment : DischargeSegment}

/-- The power at a time, which changes evenly. -/
def power (segment : DischargeSegment) (time : Nat) : Rat :=
  segment.startWatts + (segment.endWatts - segment.startWatts) *
    (time - segment.start) / (segment.stop - segment.start)

/-- The energy up to a time. -/
def work (segment : DischargeSegment) (time : Nat) : Rat :=
  (segment.startWatts + segment.power time) / 2 * (time - segment.start) / 3600000

theorem powerAt_eq (proper : segment.start < segment.stop) {time : Nat}
    (after : segment.start ≤ time) :
    segment.powerAt time = some (segment.power time) := by
  have length : ((segment.stop - segment.start : Nat) : Rat) ≠ 0 := by
    have positive : 0 < segment.stop - segment.start := by omega
    exact_mod_cast positive.ne'
  rw [powerAt, checkedSub_eq after, checkedSub_eq proper.le]
  simp only [Option.bind_eq_bind, Option.bind_some, ratio_eq length]
  rw [power, Nat.cast_sub after, Nat.cast_sub proper.le]
  rfl

/-- The trapezoid between two times is what the work grows by. -/
theorem work_sub (proper : segment.start < segment.stop) {first last : Nat} :
    (segment.power first / 2 + segment.power last / 2) * ((last : Rat) - first) /
      3600000 = segment.work last - segment.work first := by
  have length : (segment.stop : Rat) - segment.start ≠ 0 := by
    have different : (segment.start : Rat) < segment.stop := by exact_mod_cast proper
    linarith
  unfold work power
  field_simp
  ring

theorem work_start : segment.work segment.start = 0 := by
  unfold work
  ring

theorem work_stop (proper : segment.start < segment.stop) :
    segment.work segment.stop = (segment.startWatts + segment.endWatts) / 2 *
      ((segment.stop : Rat) - segment.start) / 3600000 := by
  have length : (segment.stop : Rat) - segment.start ≠ 0 := by
    have different : (segment.start : Rat) < segment.stop := by exact_mod_cast proper
    linarith
  unfold work power
  field_simp
  ring

end DischargeSegment

/-! ### Rounds -/

/-- Bins that cover a duration. -/
structure Axis (duration interval : Nat) : Prop where
  positive : 0 < interval
  fits : duration ≤ u64Max
  covers : duration ≤ 48 * interval

/-- A segment lies on the axis. -/
structure DischargeSegment.On (segment : DischargeSegment) (duration : Nat) :
    Prop where
  proper : segment.start < segment.stop
  within : segment.stop ≤ duration

def emptyBin (duration interval index : Nat) : EnergyBin where
  x0 := (index * interval : Nat) / duration
  x1 := (min duration ((index + 1) * interval) : Nat) / duration
  value := 0
  observedMs := 0

variable {duration interval : Nat} {segment : DischargeSegment}

/-- Where the bin of a time begins and ends. -/
theorem bin_bounds (axis : Axis duration interval) (time : Nat) :
    time / interval * interval ≤ time ∧
      time < (time / interval + 1) * interval :=
  ⟨Nat.div_mul_le_self time interval,
    (Nat.div_lt_iff_lt_mul axis.positive).mp (Nat.lt_succ_self _)⟩

/-- A round goes on to the end of the segment or of its bin. -/
theorem round_eq (axis : Axis duration interval) (onAxis : segment.On duration)
    {offset : Nat} (after : segment.start ≤ offset) (before : offset < segment.stop)
    (bins : List (Nat × EnergyBin)) :
    ∃ last, offset < last ∧ last ≤ segment.stop ∧
      last ≤ (offset / interval + 1) * interval ∧
      segment.round duration interval offset bins =
        some (last, change (offset / interval) (fun bin =>
          (bin.getD (emptyBin duration interval (offset / interval))).add
            (segment.work last - segment.work offset) (last - offset)) bins) := by
  obtain ⟨low, high⟩ := bin_bounds axis offset
  have fits := axis.fits
  have within := onAxis.within
  have small : offset / interval + 1 ≤ u64Max := by
    have quotient := Nat.div_le_self offset interval
    omega
  have boundary : min segment.stop
      (saturatingMul (offset / interval + 1) interval) =
        min segment.stop ((offset / interval + 1) * interval) := by
    unfold saturatingMul
    omega
  have edge : min duration (saturatingMul (offset / interval + 1) interval) =
      min duration ((offset / interval + 1) * interval) := by
    unfold saturatingMul
    omega
  have nonzero : (duration : Rat) ≠ 0 := by
    have positive : duration ≠ 0 := by omega
    exact_mod_cast positive
  refine ⟨min segment.stop ((offset / interval + 1) * interval), ?_, ?_, ?_, ?_⟩
  · omega
  · exact Nat.min_le_left _ _
  · exact Nat.min_le_right _ _
  · have onwards : offset ≤ min segment.stop ((offset / interval + 1) * interval) := by
      omega
    rw [DischargeSegment.round, checkedDiv, if_neg axis.positive.ne',
      Option.bind_eq_bind, Option.bind_some, checkedAdd_eq small]
    simp only [Option.bind_eq_bind, Option.bind_some, boundary, edge,
      checkedMul_eq (low.trans (by omega : offset ≤ u64Max)), ratio_eq nonzero,
      checkedSub_eq onwards, DischargeSegment.powerAt_eq onAxis.proper after,
      DischargeSegment.powerAt_eq onAxis.proper (after.trans onwards)]
    rw [Nat.cast_sub onwards, DischargeSegment.work_sub onAxis.proper]
    rfl

/-! ### Bins -/

/-- The time that all bins have observed. -/
def observed (bins : List (Nat × EnergyBin)) : Nat :=
  (bins.map fun entry => entry.2.observedMs).sum

def total (bins : List (Nat × EnergyBin)) : Rat :=
  (bins.map fun entry => entry.2.value).sum

/-- A bin has its place on the axis. -/
structure Placed (duration interval : Nat) (entry : Nat × EnergyBin) : Prop where
  inside : entry.1 * interval < duration
  x0 : entry.2.x0 = (emptyBin duration interval entry.1).x0
  x1 : entry.2.x1 = (emptyBin duration interval entry.1).x1

/-- What a bin has observed lies between its start and a time. -/
def Covered (interval time : Nat) (entry : Nat × EnergyBin) : Prop :=
  entry.1 * interval + entry.2.observedMs ≤ min time ((entry.1 + 1) * interval)

/-- The bins have grown by some energy and time. -/
structure Grown (duration interval : Nat) (energy : Rat) (time : Nat)
    (bins after : List (Nat × EnergyBin)) : Prop where
  sorted : Sorted bins → Sorted after
  placed : (∀ entry ∈ bins, Placed duration interval entry) →
    ∀ entry ∈ after, Placed duration interval entry
  value : total after = total bins + energy
  observed : observed bins + time ≤ u64Max → observed after = observed bins + time

/-- They have grown between two times. -/
structure Grows (duration interval first last : Nat) (energy : Rat) (time : Nat)
    (bins after : List (Nat × EnergyBin)) : Prop extends
    Grown duration interval energy time bins after where
  covered : (∀ entry ∈ bins, Covered interval first entry) →
    ∀ entry ∈ after, Covered interval last entry

theorem Covered.mono {first last : Nat} {entry : Nat × EnergyBin}
    (covered : Covered interval first entry) (later : first ≤ last) :
    Covered interval last entry := by
  unfold Covered at *
  omega

theorem Grown.refl (bins : List (Nat × EnergyBin)) :
    Grown duration interval 0 0 bins bins where
  sorted := id
  placed := id
  value := (add_zero _).symm
  observed _ := rfl

theorem Grown.trans {time later : Nat} {energy more : Rat}
    {bins between after : List (Nat × EnergyBin)}
    (begins : Grown duration interval energy time bins between)
    (ends : Grown duration interval more later between after) :
    Grown duration interval (energy + more) (time + later) bins after where
  sorted := ends.sorted ∘ begins.sorted
  placed := ends.placed ∘ begins.placed
  value := by rw [ends.value, begins.value, add_assoc]
  observed fits := by
    have first := begins.observed (by omega)
    have second := ends.observed (by omega)
    omega

theorem Grows.refl {first last : Nat} (later : first ≤ last)
    (bins : List (Nat × EnergyBin)) :
    Grows duration interval first last 0 0 bins bins where
  toGrown := Grown.refl bins
  covered each entry among := (each entry among).mono later

theorem Grows.trans {first middle last time later : Nat} {energy more : Rat}
    {bins between after : List (Nat × EnergyBin)}
    (begins : Grows duration interval first middle energy time bins between)
    (ends : Grows duration interval middle last more later between after) :
    Grows duration interval first last (energy + more) (time + later) bins
      after where
  toGrown := begins.toGrown.trans ends.toGrown
  covered := ends.covered ∘ begins.covered

theorem observedMs_le {bins : List (Nat × EnergyBin)} {entry : Nat × EnergyBin}
    (among : entry ∈ bins) : entry.2.observedMs ≤ observed bins :=
  List.le_sum_of_mem (List.mem_map_of_mem among)

theorem change_grows (axis : Axis duration interval) {offset last : Nat}
    (energy : Rat) (onwards : offset < last) (within : last ≤ duration)
    (inBin : last ≤ (offset / interval + 1) * interval)
    (bins : List (Nat × EnergyBin)) :
    Grows duration interval offset last energy (last - offset) bins
      (change (offset / interval) (fun bin =>
        (bin.getD (emptyBin duration interval (offset / interval))).add energy
          (last - offset)) bins) := by
  obtain ⟨low, high⟩ := bin_bounds axis offset
  have fits := axis.fits
  refine ⟨⟨sorted_change, ?_, ?_, ?_⟩, ?_⟩
  · intro each
    have inside : offset / interval * interval < duration := by omega
    apply forall_change each
    · exact ⟨inside, rfl, rfl⟩
    · intro bin among
      obtain ⟨_, x0, x1⟩ := each _ among
      exact ⟨inside, x0, x1⟩
  · apply sum_change
    · exact zero_add energy
    · exact fun bin _ => rfl
  · intro small
    apply sum_change
    · change saturatingAdd 0 (last - offset) = _
      rw [saturatingAdd_eq (by omega), Nat.zero_add]
    · intro bin among
      have part : bin.observedMs ≤ observed bins := observedMs_le among
      change saturatingAdd bin.observedMs (last - offset) = _
      exact saturatingAdd_eq (by omega)
  · intro each
    have capped {time : Nat} : saturatingAdd time (last - offset) ≤
        time + (last - offset) := Nat.min_le_left _ _
    apply forall_change fun entry among => (each entry among).mono onwards.le
    · have fresh := @capped 0
      change offset / interval * interval + saturatingAdd 0 (last - offset) ≤ _
      dsimp only
      omega
    · intro bin among
      have old := each _ among
      have grown := @capped bin.observedMs
      unfold Covered at old
      change offset / interval * interval +
        saturatingAdd bin.observedMs (last - offset) ≤ _
      dsimp only at old ⊢
      omega

/-! ### Segments on the axis -/

theorem accumulate_grows (axis : Axis duration interval) (onAxis : segment.On duration)
    {rounds offset : Nat} (after : segment.start ≤ offset)
    (before : offset ≤ segment.stop) (enough : segment.stop - offset ≤ rounds)
    (bins : List (Nat × EnergyBin)) :
    ∃ grown, segment.accumulate duration interval rounds offset bins = some grown ∧
      Grows duration interval offset segment.stop
        (segment.work segment.stop - segment.work offset) (segment.stop - offset)
        bins grown := by
  induction rounds generalizing offset bins with
  | zero =>
      have same : offset = segment.stop := by omega
      refine ⟨bins, ?_, ?_⟩
      · rw [DischargeSegment.accumulate, if_neg (by omega)]
      · rw [same, sub_self, Nat.sub_self]
        exact Grows.refl (Nat.le_refl _) bins
  | succ rounds ih =>
      by_cases more : offset < segment.stop
      · obtain ⟨last, onwards, within, inBin, went⟩ :=
          round_eq axis onAxis after more bins
        have grown := change_grows axis (segment.work last - segment.work offset)
          onwards (within.trans onAxis.within) inBin bins
        obtain ⟨after, accumulated, grows⟩ := ih (after.trans onwards.le) within
          (by omega) _
        refine ⟨after, ?_, ?_⟩
        · rw [DischargeSegment.accumulate, if_pos more, went]
          exact accumulated
        · have both := grown.trans grows
          have energy : segment.work last - segment.work offset +
              (segment.work segment.stop - segment.work last) =
                segment.work segment.stop - segment.work offset := by
            ring
          have time : last - offset + (segment.stop - last) =
              segment.stop - offset := by
            omega
          rw [energy, time] at both
          exact both
      · have same : offset = segment.stop := by omega
        refine ⟨bins, ?_, ?_⟩
        · rw [DischargeSegment.accumulate, if_neg more]
        · rw [same, sub_self, Nat.sub_self]
          exact Grows.refl (Nat.le_refl _) bins

/-! ### Pairs -/

/-- The time of a pair that qualifies. -/
def pairTime (pair : BatteryHistoryPoint × BatteryHistoryPoint) : Nat :=
  if qualifies pair.1 pair.2 then pair.2.activeTimeMs - pair.1.activeTimeMs else 0

/-- The energy of a pair that qualifies, in watt hours. -/
def pairEnergy (pair : BatteryHistoryPoint × BatteryHistoryPoint) : Rat :=
  if qualifies pair.1 pair.2 then
    (watts pair.1.powerWatts + watts pair.2.powerWatts) / 2 *
      ((pair.2.activeTimeMs : Rat) - pair.1.activeTimeMs) / 3600000
  else 0

/-- A point that was observed lies between an origin and the end of a duration. -/
def OnAxis (origin duration : Nat) (point : BatteryHistoryPoint) : Prop :=
  0 < point.timestampMs →
    origin ≤ point.activeTimeMs ∧ point.activeTimeMs ≤ origin + duration

theorem ordered_of_qualifies {previous point : BatteryHistoryPoint}
    (qualified : qualifies previous point = true) :
    0 < previous.timestampMs ∧ 0 < point.timestampMs ∧
      previous.activeTimeMs < point.activeTimeMs := by
  simp only [qualifies, Bool.not_eq_true', Bool.or_eq_false_iff,
    decide_eq_false_iff_not, beq_eq_false_iff_ne] at qualified
  omega

theorem accumulatePair_grows (axis : Axis duration interval) {origin : Nat}
    {previous point : BatteryHistoryPoint}
    (first : OnAxis origin duration previous) (last : OnAxis origin duration point)
    (bins : List (Nat × EnergyBin)) :
    ∃ grown, accumulatePair origin duration interval bins (previous, point) =
        some grown ∧
      Grows duration interval (previous.activeTimeMs - origin)
        (max (previous.activeTimeMs - origin) (point.activeTimeMs - origin))
        (pairEnergy (previous, point)) (pairTime (previous, point)) bins grown := by
  by_cases qualified : qualifies previous point = true
  · obtain ⟨early, late, ordered⟩ := ordered_of_qualifies qualified
    have begins := first early
    have ends := last late
    let segment : DischargeSegment := {
      start := previous.activeTimeMs - origin
      stop := point.activeTimeMs - origin
      startWatts := watts previous.powerWatts
      endWatts := watts point.powerWatts }
    have onAxis : segment.On duration := by
      constructor
      · change previous.activeTimeMs - origin < point.activeTimeMs - origin
        omega
      · change point.activeTimeMs - origin ≤ duration
        omega
    obtain ⟨grown, accumulated, grows⟩ := accumulate_grows axis onAxis
      (Nat.le_refl _) onAxis.proper.le (Nat.le_refl _) bins
    refine ⟨grown, ?_, ?_⟩
    · rw [accumulatePair, DischargeSegment.between, if_pos qualified]
      exact accumulated
    · rw [DischargeSegment.work_start, sub_zero,
        DischargeSegment.work_stop onAxis.proper] at grows
      have later : max (previous.activeTimeMs - origin)
          (point.activeTimeMs - origin) = segment.stop :=
        Nat.max_eq_right onAxis.proper.le
      have time : pairTime (previous, point) = segment.stop - segment.start := by
        rw [pairTime, if_pos qualified]
        change _ = point.activeTimeMs - origin - (previous.activeTimeMs - origin)
        dsimp only
        omega
      have energy : pairEnergy (previous, point) =
          (segment.startWatts + segment.endWatts) / 2 *
            ((segment.stop : Rat) - segment.start) / 3600000 := by
        rw [pairEnergy, if_pos qualified, Nat.cast_sub ends.1, Nat.cast_sub begins.1]
        ring
      rw [later, time, energy]
      exact grows
  · refine ⟨bins, ?_, ?_⟩
    · rw [accumulatePair, DischargeSegment.between, if_neg qualified]
    · rw [pairEnergy, pairTime, if_neg qualified, if_neg qualified]
      exact Grows.refl (Nat.le_max_left _ _) bins

def pairs (points : List BatteryHistoryPoint) :
    List (BatteryHistoryPoint × BatteryHistoryPoint) :=
  points.zip points.tail

/-- The active times do not go back. -/
def Forward (points : List BatteryHistoryPoint) : Prop :=
  points.Pairwise fun earlier later => earlier.activeTimeMs ≤ later.activeTimeMs

theorem pairs_grow (axis : Axis duration interval) {origin : Nat}
    (points : List BatteryHistoryPoint)
    (onAxis : ∀ point ∈ points, OnAxis origin duration point)
    (bins : List (Nat × EnergyBin)) :
    ∃ grown, (pairs points).foldlM (accumulatePair origin duration interval) bins =
        some grown ∧
      Grown duration interval ((pairs points).map pairEnergy).sum
        ((pairs points).map pairTime).sum bins grown ∧
      (Forward points →
        (∀ entry ∈ bins, ∀ point ∈ points.head?,
          Covered interval (point.activeTimeMs - origin) entry) →
        ∀ entry ∈ grown, ∀ point ∈ points.getLast?,
          Covered interval (point.activeTimeMs - origin) entry) := by
  induction points generalizing bins with
  | nil => exact ⟨bins, rfl, Grown.refl bins, fun _ _ _ _ _ never => by cases never⟩
  | cons point points ih =>
      cases points with
      | nil => exact ⟨bins, rfl, Grown.refl bins, fun _ each => each⟩
      | cons next points =>
          obtain ⟨here, rest⟩ := List.forall_mem_cons.mp onAxis
          obtain ⟨between, accumulated, first⟩ := accumulatePair_grows axis here
            (rest next List.mem_cons_self) bins
          obtain ⟨grown, folded, second, covers⟩ := ih rest between
          refine ⟨grown, ?_, first.toGrown.trans second, ?_⟩
          · change (accumulatePair origin duration interval bins (point, next) >>=
              fun bins => (pairs (next :: points)).foldlM _ bins) = _
            rw [accumulated]
            exact folded
          · intro forward each
            obtain ⟨ahead, onwards⟩ := List.pairwise_cons.mp forward
            have step := ahead next List.mem_cons_self
            have later : max (point.activeTimeMs - origin)
                (next.activeTimeMs - origin) = next.activeTimeMs - origin := by
              omega
            rw [later] at first
            have covered := first.covered fun entry among =>
              each entry among point rfl
            rw [List.getLast?_cons_cons]
            apply covers onwards
            rintro entry among _ ⟨⟩
            exact covered entry among

end BarDaemon.BatteryEnergy
