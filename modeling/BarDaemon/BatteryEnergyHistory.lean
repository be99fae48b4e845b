import BarDaemon.BatteryEnergyTotals

/-!
# The energy history of any points

The bins hold the time and the energy of the pairs that qualify, exactly when
that time can be counted.
-/

namespace BarDaemon.BatteryEnergy

open BatteryHistory SortedEntries

variable {points : List BatteryHistoryPoint}

/-- The active time of the pairs that qualify. -/
def qualifyingTime (points : List BatteryHistoryPoint) : Nat :=
  ((pairs points).map pairTime).sum

/-- Their energy, a trapezoid each. -/
def qualifyingEnergy (points : List BatteryHistoryPoint) : Rat :=
  ((pairs points).map pairEnergy).sum

/-- The bins hold what the pairs hold. -/
structure Conserves (points : List BatteryHistoryPoint) (history : EnergyHistory) :
    Prop where
  inside : ∀ bin ∈ history.bars, 0 ≤ bin.x0 ∧ bin.x0 < bin.x1 ∧ bin.x1 ≤ 1
  disjoint : history.bars.Pairwise fun earlier later => earlier.x1 ≤ later.x0
  few : history.bars.length ≤ 48
  time : (history.bars.map EnergyBin.observedMs).sum = qualifyingTime points
  observed : history.observedMs = qualifyingTime points
  energy : (history.bars.map EnergyBin.value).sum = qualifyingEnergy points
  bounded : Forward points →
    ∀ bin ∈ history.bars, bin.observedMs ≤ history.intervalMs

/-! ### The axis of some points -/

def origin (points : List BatteryHistoryPoint) : Nat :=
  (observedTimes points).min?.getD 0

def ending (points : List BatteryHistoryPoint) : Nat :=
  (observedTimes points).max?.getD 0

theorem between_ends {point : BatteryHistoryPoint} (among : point ∈ points)
    (seen : 0 < point.timestampMs) :
    origin points ≤ point.activeTimeMs ∧ point.activeTimeMs ≤ ending points := by
  have time : point.activeTimeMs ∈ observedTimes points :=
    List.mem_map_of_mem (List.mem_filter.mpr ⟨among, decide_eq_true seen⟩)
  exact ⟨List.min?_getD_le_of_mem time, List.le_max?_getD_of_mem time⟩

theorem origin_le_ending (points : List BatteryHistoryPoint) :
    origin points ≤ ending points := by
  unfold origin ending
  cases times : observedTimes points with
  | nil => exact Nat.le_refl 0
  | cons time rest =>
      have among : time ∈ time :: rest := List.mem_cons_self
      exact Nat.le_trans (List.min?_getD_le_of_mem among)
        (List.le_max?_getD_of_mem among)

theorem ending_le (u64 : ∀ point ∈ points, point.activeTimeMs ≤ u64Max) :
    ending points ≤ u64Max := by
  unfold ending
  cases last : (observedTimes points).max? with
  | none => exact Nat.zero_le _
  | some time =>
      obtain ⟨point, among, rfl⟩ := List.mem_map.mp (List.max?_mem last)
      exact u64 point (List.mem_filter.mp among).1

/-- How long the bins are, for a duration. -/
def intervalOf (duration : Nat) : Nat :=
  max (duration / (48 * 900000) +
    if duration % (48 * 900000) = 0 then 0 else 1) 1 * 900000

theorem axis_of (points : List BatteryHistoryPoint)
    (u64 : ∀ point ∈ points, point.activeTimeMs ≤ u64Max) :
    Axis (ending points - origin points)
      (intervalOf (ending points - origin points)) := by
  have last := ending_le u64
  unfold intervalOf
  constructor
  · omega
  · omega
  · split <;> omega

theorem intervalOf_le {duration : Nat} (fits : duration ≤ u64Max) :
    intervalOf duration ≤ u64Max := by
  unfold intervalOf
  unfold u64Max at *
  split <;> omega

/-! ### Sums -/

theorem foldlM_checkedAdd {bins : List EnergyBin} {start : Nat}
    (fits : start + (bins.map EnergyBin.observedMs).sum ≤ u64Max) :
    bins.foldlM (fun sum bin => checkedAdd sum bin.observedMs) start =
      some (start + (bins.map EnergyBin.observedMs).sum) := by
  induction bins generalizing start with
  | nil => rfl
  | cons bin bins ih =>
      rw [List.map_cons, List.sum_cons, ← Nat.add_assoc] at fits ⊢
      rw [List.foldlM_cons, checkedAdd_eq (by omega)]
      exact ih fits

/-- A sum that is counted can be held. -/
theorem le_of_foldlM_checkedAdd {bins : List EnergyBin} {start sum : Nat}
    (small : start ≤ u64Max)
    (counted : bins.foldlM (fun sum bin => checkedAdd sum bin.observedMs) start =
      some sum) : sum ≤ u64Max := by
  induction bins generalizing start with
  | nil =>
      cases counted
      exact small
  | cons bin bins ih =>
      rw [List.foldlM_cons] at counted
      obtain ⟨next, added, counted⟩ := Option.bind_eq_some_iff.mp counted
      unfold checkedAdd at added
      split at added
      · cases added
        exact ih ‹_› counted
      · cases added

/-! ### Bars -/

variable {duration interval : Nat}

theorem placed_inside (axis : Axis duration interval) {entry : Nat × EnergyBin}
    (placed : Placed duration interval entry) :
    0 ≤ entry.2.x0 ∧ entry.2.x0 < entry.2.x1 ∧ entry.2.x1 ≤ 1 := by
  have inside := placed.inside
  have positive : (0 : Rat) < duration := by
    have wide : 0 < duration := by omega
    exact_mod_cast wide
  rw [placed.x0, placed.x1]
  refine ⟨?_, ?_, ?_⟩
  · exact div_nonneg (Nat.cast_nonneg _) positive.le
  · apply (div_lt_div_iff_of_pos_right positive).mpr
    have wider : entry.1 * interval < min duration ((entry.1 + 1) * interval) := by
      have width := axis.positive
      rw [Nat.succ_mul]
      omega
    exact_mod_cast wider
  · apply (div_le_one₀ positive).mpr
    exact_mod_cast Nat.min_le_left duration _

theorem placed_disjoint {first second : Nat × EnergyBin} (ordered : first.1 < second.1)
    (firstPlaced : Placed duration interval first)
    (secondPlaced : Placed duration interval second) :
    first.2.x1 ≤ second.2.x0 := by
  have inside := secondPlaced.inside
  have positive : (0 : Rat) < duration := by
    have wide : 0 < duration := by omega
    exact_mod_cast wide
  have apart : min duration ((first.1 + 1) * interval) ≤ second.1 * interval :=
    Nat.le_trans (Nat.min_le_right _ _) (Nat.mul_le_mul_right interval ordered)
  rw [firstPlaced.x1, secondPlaced.x0]
  apply (div_le_div_iff_of_pos_right positive).mpr
  exact_mod_cast apart

theorem placed_few (axis : Axis duration interval) {bins : List (Nat × EnergyBin)}
    (sorted : Sorted bins)
    (placed : ∀ entry ∈ bins, Placed duration interval entry) :
    bins.length ≤ 48 := by
  apply length_le sorted
  intro entry among
  have inside := (placed entry among).inside
  have covers := axis.covers
  exact Nat.lt_of_mul_lt_mul_right (Nat.lt_of_lt_of_le inside covers)

/-! ### Conservation -/

/-- The bins of some points, and what is counted of them. -/
theorem energy_eq (u64 : ∀ point ∈ points, point.activeTimeMs ≤ u64Max) :
    ∃ bins, Grown (ending points - origin points)
        (intervalOf (ending points - origin points)) (qualifyingEnergy points)
        (qualifyingTime points) [] bins ∧
      (Forward points → ∀ entry ∈ bins,
        entry.2.observedMs ≤ intervalOf (ending points - origin points)) ∧
      energy points = ((bins.map Prod.snd).foldlM (fun sum bin =>
        checkedAdd sum bin.observedMs) 0).map fun observedMs =>
          { bars := bins.map Prod.snd
            maximum := ((bins.map Prod.snd).map EnergyBin.value).foldl max 0
            totalWh := ((bins.map Prod.snd).map EnergyBin.value).sum
            intervalMs := intervalOf (ending points - origin points)
            activeDurationMs := ending points - origin points
            observedMs } := by
  have axis := axis_of points u64
  have ordered := origin_le_ending points
  have onAxis : ∀ point ∈ points,
      OnAxis (origin points) (ending points - origin points) point := by
    intro point among seen
    obtain ⟨first, last⟩ := between_ends among seen
    omega
  obtain ⟨bins, folded, grown, covers⟩ := pairs_grow axis points onAxis []
  refine ⟨bins, grown, ?_, ?_⟩
  · intro forward entry among
    cases last : points.getLast? with
    | none =>
        cases List.getLast?_eq_none_iff.mp last
        cases folded
        cases among
    | some point =>
        have covered := covers forward nofun entry among point last
        unfold Covered at covered
        rw [Nat.succ_mul] at covered
        omega
  · have small : max ((ending points - origin points) / (48 * 900000) +
        if (ending points - origin points) % (48 * 900000) = 0 then 0 else 1) 1 *
          900000 ≤ u64Max := intervalOf_le axis.fits
    unfold energy
    change (checkedSub (ending points) (origin points)).bind _ = _
    rw [checkedSub_eq ordered, Option.bind_some]
    change (checkedMul _ 900000).bind _ = _
    rw [checkedMul_eq small, Option.bind_some]
    change ((pairs points).foldlM (accumulatePair (origin points)
      (ending points - origin points)
      (intervalOf (ending points - origin points))) []).bind _ = _
    rw [folded, Option.bind_some]
    exact Option.map_eq_bind.symm

/-- The bins hold the time and the energy of the pairs that qualify exactly when
that time fits its counter. -/
theorem energy_conserves_iff (points : List BatteryHistoryPoint)
    (u64 : ∀ point ∈ points, point.activeTimeMs ≤ u64Max) :
    (∃ history, energy points = some history ∧ Conserves points history) ↔
      qualifyingTime points ≤ u64Max := by
  obtain ⟨bins, grown, covers, counted⟩ := energy_eq u64
  have axis := axis_of points u64
  constructor
  · rintro ⟨history, found, conserves⟩
    rw [counted] at found
    obtain ⟨observedMs, added, rfl⟩ := Option.map_eq_some_iff.mp found
    rw [← conserves.observed]
    exact le_of_foldlM_checkedAdd (Nat.zero_le _) added
  · intro fits
    have sorted := grown.sorted List.Pairwise.nil
    have placed := grown.placed (fun _ never => (List.not_mem_nil never).elim)
    have time : ((bins.map Prod.snd).map EnergyBin.observedMs).sum =
        qualifyingTime points := by
      have all := grown.observed ((Nat.zero_add _).le.trans fits)
      rw [List.map_map]
      exact all.trans (Nat.zero_add _)
    have value : ((bins.map Prod.snd).map EnergyBin.value).sum =
        qualifyingEnergy points := by
      rw [List.map_map]
      exact grown.value.trans (zero_add _)
    have added := @foldlM_checkedAdd (bins.map Prod.snd) 0
      ((Nat.zero_add _).le.trans (time.le.trans fits))
    rw [Nat.zero_add, time] at added
    rw [added] at counted
    refine ⟨_, counted, ?_⟩
    constructor
    · intro bin among
      obtain ⟨entry, found, rfl⟩ := List.mem_map.mp among
      exact placed_inside axis (placed entry found)
    · apply List.pairwise_map.mpr
      apply sorted.imp_of_mem
      intro earlier later first second before
      exact placed_disjoint before (placed earlier first) (placed later second)
    · rw [List.length_map]
      exact placed_few axis sorted placed
    · exact time
    · rfl
    · exact value
    · intro forward bin among
      obtain ⟨entry, found, rfl⟩ := List.mem_map.mp among
      exact covers forward entry found

def discharging (timestampMs activeTimeMs : Nat) : BatteryHistoryPoint where
  timestampMs := timestampMs
  activeTimeMs := activeTimeMs
  continuous := true
  mode := "discharging"
  percentage := 50
  powerWatts := Binary64.ofNat 1
  powerValid := some true
  timeToFullSeconds := none
  charging := false
  plugged := false

theorem energy_conserves_hour :
    ∃ history, energy [discharging 1 0, discharging 2 3600000] = some history ∧
      Conserves [discharging 1 0, discharging 2 3600000] history :=
  (energy_conserves_iff _ (by decide +kernel)).mpr (by decide +kernel)

/-- Two pairs that each take all of a `u64` are not counted together. -/
theorem energy_overflows :
    energy [discharging 1 0, discharging 2 u64Max, discharging 3 0,
      discharging 4 u64Max] = none := by
  decide +kernel

end BarDaemon.BatteryEnergy
