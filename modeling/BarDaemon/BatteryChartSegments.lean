import BarDaemon.BatteryChart

/-!
# Segments of the battery chart

A segment is a piece of the points, each with a reading and each going on from
the one before. The loop cuts the points as `List.splitBy` does.
-/

namespace BarDaemon.BatteryChart

open BatteryHistory

variable {fixedDecimal : Binary64 → Nat → Option String}

/-- Each finite number has a text. -/
def Prints (fixedDecimal : Binary64 → Nat → Option String) : Prop :=
  ∀ value digits, value.isFinite = true → (fixedDecimal value digits).isSome = true

def measured (power : Bool) (point : BatteryHistoryPoint) : Bool :=
  (metric point power).isSome

/-- Two readings that a line joins. -/
def joined (power : Bool) (old point : BatteryHistoryPoint) : Bool :=
  measured power old && measured power point && continues old point

variable (fixedDecimal) in
/-- Where a point with a reading is drawn. -/
def plot (points : List BatteryHistoryPoint) (power : Bool)
    (point : BatteryHistoryPoint) : Point where
  x :=
    if 0 < activeDuration points then
      ((point.activeTimeMs : Rat) - firstActive points) / activeDuration points
    else 1 / 2
  value := (metric point power).getD (Binary64.ofNat 0)
  timestampMs := point.timestampMs
  charging := point.charging
  label :=
    if power then
      (measurement fixedDecimal point.powerWatts " W").getD ""
    else toString point.percentage ++ "%"

/-! ### Points -/

theorem measurement_isSome (prints : Prints fixedDecimal) {value : Binary64}
    (finite : value.isFinite = true)
    (nonnegative : value.below (Binary64.ofNat 0) = false) (suffix : String) :
    (measurement fixedDecimal value suffix).isSome = true := by
  have number : value.isNaN = false := by
    simp only [Binary64.isFinite, Binary64.isNaN, decide_eq_true_eq,
      decide_eq_false_iff_not] at *
    omega
  have zero : (Binary64.ofNat 0).isNaN = false := by decide
  have least : (Binary64.ofNat 0).atMost value = true := by
    simp only [Binary64.below, Binary64.atMost, number, zero, Bool.not_false,
      Bool.true_and, decide_eq_false_iff_not, decide_eq_true_eq] at *
    omega
  rw [measurement, if_pos least, Option.isSome_map]
  exact prints value 1 finite

/-- The reading of the power is the power. -/
theorem metric_power {point : BatteryHistoryPoint} {value : Binary64}
    (read : metric point true = some value) :
    value = point.powerWatts ∧ value.isFinite = true ∧
      value.below (Binary64.ofNat 0) = false := by
  simp only [metric, if_true] at read
  split at read
  · cases read
  · rename_i fits
    split at read
    · cases read
    · cases read
      simp only [Bool.or_eq_true, Bool.not_eq_true', not_or, Bool.not_eq_false,
        Bool.not_eq_true] at fits
      exact ⟨rfl, fits.1.2, fits.2⟩

theorem firstActive_le {points : List BatteryHistoryPoint}
    {point : BatteryHistoryPoint} (among : point ∈ points) :
    firstActive points ≤ point.activeTimeMs :=
  List.min?_getD_le_of_mem (List.mem_map_of_mem among)

theorem coordinate_eq {time first : Nat} (after : first ≤ time) (duration : Nat) :
    coordinate time first duration =
      some (if 0 < duration then ((time : Rat) - first) / duration else 1 / 2) := by
  by_cases long : 0 < duration
  · have nonzero : (duration : Rat) ≠ 0 := by exact_mod_cast long.ne'
    rw [coordinate, if_pos long, checkedSub, if_pos after, if_pos long]
    change BatteryEnergy.ratio _ _ = _
    rw [BatteryEnergy.ratio, if_neg nonzero, Nat.cast_sub after]
  · rw [coordinate, if_neg long, if_neg long]

theorem point_unmeasured {point : BatteryHistoryPoint} {power : Bool}
    (missing : measured power point = false) (first duration : Nat) :
    Point.new fixedDecimal point first duration power = some none := by
  have none : metric point power = none :=
    Option.isNone_iff_eq_none.mp (Option.isSome_eq_false_iff.mp missing)
  rw [Point.new, none]

theorem point_measured (prints : Prints fixedDecimal)
    {points : List BatteryHistoryPoint} {point : BatteryHistoryPoint} {power : Bool}
    (among : point ∈ points) (found : measured power point = true) :
    Point.new fixedDecimal point (firstActive points) (activeDuration points) power =
      some (some (plot fixedDecimal points power point)) := by
  obtain ⟨value, read⟩ := Option.isSome_iff_exists.mp found
  rw [Point.new, read]
  change (coordinate _ _ _).bind _ = _
  rw [coordinate_eq (firstActive_le among), Option.bind_some, plot, read]
  cases power with
  | false => rfl
  | true =>
      obtain ⟨rfl, finite, nonnegative⟩ := metric_power read
      obtain ⟨label, printed⟩ := Option.isSome_iff_exists.mp
        (measurement_isSome prints finite nonnegative " W")
      simp only [if_true, printed]
      rfl

/-! ### The loop -/

section Loop

variable (fixedDecimal) in
/-- The segments that the pieces of some points make. -/
def drawn (points : List BatteryHistoryPoint) (power : Bool)
    (pieces : List (List BatteryHistoryPoint)) : List (List Point) :=
  (pieces.filter fun piece => piece.all (measured power)).map
    fun piece => piece.map (plot fixedDecimal points power)

variable {points : List BatteryHistoryPoint} {power : Bool}

theorem drawn_append (first second : List (List BatteryHistoryPoint)) :
    drawn fixedDecimal points power (first ++ second) =
      drawn fixedDecimal points power first ++
        drawn fixedDecimal points power second := by
  simp only [drawn, List.filter_append, List.map_append]

theorem drawn_measured {piece : List BatteryHistoryPoint}
    (found : piece.all (measured power) = true) :
    drawn fixedDecimal points power [piece] =
      [piece.map (plot fixedDecimal points power)] := by
  simp [drawn, found]

theorem drawn_unmeasured {point : BatteryHistoryPoint}
    (missing : measured power point = false) :
    drawn fixedDecimal points power [[point]] = [] := by
  simp [drawn, missing]

/-- A point that goes on is put after the last segment. -/
theorem push_continuous {series : Series} {segments : List (List Point)}
    {segment : List Point} (before : series.segments = segments ++ [segment])
    (next : Point) (previousValid : Bool) :
    (series.push next true previousValid).segments =
      segments ++ [segment ++ [next]] := by
  simp only [Series.push, before, List.getLast?_append, List.getLast?_singleton,
    Option.some_or, List.dropLast_concat]

/-- Another one begins a segment. -/
theorem push_apart (series : Series) (next : Point) (previousValid : Bool) :
    (series.push next false previousValid).segments =
      series.segments ++ [[next]] := by
  rfl

variable (fixedDecimal) in
/-- The loop after some of the points: the last piece is not finished, and it is
drawn when its last point has a reading. -/
structure Following (points : List BatteryHistoryPoint) (power : Bool)
    (last : BatteryHistoryPoint) (group : List BatteryHistoryPoint)
    (groups : List (List BatteryHistoryPoint))
    (state : Series × Option BatteryHistoryPoint) : Prop where
  segments : state.1.segments = drawn fixedDecimal points power
    (groups.reverse ++ [(last :: group).reverse])
  previous : state.2 = if measured power last then some last else none
  whole : measured power last = true → group.all (measured power) = true

variable {state : Series × Option BatteryHistoryPoint}
  {next last : BatteryHistoryPoint} {group : List BatteryHistoryPoint}
  {groups : List (List BatteryHistoryPoint)}

theorem follow_unmeasured (missing : measured power next = false)
    (first duration : Nat) :
    Series.follow fixedDecimal first duration power state next =
      some (state.1, none) := by
  rw [Series.follow, point_unmeasured missing]
  rfl

theorem follow_measured (prints : Prints fixedDecimal) (among : next ∈ points)
    (found : measured power next = true) :
    Series.follow fixedDecimal (firstActive points) (activeDuration points) power
        state next =
      some (state.1.push (plot fixedDecimal points power next)
        (state.2.any fun old => continues old next) state.2.isSome, some next) := by
  rw [Series.follow, point_measured prints among found]
  rfl

/-- A point that does not go on begins a piece. -/
theorem follow_apart (prints : Prints fixedDecimal) (among : next ∈ points)
    (segments : state.1.segments = drawn fixedDecimal points power groups.reverse)
    (apart : measured power next = true →
      (state.2.any fun old => continues old next) = false) :
    ∃ after, Series.follow fixedDecimal (firstActive points)
        (activeDuration points) power state next = some after ∧
      Following fixedDecimal points power next [] groups after := by
  cases found : measured power next with
  | false =>
      refine ⟨_, follow_unmeasured found _ _, ?_, ?_, fun _ => rfl⟩
      · rw [segments, drawn_append]
        exact (List.append_nil _).symm.trans
          (congrArg _ (drawn_unmeasured found).symm)
      · rw [found]
        rfl
  | true =>
      refine ⟨_, follow_measured prints among found, ?_, ?_, fun _ => rfl⟩
      · rw [apart found, push_apart, segments, drawn_append]
        have only : [next].all (measured power) = true := by simp [found]
        exact congrArg _ (drawn_measured only).symm
      · rw [if_pos found]

/-- A point that goes on is put in the piece. -/
theorem follow_joined (prints : Prints fixedDecimal) (among : next ∈ points)
    (following : Following fixedDecimal points power last group groups state)
    (goes : joined power last next = true) :
    ∃ after, Series.follow fixedDecimal (firstActive points)
        (activeDuration points) power state next = some after ∧
      Following fixedDecimal points power next (last :: group) groups after := by
  simp only [joined, Bool.and_eq_true] at goes
  obtain ⟨⟨old, found⟩, continuous⟩ := goes
  have previous := following.previous
  rw [if_pos old] at previous
  have whole : (last :: group).all (measured power) = true := by
    simp only [List.all_cons, old, following.whole old, Bool.and_self]
  have piece : (last :: group).reverse.all (measured power) = true := by
    rw [List.all_reverse, whole]
  have longer : (next :: last :: group).reverse.all (measured power) = true := by
    rw [List.all_reverse, List.all_cons, found, whole]
    rfl
  have segments := following.segments
  rw [drawn_append, drawn_measured piece] at segments
  refine ⟨_, follow_measured prints among found, ?_, ?_, fun _ => whole⟩
  · have any : (state.2.any fun old => continues old next) = true := by
      rw [previous]
      exact continuous
    have turned : (next :: last :: group).reverse =
        (last :: group).reverse ++ [next] := List.reverse_cons
    rw [any, push_continuous segments, drawn_append, drawn_measured longer, turned,
      List.map_append]
    rfl
  · rw [if_pos found]

theorem follow_all (prints : Prints fixedDecimal)
    {rest : List BatteryHistoryPoint} (among : rest ⊆ points)
    (following : Following fixedDecimal points power last group groups state) :
    ∃ after, rest.foldlM (Series.follow fixedDecimal (firstActive points)
        (activeDuration points) power) state = some after ∧
      after.1.segments = drawn fixedDecimal points power
        (List.splitBy.loop (joined power) rest last group groups) := by
  induction rest generalizing last group groups state with
  | nil =>
      refine ⟨state, rfl, ?_⟩
      rw [following.segments, List.splitBy.loop, List.reverse_cons (a := (last :: group).reverse)]
  | cons next rest ih =>
      obtain ⟨here, later⟩ := List.cons_subset.mp among
      rw [List.splitBy.loop]
      cases goes : joined power last next with
      | true =>
          obtain ⟨between, went, following⟩ :=
            follow_joined prints here following goes
          obtain ⟨after, folded, segments⟩ := ih later following
          refine ⟨after, ?_, segments⟩
          rw [List.foldlM_cons, went]
          exact folded
      | false =>
          have segments := following.segments
          rw [← List.reverse_cons] at segments
          obtain ⟨between, went, following⟩ := follow_apart prints here segments
            (by
              intro found
              rw [following.previous]
              cases old : measured power last with
              | false => rfl
              | true =>
                  rw [joined, old, found] at goes
                  exact goes)
          obtain ⟨after, folded, segments⟩ := ih later following
          refine ⟨after, ?_, segments⟩
          rw [List.foldlM_cons, went]
          exact folded

end Loop

/-! ### Series -/

variable {points : List BatteryHistoryPoint} {power : Bool}

/-- The loop from the beginning. -/
theorem follow_pieces (prints : Prints fixedDecimal)
    {rest : List BatteryHistoryPoint} (among : rest ⊆ points) {empty : Series}
    (begun : empty.segments = []) :
    ∃ after, rest.foldlM (Series.follow fixedDecimal (firstActive points)
        (activeDuration points) power) (empty, none) = some after ∧
      after.1.segments = drawn fixedDecimal points power
        (rest.splitBy (joined power)) := by
  cases rest with
  | nil => exact ⟨_, rfl, begun⟩
  | cons next rest =>
      obtain ⟨here, later⟩ := List.cons_subset.mp among
      obtain ⟨between, went, following⟩ := @follow_apart fixedDecimal points power
        (empty, none) next [] prints here begun fun _ => rfl
      obtain ⟨after, folded, segments⟩ := follow_all prints later following
      refine ⟨after, ?_, segments⟩
      rw [List.foldlM_cons, went]
      exact folded

/-- The series is drawn from the pieces of the points. -/
theorem series_drawn (prints : Prints fixedDecimal)
    (points : List BatteryHistoryPoint) (power : Bool) :
    ∃ result, series fixedDecimal points power = some result ∧
      result.segments = drawn fixedDecimal points power
        (points.splitBy (joined power)) := by
  let empty : Series := {
    segments := []
    breaks := []
    maximum := Binary64.ofNat (if power then 1 else 100)
    activeDurationMs := activeDuration points
    hasActiveTimeline := !points.isEmpty }
  have begun : empty.segments = [] := rfl
  obtain ⟨after, folded, segments⟩ :=
    @follow_pieces _ points power prints points (List.Subset.refl points) empty begun
  refine ⟨after.1, ?_, segments⟩
  unfold series
  change Option.bind (points.foldlM _ (empty, none)) _ = _
  rw [folded]
  rfl

/-! ### Pieces -/

/-- The points of a piece have readings, or none of them has. -/
theorem all_or_none {piece : List BatteryHistoryPoint}
    (chain : piece.IsChain fun old point => joined power old point = true) :
    piece.all (measured power) = true ∨
      ∀ point ∈ piece, measured power point = false := by
  induction chain with
  | nil => exact .inl rfl
  | singleton point =>
      cases found : measured power point with
      | true => exact .inl (by simp [found])
      | false => exact .inr (by simp [found])
  | cons_cons goes chain ih =>
      simp only [joined, Bool.and_eq_true] at goes
      rcases ih with all | missing
      · exact .inl (by rw [List.all_cons, goes.1.1, all]; rfl)
      · have none := missing _ List.mem_cons_self
        rw [goes.1.2] at none
        cases none

theorem flatten_drawn {pieces : List (List BatteryHistoryPoint)}
    (chains : ∀ piece ∈ pieces,
      piece.IsChain fun old point => joined power old point = true) :
    (drawn fixedDecimal points power pieces).flatten =
      (pieces.flatten.filter (measured power)).map
        (plot fixedDecimal points power) := by
  induction pieces with
  | nil => rfl
  | cons piece pieces ih =>
      obtain ⟨chain, chains⟩ := List.forall_mem_cons.mp chains
      have rest := ih chains
      rw [← List.singleton_append, drawn_append, List.flatten_append, rest,
        List.flatten_append, List.filter_append, List.map_append,
        List.flatten_singleton]
      congr 1
      rcases all_or_none chain with all | missing
      · have kept : piece.filter (measured power) = piece :=
          List.filter_eq_self.mpr (List.all_eq_true.mp all)
        rw [drawn_measured all, kept, List.flatten_singleton]
      · have dropped : piece.filter (measured power) = [] := by
          apply List.filter_eq_nil_iff.mpr
          intro point among
          rw [missing point among]
          exact Bool.false_ne_true
        rw [dropped]
        cases piece with
        | nil => rfl
        | cons point piece =>
            have gap : (point :: piece).all (measured power) = false := by
              rw [List.all_cons, missing point List.mem_cons_self]
              rfl
            simp only [drawn, List.filter_cons, gap]
            rfl

/-- What a series draws of some points. -/
structure Draws (fixedDecimal : Binary64 → Nat → Option String)
    (points : List BatteryHistoryPoint) (power : Bool) (result : Series) : Prop where
  /-- Each reading is drawn once, in order. -/
  readings : result.segments.flatten =
    (points.filter (measured power)).map (plot fixedDecimal points power)
  /-- A segment is drawn of adjacent points that go on from each other. -/
  unbroken : ∀ segment ∈ result.segments, ∃ piece, piece <:+: points ∧
    piece ≠ [] ∧ (∀ point ∈ piece, measured power point = true) ∧
    (piece.IsChain fun old point => continues old point = true) ∧
    segment = piece.map (plot fixedDecimal points power)

theorem series_draws (prints : Prints fixedDecimal)
    (points : List BatteryHistoryPoint) (power : Bool) :
    ∃ result, series fixedDecimal points power = some result ∧
      Draws fixedDecimal points power result := by
  obtain ⟨result, made, segments⟩ := series_drawn prints points power
  refine ⟨result, made, ?_, ?_⟩
  · rw [segments, flatten_drawn fun piece => List.isChain_of_mem_splitBy,
      List.flatten_splitBy]
  · intro segment among
    rw [segments] at among
    obtain ⟨piece, kept, rfl⟩ := List.mem_map.mp among
    obtain ⟨part, all⟩ := List.mem_filter.mp kept
    refine ⟨piece, ?_, List.ne_nil_of_mem_splitBy part, ?_, ?_, rfl⟩
    · have within := List.infix_of_mem_flatten part
      rwa [List.flatten_splitBy] at within
    · exact List.all_eq_true.mp all
    · apply (List.isChain_of_mem_splitBy part).imp
      intro old point goes
      exact ((Bool.and_eq_true _ _).mp goes).2

/-! ### Projection -/

/-- The projection draws the points of its window, and a series draws any
points. -/
theorem project_draws (prints : Prints fixedDecimal) :
    (∀ points power, ∃ result, series fixedDecimal points power = some result ∧
      Draws fixedDecimal points power result) ∧
    ∀ history hours, ∃ chart, project fixedDecimal history hours = some chart ∧
      Draws fixedDecimal (windowPoints history hours) false chart.percentage ∧
      Draws fixedDecimal (windowPoints history hours) true chart.power := by
  refine ⟨fun points power => series_draws prints points power, ?_⟩
  intro history hours
  obtain ⟨percentage, first, percentages⟩ :=
    series_draws prints (windowPoints history hours) false
  obtain ⟨power, second, powers⟩ :=
    series_draws prints (windowPoints history hours) true
  refine ⟨⟨percentage, power⟩, ?_, percentages, powers⟩
  rw [project, first, second]
  rfl

/-- The text of two watts. -/
def twoWatts (value : Binary64) (_ : Nat) : Option String :=
  if value.isFinite then some "2.0" else none

theorem twoWatts_prints : Prints twoWatts := by
  intro value digits finite
  rw [twoWatts, if_pos finite]
  rfl

def reading (timestampMs activeTimeMs : Nat) : BatteryHistoryPoint where
  timestampMs := timestampMs
  activeTimeMs := activeTimeMs
  continuous := true
  mode := "discharging"
  percentage := 50
  powerWatts := Binary64.ofNat 2
  powerValid := some true
  timeToFullSeconds := none
  charging := false
  plugged := false

theorem project_draws_pair :
    ∃ chart, project twoWatts ⟨[reading 1 0, reading 10 10], none⟩ 6 = some chart ∧
      Draws twoWatts (windowPoints ⟨[reading 1 0, reading 10 10], none⟩ 6) false
        chart.percentage ∧
      Draws twoWatts (windowPoints ⟨[reading 1 0, reading 10 10], none⟩ 6) true
        chart.power :=
  (project_draws twoWatts_prints).2 ⟨[reading 1 0, reading 10 10], none⟩ 6

/-- A point that was never observed does not part the points around it. -/
theorem project_spans_unobserved :
    ∃ chart, project twoWatts
        ⟨[reading 1 0, reading 0 5, reading 10 10], none⟩ 6 = some chart ∧
      measured false (reading 0 5) = false ∧
      ¬ Draws twoWatts [reading 1 0, reading 0 5, reading 10 10] false
        chart.percentage := by
  let points := [reading 1 0, reading 0 5, reading 10 10]
  have drawn : ∃ chart, project twoWatts ⟨points, none⟩ 6 = some chart ∧
      chart.percentage.segments.map (fun segment => segment.map Point.timestampMs) =
        [[1, 10]] := by
    have times : (project twoWatts ⟨points, none⟩ 6).map (fun chart =>
        chart.percentage.segments.map fun segment =>
          segment.map Point.timestampMs) = some [[1, 10]] := by
      decide +kernel
    exact Option.map_eq_some_iff.mp times
  obtain ⟨chart, projected, times⟩ := drawn
  refine ⟨chart, projected, by decide +kernel, fun draws => ?_⟩
  have first : [1, 10] ∈ chart.percentage.segments.map
      (fun segment => segment.map Point.timestampMs) := by
    rw [times]
    exact List.mem_singleton_self _
  obtain ⟨segment, among, same⟩ := List.mem_map.mp first
  obtain ⟨piece, within, _, _, _, rfl⟩ := draws.unbroken segment among
  -- the times of the piece would be adjacent among the times of the points
  have adjacent := within.map BatteryHistoryPoint.timestampMs
  have stamps : piece.map BatteryHistoryPoint.timestampMs = [1, 10] := by
    rw [← same, List.map_map]
    rfl
  rw [stamps] at adjacent
  revert adjacent
  decide

end BarDaemon.BatteryChart
