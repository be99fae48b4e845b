import Mathlib.Data.Int.LeastGreatest

/-!
# Local clocks

A local clock shows a second for every instant, less than a day away from it.
It may go back and leave out seconds. A day that is taken to last from the
first instant of its first second to that of the next day consists of the
instants that show it, for every day that is shown, exactly when the clock
never goes back behind what it showed when it first reached a day.
-/

namespace BarDaemon.LocalClocks

variable (clock : Int → Int)

/-- The clock is less than a day fast or slow. -/
def Near : Prop :=
  ∀ instant, clock instant < instant + 86400 ∧ instant < clock instant + 86400

/-- The day that is shown, counted from that of the second 0. -/
def day (instant : Int) : Int :=
  clock instant / 86400

/-- The instant from which on the clock has reached a day, or a later one. -/
structure Reaches (first instant : Int) : Prop where
  reached : first ≤ day clock instant
  before : ∀ earlier < instant, day clock earlier < first

/-- The first instant that shows the first second of a day, or of a later one,
which is shown at all. -/
structure Opens (first instant : Int) : Prop where
  reached : first ≤ day clock instant
  least : ∀ other, first ≤ day clock other → clock instant ≤ clock other
  earliest : ∀ other, clock other = clock instant → instant ≤ other

/-- The clock never goes back behind what it showed when it reached a day. -/
def Sound (first : Int) : Prop :=
  ∀ instant, Reaches clock first instant →
    ∀ later, instant ≤ later → clock instant ≤ clock later

/-- A day is shown from the instant that opens it to that of the next day. -/
def Right (first : Int) : Prop :=
  ∀ start stop, Opens clock first start → Opens clock (first + 1) stop →
    ∀ instant, day clock instant = first ↔ start ≤ instant ∧ instant < stop

variable {clock} {first instant : Int}

theorem first_le_day_iff : first ≤ day clock instant ↔
    86400 * first ≤ clock instant := by
  unfold day
  omega

/-! ### Reaching a day -/

/-- A day after its midnight it has been reached, in any case. -/
theorem le_day_next (near : Near clock) (first : Int) :
    first ≤ day clock (86400 * (first + 1)) := by
  have close := near (86400 * (first + 1))
  unfold day
  omega

theorem exists_reaches (near : Near clock) (first : Int) :
    ∃ instant, Reaches clock first instant := by
  have bounded : ∀ instant, first ≤ day clock instant →
      86400 * first - 86400 ≤ instant := by
    intro instant reached
    have close := near instant
    rw [first_le_day_iff] at reached
    omega
  obtain ⟨instant, reached, least⟩ := Int.exists_least_of_bdd
    ⟨_, bounded⟩ ⟨_, le_day_next near first⟩
  refine ⟨instant, reached, fun earlier before => ?_⟩
  by_contra late
  have notBefore := least earlier (by omega)
  omega

theorem Reaches.le_of_day (reaches : Reaches clock first instant)
    {other : Int} (reached : first ≤ day clock other) : instant ≤ other := by
  by_contra before
  have earlier := reaches.before other (by omega)
  omega

/-- A day is reached on it or on the day after it. -/
theorem Reaches.day_le (near : Near clock)
    (reaches : Reaches clock first instant) :
    day clock instant ≤ first + 1 := by
  have before := reaches.before (instant - 1) (by omega)
  have close := near (instant - 1)
  have ahead := (near instant).1
  unfold day at *
  omega

theorem sound_of_forward
    (forward : ∀ earlier later, earlier ≤ later → clock earlier ≤ clock later)
    (first : Int) : Sound clock first :=
  fun instant _ later after => forward instant later after

/-! ### Opening a day -/

/-- The instant at which a day is reached opens it where the clock does not go
back behind it. -/
theorem Sound.opens (sound : Sound clock first)
    (reaches : Reaches clock first instant) : Opens clock first instant where
  reached := reaches.reached
  least other reached := sound instant reaches other (reaches.le_of_day reached)
  earliest other same := by
    have reached := first_le_day_iff.mp reaches.reached
    rw [← same] at reached
    exact reaches.le_of_day (first_le_day_iff.mpr reached)

theorem exists_opens (near : Near clock) (first : Int) :
    ∃ instant, Opens clock first instant := by
  have onOrAfter : ∀ second,
      (∃ instant, clock instant = second ∧ first ≤ day clock instant) →
        86400 * first ≤ second := by
    rintro second ⟨instant, shows, reached⟩
    rw [first_le_day_iff, shows] at reached
    exact reached
  obtain ⟨second, ⟨shower, shows, reached⟩, least⟩ :=
    Int.exists_least_of_bdd ⟨_, onOrAfter⟩
      ⟨_, _, rfl, le_day_next near first⟩
  have close : ∀ instant, clock instant = second → second - 86400 ≤ instant := by
    intro instant same
    have ahead := (near instant).1
    omega
  obtain ⟨instant, same, earliest⟩ := Int.exists_least_of_bdd
    ⟨_, close⟩ ⟨shower, shows⟩
  refine ⟨instant, ?_, fun other later => ?_, fun other also => ?_⟩
  · rw [first_le_day_iff] at reached ⊢
    rw [same, ← shows]
    exact reached
  · rw [same]
    exact least _ ⟨other, rfl, later⟩
  · exact earliest other (also.trans same)

theorem Opens.unique {other : Int} (opens : Opens clock first instant)
    (also : Opens clock first other) : instant = other := by
  have below := opens.least other also.reached
  have above := also.least instant opens.reached
  have earlier := opens.earliest other (by omega)
  have later := also.earliest instant (by omega)
  omega

theorem Opens.day_le (near : Near clock) (opens : Opens clock first instant) :
    day clock instant ≤ first + 1 := by
  obtain ⟨start, reaches⟩ := exists_reaches near first
  have soon := reaches.day_le near
  have least := opens.least start reaches.reached
  unfold day at *
  omega

/-! ### Days as intervals -/

/-- A clock that does not go back behind two days shows the first of them
between the instants that open them. -/
theorem Sound.right (near : Near clock) (sound : Sound clock first)
    (next : Sound clock (first + 1)) : Right clock first := by
  intro start stop starts stops other
  obtain ⟨begins, reaches⟩ := exists_reaches near first
  obtain rfl := starts.unique (sound.opens reaches)
  obtain ⟨ends, reachesNext⟩ := exists_reaches near (first + 1)
  obtain rfl := stops.unique (next.opens reachesNext)
  constructor
  · intro same
    refine ⟨reaches.le_of_day same.ge, ?_⟩
    by_contra late
    have least := next stop reachesNext other (by omega)
    have reached := first_le_day_iff.mp stops.reached
    have after : first + 1 ≤ day clock other :=
      first_le_day_iff.mpr (by omega)
    omega
  · rintro ⟨after, before⟩
    have least := sound start reaches other after
    have reached := first_le_day_iff.mp starts.reached
    have lower : first ≤ day clock other := first_le_day_iff.mpr (by omega)
    have upper := reachesNext.before other before
    omega

/-- The instant at which a day is reached opens the day that is shown then. -/
theorem Reaches.opens_of_right (near : Near clock)
    (reaches : Reaches clock first instant)
    (right : Right clock (day clock instant)) :
    Opens clock (day clock instant) instant := by
  obtain ⟨start, starts⟩ := exists_opens near (day clock instant)
  obtain ⟨stop, stops⟩ := exists_opens near (day clock instant + 1)
  have shown := right start stop starts stops
  obtain ⟨after, before⟩ := (shown instant).mp rfl
  have same := (shown start).mpr ⟨Int.le_refl _, by omega⟩
  have notBefore : instant ≤ start :=
    reaches.le_of_day (same ▸ reaches.reached)
  obtain rfl : start = instant := by omega
  exact starts

/-- Where the days that are shown around a day are right, the clock does not go
back behind it. Else the last of the days that it goes back to would end before
it is shown. -/
theorem sound_of_right (near : Near clock)
    (right : ∀ shown, first - 2 ≤ shown → shown ≤ first + 1 →
      (∃ instant, day clock instant = shown) → Right clock shown) :
    Sound clock first := by
  intro instant reaches later after
  by_contra back
  have soon := reaches.day_le near
  have reached := reaches.reached
  have opens := reaches.opens_of_right near
    (right _ (by omega) soon ⟨instant, rfl⟩)
  -- The greatest day before this one that is shown from now on.
  have earlierDay : day clock later < day clock instant := by
    by_contra notEarlier
    have least := opens.least later (by omega)
    omega
  obtain ⟨last, ⟨shower, afterwards, shows, lower⟩, greatest⟩ :=
    Int.exists_greatest_of_bdd
      (P := fun shown => ∃ other, instant ≤ other ∧ day clock other = shown ∧
        shown < day clock instant)
      ⟨_, fun shown ⟨_, _, _, lower⟩ => lower.le⟩
      ⟨_, later, after, rfl, earlierDay⟩
  have notFar : first - 2 ≤ last := by
    have ahead := (near instant).1
    have close := (near shower).2
    unfold day at *
    omega
  obtain ⟨start, starts⟩ := exists_opens near last
  obtain ⟨stop, stops⟩ := exists_opens near (last + 1)
  have within := (right last notFar (by omega) ⟨shower, shows⟩ start stop starts
    stops shower).mp shows
  have below := stops.least instant (by omega)
  have onwards := stops.reached
  by_cases onTheDay : day clock stop = day clock instant
  · have above := opens.least stop onTheDay.ge
    have first := stops.earliest instant (by omega)
    omega
  · have before : day clock stop < day clock instant := by
      unfold day at *
      omega
    have between := greatest _ ⟨stop, by omega, rfl, before⟩
    omega

end BarDaemon.LocalClocks
