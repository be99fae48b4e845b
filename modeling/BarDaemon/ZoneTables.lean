import BarDaemon.LocalClocks
import BarDaemon.MachineIntegers
import BarDaemon.NaiveDateSuccession
import Mathlib.Data.List.MinMax

/-!
# Time zone tables

The offsets of a time zone from UTC and the seconds at which they change. The
local clock of a table, and the first instant at which it shows a second.
-/

namespace BarDaemon

namespace NaiveDate

/-- The date of the second 0 has the number 0. -/
def index (date : NaiveDate) : Int :=
  date.dayNumber - 719468

def first : NaiveDate :=
  ⟨minYear, 1, 1, by decide, january_valid, by decide⟩

def last : NaiveDate :=
  ⟨maxYear, 12, 31, by decide, december_valid, by decide⟩

theorem index_bounds (date : NaiveDate) :
    first.index ≤ date.index ∧ date.index ≤ last.index := by
  have year := date.year_valid
  have month := date.month_valid
  have day := date.day_valid
  have days := daysIn_bounds date.year date.month
  have notBefore : date.before first = false := by
    rw [Bool.eq_false_iff, Ne, before_iff]
    unfold place first
    dsimp only
    omega
  have notAfter : last.before date = false := by
    rw [Bool.eq_false_iff, Ne, before_iff]
    unfold place last
    dsimp only
    omega
  obtain ⟨passed, fromFirst⟩ := addDays?_of_not_before notBefore
  obtain ⟨left, toLast⟩ := addDays?_of_not_before notAfter
  have lower := dayNumber_addDays fromFirst
  have upper := dayNumber_addDays toLast
  unfold index
  omega

/-- A day that is some days before another day of the calendar. -/
theorem addDays?_prefix {day later : NaiveDate} {days fewer : Nat}
    (reached : day.addDays? days = some later) (few : fewer ≤ days) :
    ∃ between, day.addDays? fewer = some between := by
  induction days generalizing day fewer with
  | zero =>
      obtain rfl := Nat.le_zero.mp few
      exact ⟨_, reached⟩
  | succ days ih =>
      obtain ⟨next, found, onwards⟩ := Option.bind_eq_some_iff.mp reached
      cases fewer with
      | zero => exact ⟨day, rfl⟩
      | succ fewer =>
          obtain ⟨between, reaches⟩ := ih onwards (Nat.le_of_succ_le_succ few)
          exact ⟨between, Option.bind_eq_some_iff.mpr ⟨next, found, reaches⟩⟩

theorem index_addDays {day later : NaiveDate} {days : Nat}
    (reached : day.addDays? days = some later) :
    later.index = day.index + days := by
  have number := dayNumber_addDays reached
  unfold index
  omega

/-- The days of the calendar after a date are counted by its index. -/
theorem addDays?_of_index (date : NaiveDate) (days : Nat)
    (within : date.index + days ≤ last.index) :
    ∃ later, date.addDays? days = some later := by
  have bounds := date.index_bounds
  have ordered : last.before date = false := by
    rw [Bool.eq_false_iff]
    intro after
    have number := dayNumber_lt after
    unfold index at *
    omega
  obtain ⟨left, reached⟩ := addDays?_of_not_before ordered
  have whole := index_addDays reached
  exact addDays?_prefix reached (by omega)

theorem exists_index (number : Int) (notBefore : first.index ≤ number)
    (notAfter : number ≤ last.index) :
    ∃ date : NaiveDate, date.index = number := by
  obtain ⟨days, passed⟩ := Int.eq_ofNat_of_zero_le
    (a := number - first.index) (by omega)
  obtain ⟨date, reached⟩ := addDays?_of_index first days (by omega)
  have counted := index_addDays reached
  exact ⟨date, by omega⟩

end NaiveDate

/-- Offsets from UTC, in seconds, which are less than a day. -/
structure ZoneTable where
  initial : Int
  /-- The seconds of UTC from which on there is another offset. -/
  transitions : List (Int × Int)
  sorted : transitions.Pairwise fun first second => first.1 < second.1
  bounded : ∀ offset ∈ initial :: transitions.map Prod.snd,
    -86400 < offset ∧ offset < 86400

namespace ZoneTable

variable (table : ZoneTable)

def offsets : List Int :=
  table.initial :: table.transitions.map Prod.snd

def offsetAt (instant : Int) : Int :=
  ((table.transitions.takeWhile (·.1 ≤ instant)).getLast?.map
    Prod.snd).getD table.initial

/-- The second that is shown at a second of UTC. -/
def clock (instant : Int) : Int :=
  instant + table.offsetAt instant

/-- The date that is shown at a millisecond of UTC, by its index. -/
def dayAt (millis : Int) : Int :=
  LocalClocks.day table.clock (millis / 1000)

/-- The seconds of UTC whose date is one of the calendar. -/
def representable (instant : Int) : Bool :=
  decide (86400 * NaiveDate.first.index ≤ instant ∧
    instant < 86400 * (NaiveDate.last.index + 1))

/-- The first of the instants at which a second is shown. -/
def firstInstant (shown : Int) : Option Int :=
  ((table.offsets.map fun offset => shown - offset).filter fun instant =>
    representable instant && table.clock instant == shown).min?

/-- `from_local_datetime(..).earliest()`, in milliseconds. -/
def earliest (day : NaiveDate) (second : Nat) : Option I64 :=
  (table.firstInstant (86400 * day.index + second)).bind fun instant =>
    if fits : -(i64Max : Int) - 1 ≤ 1000 * instant ∧
        1000 * instant ≤ i64Max then
      some ⟨1000 * instant, fits⟩
    else none

/-- `timestamp_millis_opt(..).single()`, its date. -/
def localDate (millis : I64) : Option NaiveDate :=
  if representable (millis.val / 1000) ∧
      NaiveDate.first.index ≤ table.dayAt millis.val then
    NaiveDate.first.addDays?
      (table.dayAt millis.val - NaiveDate.first.index).toNat
  else none

variable {table}

theorem getLast?_takeWhile_mem {α : Type} {keep : α → Bool} {items : List α}
    {item : α} (found : (items.takeWhile keep).getLast? = some item) :
    item ∈ items :=
  (List.takeWhile_sublist keep).mem (List.mem_of_getLast? found)

theorem offsetAt_mem (instant : Int) :
    table.offsetAt instant ∈ table.offsets := by
  unfold offsetAt offsets
  cases found : (table.transitions.takeWhile (·.1 ≤ instant)).getLast? with
  | none => exact List.mem_cons_self
  | some transition =>
      exact List.mem_cons_of_mem _
        (List.mem_map_of_mem (getLast?_takeWhile_mem found))

theorem clock_near (table : ZoneTable) : LocalClocks.Near table.clock := by
  intro instant
  have close := table.bounded _ (offsetAt_mem instant)
  unfold clock
  omega

/-- Every instant that shows a second is found with one of the offsets. -/
theorem mem_candidates {instant shown : Int}
    (shows : table.clock instant = shown) :
    instant ∈ table.offsets.map fun offset => shown - offset := by
  refine List.mem_map.mpr ⟨_, offsetAt_mem instant, ?_⟩
  rw [← shows]
  unfold clock
  omega

theorem firstInstant_eq_none_iff (shown : Int) :
    table.firstInstant shown = none ↔
      ∀ instant, representable instant = true → table.clock instant ≠ shown := by
  unfold firstInstant
  rw [List.min?_eq_none_iff, List.filter_eq_nil_iff]
  simp only [Bool.and_eq_true, beq_iff_eq, not_and]
  constructor
  · intro none instant within shows
    exact none instant (mem_candidates shows) within shows
  · intro none instant _ within
    exact none instant within

theorem firstInstant_eq_some_iff (shown instant : Int) :
    table.firstInstant shown = some instant ↔
      (representable instant = true ∧ table.clock instant = shown) ∧
        ∀ other, representable other = true → table.clock other = shown →
          instant ≤ other := by
  unfold firstInstant
  rw [List.min?_eq_some_iff]
  simp only [List.mem_filter, Bool.and_eq_true, beq_iff_eq, and_imp]
  constructor
  · rintro ⟨⟨_, found⟩, least⟩
    exact ⟨found, fun other within shows =>
      least other (mem_candidates shows) within shows⟩
  · rintro ⟨found, least⟩
    exact ⟨⟨mem_candidates found.2, found⟩,
      fun other _ within shows => least other within shows⟩

/-- The first instant at which a second of a day is shown is a number of
milliseconds that fits. -/
theorem earliest_eq_some_iff (day : NaiveDate) (second : Nat) (first : I64) :
    table.earliest day second = some first ↔
      ∃ instant, table.firstInstant (86400 * day.index + second) =
        some instant ∧ first.val = 1000 * instant := by
  unfold earliest
  rw [Option.bind_eq_some_iff]
  constructor
  · rintro ⟨instant, found, fits⟩
    split at fits
    · cases fits
      exact ⟨instant, found, rfl⟩
    · cases fits
  · rintro ⟨instant, found, same⟩
    refine ⟨instant, found, ?_⟩
    have fits := first.property
    rw [same] at fits
    rw [dif_pos fits]
    exact congrArg some (Subtype.ext same.symm)

theorem earliest_eq_none {day : NaiveDate} {second : Nat}
    (unseen : table.firstInstant (86400 * day.index + second) = none) :
    table.earliest day second = none := by
  unfold earliest
  rw [unseen, Option.bind_none]

theorem fits_of_representable {instant : Int}
    (within : representable instant = true) :
    -(i64Max : Int) - 1 ≤ 1000 * instant ∧ 1000 * instant ≤ i64Max := by
  have first : NaiveDate.first.index = -96465292 := by decide
  have last : NaiveDate.last.index = 95026236 := by decide
  have largest : (i64Max : Int) = 9223372036854775807 := rfl
  unfold representable at within
  rw [decide_eq_true_eq] at within
  omega

theorem earliest_of_firstInstant {day : NaiveDate} {second : Nat}
    {instant : Int} (found : table.firstInstant (86400 * day.index + second) =
      some instant) :
    ∃ first, table.earliest day second = some first ∧
      first.val = 1000 * instant := by
  have within := ((firstInstant_eq_some_iff _ _).mp found).1.1
  refine ⟨⟨1000 * instant, fits_of_representable within⟩, ?_, rfl⟩
  rw [earliest_eq_some_iff]
  exact ⟨instant, found, rfl⟩

/-! ### Days of the table -/

variable {day start : Int}

open LocalClocks

/-- A day of the calendar is reached at an instant of the calendar. -/
theorem representable_of_reaches (reaches : Reaches table.clock day start)
    (notFirst : NaiveDate.first.index < day)
    (notAfter : day ≤ NaiveDate.last.index) :
    representable start = true := by
  have reached := reaches.reached
  have before := reaches.before (start - 1) (by omega)
  have close := (table.clock_near (start - 1)).2
  have ahead := (table.clock_near start).1
  unfold LocalClocks.day at reached before
  unfold representable
  rw [decide_eq_true_eq]
  omega

/-- What opens a day of the calendar, with another one after the next, is an
instant of the calendar. -/
theorem representable_of_opens (opens : Opens table.clock day start)
    (notFirst : NaiveDate.first.index < day)
    (before : day + 1 < NaiveDate.last.index) :
    representable start = true := by
  have reached := opens.reached
  have soon := opens.day_le table.clock_near
  have close := table.clock_near start
  unfold LocalClocks.day at reached soon
  unfold representable
  rw [decide_eq_true_eq]
  omega

/-- The seconds of a day before the one that opens it are not shown. -/
theorem firstInstant_unseen (opens : Opens table.clock day start) {shown : Int}
    (onDay : 86400 * day ≤ shown) (before : shown < table.clock start) :
    table.firstInstant shown = none := by
  rw [firstInstant_eq_none_iff]
  intro instant _ shows
  have least := opens.least instant (first_le_day_iff.mpr (shows ▸ onDay))
  omega

/-- The second that opens a day is first shown at that instant. -/
theorem firstInstant_opens (opens : Opens table.clock day start)
    (within : representable start = true) :
    table.firstInstant (table.clock start) = some start := by
  rw [firstInstant_eq_some_iff]
  exact ⟨⟨within, rfl⟩, fun other _ => opens.earliest other⟩

end ZoneTable

end BarDaemon
