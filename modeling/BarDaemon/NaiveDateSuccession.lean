import BarDaemon.NaiveDates
import Mathlib.Tactic.IntervalCases

/-!
# Succession of dates

Every date that is not before another one is reached from it by steps of one
day, as many as their day numbers tell.
-/

namespace BarDaemon.NaiveDate

theorem of_make? {year : Int} {month day : Nat} {date : NaiveDate}
    (made : make? year month day = some date) :
    date.year = year ∧ date.month = month ∧ date.day = day := by
  unfold make? at made
  split at made
  · cases made
    exact ⟨rfl, rfl, rfl⟩
  · cases made

/-- Dates in order, one number each. -/
def place (date : NaiveDate) : Int :=
  (date.year * 13 + date.month) * 32 + date.day

theorem before_iff (left right : NaiveDate) :
    left.before right = true ↔ left.place < right.place := by
  have := left.month_valid
  have := left.day_valid
  have := right.month_valid
  have := right.day_valid
  have := daysIn_bounds left.year left.month
  have := daysIn_bounds right.year right.month
  simp only [before, place, Bool.or_eq_true, Bool.and_eq_true,
    decide_eq_true_eq, beq_iff_eq]
  omega

theorem place_injective {left right : NaiveDate}
    (same : left.place = right.place) : left = right := by
  have := left.month_valid
  have := left.day_valid
  have := right.month_valid
  have := right.day_valid
  have := daysIn_bounds left.year left.month
  have := daysIn_bounds right.year right.month
  unfold place at same
  apply NaiveDate.ext <;> omega

/-- What the next date is. -/
inductive Next (date next : NaiveDate) : Prop
  | day (same : next.year = date.year ∧ next.month = date.month)
      (later : next.day = date.day + 1)
  | month (last : date.day = daysIn date.year date.month)
      (later : next.year = date.year ∧ next.month = date.month + 1)
      (first : next.day = 1)
  | year (last : date.month = 12 ∧ date.day = 31)
      (later : next.year = date.year + 1) (first : next.month = 1 ∧ next.day = 1)

theorem next_of_succ? {date next : NaiveDate} (found : date.succ? = some next) :
    Next date next := by
  have last := date.day_valid.2
  have month := date.month_valid.2
  unfold succ? at found
  by_cases within : date.day < daysIn date.year date.month
  · rw [if_pos within] at found
    obtain ⟨year, month, day⟩ := of_make? found
    exact .day ⟨year, month⟩ day
  · rw [if_neg within] at found
    have whole : date.day = daysIn date.year date.month := by omega
    split at found
    · obtain ⟨year, month, day⟩ := of_make? found
      exact .month whole ⟨year, month⟩ day
    · obtain ⟨year, month, day⟩ := of_make? found
      have december : date.month = 12 := by omega
      rw [december] at whole
      exact .year ⟨december, whole⟩ year ⟨month, day⟩

theorem isLeapYear_iff (year : Int) :
    isLeapYear year = true ↔
      year % 4 = 0 ∧ (¬year % 100 = 0 ∨ year % 400 = 0) := by
  simp [isLeapYear]

theorem dayNumber_succ {date next : NaiveDate}
    (found : date.succ? = some next) :
    next.dayNumber = date.dayNumber + 1 := by
  obtain ⟨first, last⟩ := date.month_valid
  have positive := date.day_valid.1
  unfold dayNumber
  cases next_of_succ? found with
  | day same later =>
      rw [same.1, same.2, later]
      dsimp only
      omega
  | month whole later first =>
      rw [later.1, later.2, first, whole]
      generalize date.month = month at *
      generalize date.year = year at *
      unfold daysIn
      simp only [isLeapYear_iff]
      interval_cases month <;> simp <;> omega
  | year whole later first =>
      rw [whole.1, whole.2, later, first.1, first.2]
      simp
      omega

/-- A date that is before another one has a next one, which is not after it. -/
theorem succ?_of_before {date last : NaiveDate}
    (earlier : date.before last = true) :
    ∃ next, date.succ? = some next ∧ last.before next = false := by
  have dateYear := date.year_valid
  have dateMonth := date.month_valid
  have dateDay := date.day_valid
  have lastYear := last.year_valid
  have lastMonth := last.month_valid
  have lastDay := last.day_valid
  have dateDays := daysIn_bounds date.year date.month
  have lastDays := daysIn_bounds last.year last.month
  have lastOf : last.year = date.year → last.month = date.month →
      last.day ≤ daysIn date.year date.month := by
    intro year month
    rw [← year, ← month]
    exact lastDay.2
  rw [before_iff] at earlier
  unfold place at earlier
  have made {year : Int} {month day : Nat}
      (valid : (minYear ≤ year ∧ year ≤ maxYear) ∧ (1 ≤ month ∧ month ≤ 12) ∧
        1 ≤ day ∧ day ≤ daysIn year month)
      (within : (year * 13 + month) * 32 + day ≤ last.place) :
      ∃ next, make? year month day = some next ∧ last.before next = false := by
    refine ⟨_, dif_pos valid, ?_⟩
    rw [Bool.eq_false_iff, Ne, before_iff]
    exact Int.not_lt.mpr within
  unfold place at made
  unfold succ?
  split
  · exact made ⟨dateYear, dateMonth, by omega⟩ (by omega)
  · split
    · have first := daysIn_bounds date.year (date.month + 1)
      exact made ⟨dateYear, by omega⟩ (by omega)
    · have first := daysIn_bounds (date.year + 1) 1
      exact made ⟨by omega, by omega⟩ (by omega)

theorem place_succ {date next : NaiveDate} (found : date.succ? = some next) :
    date.place < next.place := by
  have := date.day_valid
  have := daysIn_bounds date.year date.month
  have := date.month_valid
  unfold place
  cases next_of_succ? found with
  | day same later => omega
  | month _ later first => omega
  | year whole later first => omega

/-- A date that is not before another one comes some days after it. -/
theorem addDays?_of_not_before {first last : NaiveDate}
    (ordered : last.before first = false) :
    ∃ days, first.addDays? days = some last := by
  induction left : (last.place - first.place).toNat using Nat.strongRecOn
    generalizing first with
  | ind left ih =>
      by_cases earlier : first.before last = true
      · obtain ⟨next, found, onwards⟩ := succ?_of_before earlier
        have later := place_succ found
        rw [before_iff] at earlier
        obtain ⟨days, reached⟩ := ih _ (by omega) onwards rfl
        refine ⟨days + 1, ?_⟩
        rw [addDays?, found]
        exact reached
      · rw [before_iff] at earlier
        rw [Bool.eq_false_iff, Ne, before_iff] at ordered
        have same := @place_injective first last (by omega)
        exact ⟨0, congrArg some same⟩

theorem dayNumber_addDays {first last : NaiveDate} {days : Nat}
    (reached : first.addDays? days = some last) :
    last.dayNumber = first.dayNumber + days := by
  induction days generalizing first with
  | zero =>
      cases reached
      exact (Int.add_zero _).symm
  | succ days ih =>
      obtain ⟨next, found, reached⟩ := Option.bind_eq_some_iff.mp reached
      have step := dayNumber_succ found
      have rest := ih reached
      omega

theorem succ?_of_four {date : NaiveDate} (four : date.year ≤ 9999) :
    ∃ next, date.succ? = some next := by
  have month := date.month_valid
  have day := date.day_valid
  have days := daysIn_bounds date.year date.month
  let later : NaiveDate :=
    ⟨10000, 1, 1, by decide, by decide, by decide⟩
  have earlier : date.before later = true := by
    rw [before_iff]
    unfold place
    dsimp only [later]
    omega
  obtain ⟨next, found, _⟩ := succ?_of_before earlier
  exact ⟨next, found⟩

/-- What is before a date is what is not after the date of the day before. -/
theorem pred?_of_before {first date : NaiveDate}
    (earlier : first.before date = true) :
    ∃ last, date.pred? = some last ∧
      ∀ day : NaiveDate, day.before date = true ↔ last.before day = false := by
  have firstYear := first.year_valid
  have firstMonth := first.month_valid
  have firstDay := first.day_valid
  have dateYear := date.year_valid
  have dateMonth := date.month_valid
  have dateDay := date.day_valid
  have dateDays := daysIn_bounds date.year date.month
  rw [before_iff] at earlier
  unfold place at earlier
  have made {year : Int} {month day : Nat}
      (valid : (minYear ≤ year ∧ year ≤ maxYear) ∧ (1 ≤ month ∧ month ≤ 12) ∧
        1 ≤ day ∧ day ≤ daysIn year month)
      (adjoins : ∀ other : NaiveDate,
        other.place < date.place ↔
          other.place ≤ (year * 13 + month) * 32 + day) :
      ∃ last, make? year month day = some last ∧ ∀ other : NaiveDate,
        other.before date = true ↔ last.before other = false := by
    refine ⟨_, dif_pos valid, fun other => ?_⟩
    rw [before_iff, Bool.eq_false_iff, Ne, before_iff, Int.not_lt]
    exact adjoins other
  unfold pred?
  split
  · apply made ⟨dateYear, dateMonth, by omega⟩
    intro other
    unfold place
    omega
  · split
    · have last := daysIn_bounds date.year (date.month - 1)
      apply made ⟨dateYear, by omega⟩
      intro other
      have month := other.month_valid
      have day := other.day_valid
      have days := daysIn_bounds other.year other.month
      have within : other.year = date.year → other.month = date.month - 1 →
          other.day ≤ daysIn date.year (date.month - 1) := by
        intro year month
        rw [← year, ← month]
        exact day.2
      unfold place
      omega
    · have last := daysIn_bounds (date.year - 1) 12
      have december : daysIn (date.year - 1) 12 = 31 := rfl
      apply made ⟨by omega, by omega⟩
      intro other
      have month := other.month_valid
      have day := other.day_valid
      have days := daysIn_bounds other.year other.month
      unfold place
      omega

/-- What is before the next date is what is not after the date. -/
theorem before_succ_iff {date next : NaiveDate}
    (found : date.succ? = some next) (day : NaiveDate) :
    day.before next = true ↔ date.before day = false := by
  have later := place_succ found
  constructor
  · intro earlier
    rw [Bool.eq_false_iff]
    intro after
    obtain ⟨other, same, onwards⟩ := succ?_of_before after
    obtain rfl := Option.some.inj (found.symm.trans same)
    rw [earlier] at onwards
    cases onwards
  · intro upTo
    rw [Bool.eq_false_iff, Ne, before_iff] at upTo
    rw [before_iff]
    omega

theorem dayNumber_lt {first last : NaiveDate}
    (earlier : first.before last = true) : first.dayNumber < last.dayNumber := by
  rw [before_iff] at earlier
  have ordered : last.before first = false := by
    rw [Bool.eq_false_iff, Ne, before_iff]
    omega
  obtain ⟨days, reached⟩ := addDays?_of_not_before ordered
  have number := dayNumber_addDays reached
  cases days with
  | zero =>
      cases reached
      omega
  | succ days => omega

end BarDaemon.NaiveDate
