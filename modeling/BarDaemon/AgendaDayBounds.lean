import BarDaemon.AgendaCatalogs
import BarDaemon.ZoneTables

/-!
# The bounds of a day

A day lasts from the first instant of its first second to that of the next
day. Where the clock does not go back behind what it showed when it reached one
of them, those are the instants of the day, also when there are none.
-/

namespace BarDaemon.Agendas

open LocalClocks

theorem findSome?_range {α : Type} {f : Nat → Option α} {count place : Nat}
    {found : α} (within : place < count) (before : ∀ other < place, f other = none)
    (here : f place = some found) :
    (List.range count).findSome? f = some found := by
  induction count with
  | zero => omega
  | succ count ih =>
      rw [List.range_succ, List.findSome?_append]
      by_cases earlier : place < count
      · rw [ih earlier, Option.some_or]
      · have last : place = count := by omega
        have none : (List.range count).findSome? f = none := by
          rw [List.findSome?_eq_none_iff]
          intro other among
          exact before other (by rw [last]; exact List.mem_range.mp among)
        rw [none, Option.none_or, ← last, List.findSome?_cons, here]

variable {table : ZoneTable} {p : Projection}

/-! ## Midnight -/

/-- The midnight of a day is the instant that opens it. -/
theorem midnight_of_opens {day next : NaiveDate} {start : Int}
    (zone : p.zone.earliest = table.earliest)
    (opens : Opens table.clock day.index start)
    (within : ZoneTable.representable start = true)
    (succeeds : day.addDays? 1 = some next) :
    ∃ midnight, p.midnight day = some midnight ∧
      midnight.val = 1000 * start := by
  have reached := opens.reached
  have atMost := opens.day_le table.clock_near
  obtain ⟨place, shown⟩ := Int.eq_ofNat_of_zero_le
    (a := LocalClocks.day table.clock start - day.index) (by omega)
  obtain ⟨date, arrives⟩ := NaiveDate.addDays?_prefix succeeds
    (show place ≤ 1 by omega)
  have number := NaiveDate.index_addDays arrives
  obtain ⟨second, remainder⟩ := Int.eq_ofNat_of_zero_le
    (a := table.clock start - 86400 * date.index)
    (by unfold LocalClocks.day at shown; omega)
  have onDate : second < 86400 := by
    unfold LocalClocks.day at shown
    omega
  have first : table.firstInstant (86400 * date.index + second) =
      some start := by
    rw [← ZoneTable.firstInstant_opens opens within]
    congr 1
    omega
  have unseen {other : NaiveDate} {instant : Nat}
      (onOrAfter : day.index ≤ other.index)
      (before : 86400 * other.index + instant <
        86400 * date.index + second) :
      p.zone.earliest other instant = none := by
    rw [zone]
    apply ZoneTable.earliest_eq_none
    exact ZoneTable.firstInstant_unseen opens (by omega) (by omega)
  obtain ⟨midnight, found, value⟩ := ZoneTable.earliest_of_firstInstant first
  refine ⟨midnight, findSome?_range (show place < 3 by omega) ?_ ?_, value⟩
  · intro earlier before
    cases passed : day.addDays? earlier with
    | none => rfl
    | some other =>
        have between := NaiveDate.index_addDays passed
        rw [Option.bind_some, List.findSome?_eq_none_iff]
        intro instant among
        rw [List.mem_range] at among
        exact unseen (by omega) (by omega)
  · rw [arrives, Option.bind_some]
    refine findSome?_range onDate (fun instant before => ?_) (zone ▸ found)
    exact unseen (by omega) (by omega)

/-! ## Bounds -/

/-- The bounds of a day contain the milliseconds at which it is shown. -/
def BoundsRight (p : Projection) (table : ZoneTable) (day : NaiveDate) : Prop :=
  ∃ first last, p.bounds day = some (first, last) ∧
    ∀ millis, table.dayAt millis = day.index ↔
      first.val ≤ millis ∧ millis < last.val

/-- A zone's clock does not go back behind what it showed when it reached a day
or the day after it. -/
def Steady (table : ZoneTable) (day : NaiveDate) : Prop :=
  Sound table.clock day.index ∧ Sound table.clock (day.index + 1)

/-- The bounds of a day are the instants that open it and the next day. -/
theorem bounds_of_opens {day third : NaiveDate} {start stop : Int}
    (zone : p.zone.earliest = table.earliest)
    (two : day.addDays? 2 = some third)
    (starts : Opens table.clock day.index start)
    (stops : Opens table.clock (day.index + 1) stop)
    (startWithin : ZoneTable.representable start = true)
    (stopWithin : ZoneTable.representable stop = true) :
    ∃ first last, p.bounds day = some (first, last) ∧
      first.val = 1000 * start ∧ last.val = 1000 * stop := by
  obtain ⟨next, found, onwards⟩ := Option.bind_eq_some_iff.mp two
  have one : day.addDays? 1 = some next :=
    Option.bind_eq_some_iff.mpr ⟨next, found, rfl⟩
  have later : next.index = day.index + 1 := NaiveDate.index_addDays one
  obtain ⟨first, firstIs, firstValue⟩ :=
    midnight_of_opens zone starts startWithin one
  obtain ⟨last, lastIs, lastValue⟩ :=
    midnight_of_opens zone (later ▸ stops) stopWithin onwards
  refine ⟨first, last, ?_, firstValue, lastValue⟩
  unfold Projection.bounds
  rw [firstIs, found, Option.bind_some, lastIs]

theorem boundsRight_of_steady {day third : NaiveDate}
    (zone : p.zone.earliest = table.earliest)
    (notFirst : NaiveDate.first.index < day.index)
    (two : day.addDays? 2 = some third) (steady : Steady table day) :
    BoundsRight p table day := by
  have near := table.clock_near
  have whole := third.index_bounds.2
  have number := NaiveDate.index_addDays two
  obtain ⟨start, reaches⟩ := exists_reaches near day.index
  obtain ⟨stop, reachesNext⟩ := exists_reaches near (day.index + 1)
  have starts := steady.1.opens reaches
  have stops := steady.2.opens reachesNext
  obtain ⟨first, last, bounds, firstValue, lastValue⟩ :=
    bounds_of_opens zone two starts stops
      (ZoneTable.representable_of_reaches reaches notFirst (by omega))
      (ZoneTable.representable_of_reaches reachesNext (by omega) (by omega))
  refine ⟨first, last, bounds, fun millis => ?_⟩
  have shown := steady.1.right near steady.2 start stop starts stops
    (millis / 1000)
  unfold ZoneTable.dayAt
  rw [shown]
  omega

/-- Bounds that are right are those of a day that is an interval. -/
theorem right_of_boundsRight {day : NaiveDate}
    (zone : p.zone.earliest = table.earliest)
    (notFirst : NaiveDate.first.index < day.index)
    (notLast : day.index + 3 ≤ NaiveDate.last.index)
    (right : BoundsRight p table day) : Right table.clock day.index := by
  intro start stop starts stops instant
  obtain ⟨third, two⟩ := NaiveDate.addDays?_of_index day 2 (by omega)
  obtain ⟨first, last, bounds, firstValue, lastValue⟩ :=
    bounds_of_opens zone two starts stops
      (ZoneTable.representable_of_opens starts notFirst (by omega))
      (ZoneTable.representable_of_opens stops (by omega) (by omega))
  obtain ⟨_, _, found, shown⟩ := right
  cases bounds.symm.trans found
  have here := shown (1000 * instant)
  unfold ZoneTable.dayAt at here
  rw [Int.mul_ediv_cancel_left instant (by decide)] at here
  rw [here]
  omega

/-- Where the bounds of the days around a day that are shown at all are right,
the clock does not go back behind it. -/
theorem sound_of_boundsRight {day : NaiveDate}
    (zone : p.zone.earliest = table.earliest)
    (notFirst : NaiveDate.first.index + 3 ≤ day.index)
    (notLast : day.index + 4 ≤ NaiveDate.last.index)
    (right : ∀ other : NaiveDate, day.index - 2 ≤ other.index →
      other.index ≤ day.index + 1 →
      (∃ millis, table.dayAt millis = other.index) →
      BoundsRight p table other) : Sound table.clock day.index := by
  apply sound_of_right table.clock_near
  rintro shown lower upper ⟨instant, shows⟩
  obtain ⟨other, number⟩ := NaiveDate.exists_index shown (by omega)
    (by omega)
  subst number
  apply right_of_boundsRight zone (by omega) (by omega)
  refine right other lower upper ⟨1000 * instant, ?_⟩
  unfold ZoneTable.dayAt
  rw [Int.mul_ediv_cancel_left instant (by decide)]
  exact shows

/-! ## Listing -/

/-- The milliseconds of a timed entry. -/
def Membership.Covers (millis : Int) : Membership → Prop
  | .civil _ _ => False
  | .timed start stop => start.val ≤ millis ∧ millis < stop.val
  | .instant start => millis = start.val

/-- Entries with times are listed where one of their milliseconds is within the
bounds. -/
theorem includes_iff_covers {day : NaiveDate} {first last : I64}
    {membership : Membership}
    (timed : ∀ start stop, membership ≠ .civil start stop) :
    membership.includes day (some (first, last)) = true ↔
      ∃ millis, membership.Covers millis ∧
        first.val ≤ millis ∧ millis < last.val := by
  cases membership with
  | civil start stop => exact absurd rfl (timed start stop)
  | timed start stop =>
      simp only [Membership.includes, Membership.Covers, Option.any_some,
        Bool.and_eq_true, decide_eq_true_eq]
      constructor
      · rintro ⟨⟨⟨_, _⟩, _⟩, _⟩
        exact ⟨max start.val first.val, by omega, by omega⟩
      · rintro ⟨millis, _, _⟩
        omega
  | instant start =>
      simp [Membership.includes, Membership.Covers]

theorem membership_timed {schedule : Schedule} (timed : schedule.mode = .timed)
    {membership : Membership} (found : p.membership schedule = some membership)
    (start stop : NaiveDate) : membership ≠ .civil start stop := by
  unfold Projection.membership at found
  simp only [timed] at found
  split at found
  · cases found
  · split at found
    · cases found
      exact Membership.noConfusion
    · split at found
      · cases found
        exact Membership.noConfusion
      · cases found

theorem includes_timed_iff {schedule : Schedule} {day : NaiveDate}
    (timed : schedule.mode = .timed) (right : BoundsRight p table day) :
    p.includes schedule day = true ↔
      ∃ membership, p.membership schedule = some membership ∧
        ∃ millis, membership.Covers millis ∧
          table.dayAt millis = day.index := by
  obtain ⟨first, last, bounds, shown⟩ := right
  unfold Projection.includes
  rw [Option.any_eq_true, bounds]
  simp only [shown]
  constructor
  · rintro ⟨membership, found, included⟩
    exact ⟨membership, found,
      (includes_iff_covers (membership_timed timed found)).mp included⟩
  · rintro ⟨membership, found, covered⟩
    exact ⟨membership, found,
      (includes_iff_covers (membership_timed timed found)).mpr covered⟩

/-- The membership of an entry with both ends. -/
theorem membership_between {p : Projection} {schedule : Schedule}
    {start stop : I64}
    (timed : schedule.mode = .timed)
    (starts : schedule.startUnixMs = some start)
    (stops : schedule.endUnixMs = some stop) :
    p.membership schedule =
      if start = stop then some (.instant start)
      else if start.val < stop.val then some (.timed start stop) else none := by
  have equal : start = stop ↔ start.val = stop.val := Subtype.ext_iff
  unfold Projection.membership Projection.timedRange
  simp only [timed, starts, stops]
  by_cases ordered : start.val ≤ stop.val
  · simp [ordered]
  · have differ : start ≠ stop := by
      rw [Ne, equal]
      omega
    have after : ¬start.val < stop.val := by omega
    simp [ordered, differ, after]

/-- The milliseconds of an entry that has both ends, which may be the same. -/
def Between (start stop millis : Int) : Prop :=
  start ≤ millis ∧ millis < stop ∨ millis = start ∧ start = stop

theorem covers_between {schedule : Schedule} {start stop : I64}
    (timed : schedule.mode = .timed)
    (starts : schedule.startUnixMs = some start)
    (stops : schedule.endUnixMs = some stop) (millis : Int) :
    (∃ membership, p.membership schedule = some membership ∧
      membership.Covers millis) ↔ Between start.val stop.val millis := by
  have equal : start = stop ↔ start.val = stop.val := Subtype.ext_iff
  rw [membership_between timed starts stops]
  unfold Between
  by_cases same : start = stop
  · rw [if_pos same]
    simp only [Option.some.injEq, exists_eq_left', Membership.Covers]
    rw [equal] at same
    omega
  · rw [if_neg same]
    rw [equal] at same
    by_cases before : start.val < stop.val
    · rw [if_pos before]
      simp only [Option.some.injEq, exists_eq_left', Membership.Covers]
      omega
    · rw [if_neg before]
      simp only [reduceCtorEq, false_and, exists_false, false_iff]
      omega

/-- The bounds of a day and the list of what is on it agree with the clock of
the zone. -/
structure DayListed (p : Projection) (table : ZoneTable) (day : NaiveDate) :
    Prop where
  bounds : BoundsRight p table day
  timed : ∀ schedule, schedule.mode = .timed →
    (p.includes schedule day = true ↔
      ∃ membership, p.membership schedule = some membership ∧
        ∃ millis, membership.Covers millis ∧ table.dayAt millis = day.index)
  between : ∀ schedule, schedule.mode = .timed →
    ∀ start stop, schedule.startUnixMs = some start →
      schedule.endUnixMs = some stop →
      (p.includes schedule day = true ↔
        ∃ millis, Between start.val stop.val millis ∧
          table.dayAt millis = day.index)

theorem BoundsRight.listed {day : NaiveDate} (right : BoundsRight p table day) :
    DayListed p table day where
  bounds := right
  timed schedule timed := includes_timed_iff timed right
  between schedule timed start stop starts stops := by
    rw [includes_timed_iff timed right]
    constructor
    · rintro ⟨membership, found, millis, covers, shown⟩
      exact ⟨millis, (covers_between timed starts stops millis).mp
        ⟨membership, found, covers⟩, shown⟩
    · rintro ⟨millis, between, shown⟩
      obtain ⟨membership, found, covers⟩ :=
        (covers_between timed starts stops millis).mpr between
      exact ⟨membership, found, millis, covers, shown⟩

/-- For every table of a zone and every day but the first and the last two of
the calendar, the bounds are right and timed entries are listed on it when one of
their milliseconds is on it, where the clock is steady. It is, where the bounds
of the days around it that are shown are right. -/
theorem listed_where_steady (table : ZoneTable) (p : Projection)
    (zone : p.zone.earliest = table.earliest) :
    (∀ day third, NaiveDate.first.before day = true →
      day.addDays? 2 = some third → Steady table day →
      DayListed p table day) ∧
    ∀ day : NaiveDate, NaiveDate.first.index + 3 ≤ day.index →
      day.index + 5 ≤ NaiveDate.last.index →
      (∀ other : NaiveDate, day.index - 2 ≤ other.index →
        other.index ≤ day.index + 2 →
        (∃ millis, table.dayAt millis = other.index) →
        BoundsRight p table other) →
      Steady table day := by
  constructor
  · intro day third notFirst two steady
    have earlier := NaiveDate.dayNumber_lt notFirst
    exact (boundsRight_of_steady zone (by unfold NaiveDate.index; omega) two
      steady).listed
  · intro day notFirst notLast right
    obtain ⟨next, found⟩ := NaiveDate.addDays?_of_index day 1 (by omega)
    have later : next.index = day.index + 1 := NaiveDate.index_addDays found
    refine ⟨sound_of_boundsRight zone notFirst (by omega) ?_, ?_⟩
    · intro other lower upper
      exact right other lower (by omega)
    · rw [← later]
      apply sound_of_boundsRight zone (by omega) (by omega)
      intro other lower upper
      exact right other (by omega) (by omega)

/-- The zone of a table. -/
def tableZone (table : ZoneTable) : Zone where
  earliest := table.earliest
  localDate := table.localDate

/-- A zone that left out the 30th of December 2011. -/
def apia : ZoneTable where
  initial := -36000
  transitions := [(1325239200, 50400)]
  sorted := by decide
  bounded := by decide

def december (day : Nat) (valid : 1 ≤ day ∧ day ≤ 31) : NaiveDate :=
  ⟨2011, 12, day, by decide, NaiveDate.december_valid, valid⟩

theorem clock_apia (instant : Int) : apia.clock instant =
    if 1325239200 ≤ instant then instant + 50400 else instant - 36000 := by
  unfold ZoneTable.clock ZoneTable.offsetAt apia
  by_cases passed : 1325239200 ≤ instant
  · simp [List.takeWhile, passed]
  · simp [List.takeWhile, passed]
    rfl

theorem apia_forward (earlier later : Int) (ordered : earlier ≤ later) :
    apia.clock earlier ≤ apia.clock later := by
  rw [clock_apia, clock_apia]
  split <;> split <;> omega

theorem apia_steady (day : NaiveDate) : Steady apia day :=
  ⟨sound_of_forward apia_forward _, sound_of_forward apia_forward _⟩

def apiaToday : Projection where
  today := december 29 (by decide)
  zone := tableZone apia

/-- The days before and after the one that was left out, and that one. -/
theorem listed_where_steady_skipped :
    DayListed apiaToday apia (december 29 (by decide)) ∧
      DayListed apiaToday apia (december 30 (by decide)) ∧
      DayListed apiaToday apia (december 31 (by decide)) ∧
      Steady apia (december 30 (by decide)) := by
  obtain ⟨listed, steady⟩ := listed_where_steady apia apiaToday rfl
  refine ⟨listed _ (december 31 (by decide)) (by decide) (by decide)
      (apia_steady _),
    listed _ ⟨2012, 1, 1, by decide, by decide, by decide⟩ (by decide)
      (by decide) (apia_steady _),
    listed _ ⟨2012, 1, 2, by decide, by decide, by decide⟩ (by decide)
      (by decide) (apia_steady _), ?_⟩
  have first : NaiveDate.first.index = -96465292 := by decide
  have last : NaiveDate.last.index = 95026236 := by decide
  have here : (december 30 (by decide)).index = 15338 := by decide
  apply steady _ (by omega) (by omega)
  intro other lower upper _
  obtain ⟨third, two⟩ := NaiveDate.addDays?_of_index other 2 (by omega)
  exact boundsRight_of_steady (p := apiaToday) rfl (by omega) two (apia_steady other)

/-- A zone that was set back by an hour a minute after midnight of the 7th of
November 2010. -/
def stJohns : ZoneTable where
  initial := -9000
  transitions := [(1289097060, -12600)]
  sorted := by decide
  bounded := by decide

def november (day : Nat) (valid : 1 ≤ day ∧ day ≤ 30) : NaiveDate :=
  ⟨2010, 11, day, by decide, by decide, valid⟩

theorem clock_stJohns (instant : Int) : stJohns.clock instant =
    if 1289097060 ≤ instant then instant - 12600 else instant - 9000 := by
  unfold ZoneTable.clock ZoneTable.offsetAt stJohns
  by_cases passed : 1289097060 ≤ instant
  · simp [List.takeWhile, passed]
    rfl
  · simp [List.takeWhile, passed]
    rfl

/-- The second that opens a day is its midnight, when that is shown. -/
theorem opens_of_midnight {clock : Int → Int} {day instant : Int}
    (shows : clock instant = 86400 * day)
    (earliest : ∀ other, clock other = 86400 * day → instant ≤ other) :
    Opens clock day instant where
  reached := first_le_day_iff.mpr shows.ge
  least _ reached := shows ▸ first_le_day_iff.mp reached
  earliest other same := earliest other (same.trans shows)

theorem stJohns_opens (place : Int) (within : 14919 ≤ place ∧ place ≤ 14921) :
    Opens stJohns.clock place
      (86400 * place + if place ≤ 14920 then 9000 else 12600) := by
  apply opens_of_midnight
  · rw [clock_stJohns]
    split <;> split <;> omega
  · intro other shows
    rw [clock_stJohns] at shows
    split at shows <;> split <;> omega

/-- Half an hour after the clock was set back. -/
def lateShow : Schedule where
  mode := .timed
  startDate := none
  endDate := none
  startUnixMs := some ⟨1289097060000, by decide⟩
  endUnixMs := some ⟨1289098860000, by decide⟩
  timezone := some "America/St_Johns"

theorem lateShow_shown (millis : Int)
    (between : Between 1289097060000 1289098860000 millis) :
    stJohns.dayAt millis = 14919 := by
  unfold Between at between
  unfold ZoneTable.dayAt LocalClocks.day
  rw [clock_stJohns]
  split <;> omega

theorem lateShow_included {day : NaiveDate} {first last : I64}
    (bounds : p.bounds day = some (first, last)) :
    p.includes lateShow day = true ↔ first.val < last.val ∧
      1289097060000 < last.val ∧ first.val < 1289098860000 := by
  have membership := @membership_between p lateShow _ _ rfl rfl rfl
  rw [if_neg (by decide), if_pos (by decide)] at membership
  unfold Projection.includes
  rw [membership, bounds]
  simp only [Option.any_some, Membership.includes, Bool.and_eq_true,
    decide_eq_true_eq]
  omega

theorem stJohns_bounds (p : Projection) (day third : NaiveDate)
    (zone : p.zone.earliest = stJohns.earliest)
    (within : 14919 ≤ day.index ∧ day.index ≤ 14920)
    (two : day.addDays? 2 = some third) :
    ∃ first last, p.bounds day = some (first, last) ∧
      first.val = 1000 * (86400 * day.index + 9000) ∧
      last.val = 1000 * (86400 * (day.index + 1) +
        if day.index + 1 ≤ 14920 then 9000 else 12600) := by
  have firstDate : NaiveDate.first.index = -96465292 := by decide
  have lastDate : NaiveDate.last.index = 95026236 := by decide
  have starts := stJohns_opens day.index (by omega)
  have stops := stJohns_opens (day.index + 1) (by omega)
  rw [if_pos within.2] at starts
  exact bounds_of_opens zone two starts stops
    (ZoneTable.representable_of_opens starts (by omega) (by omega))
    (ZoneTable.representable_of_opens stops (by omega) (by omega))

def stJohnsToday : Projection where
  today := november 6 (by decide)
  zone := tableZone stJohns

/-- An entry whose milliseconds are all on one day is listed on the next day and
not on its own. The last date of the calendar has no bounds. -/
theorem set_back_over_midnight :
    (∃ millis, Between 1289097060000 1289098860000 millis) ∧
      (∀ millis, Between 1289097060000 1289098860000 millis →
        stJohns.dayAt millis = (november 6 (by decide)).index) ∧
      stJohnsToday.includes lateShow (november 6 (by decide)) = false ∧
      stJohnsToday.includes lateShow (november 7 (by decide)) = true ∧
      ¬BoundsRight stJohnsToday stJohns (november 6 (by decide)) ∧
      ¬BoundsRight stJohnsToday stJohns (november 7 (by decide)) ∧
      (∃ millis, stJohns.dayAt millis = (november 7 (by decide)).index) ∧
      stJohnsToday.bounds NaiveDate.last = none := by
  have sixthIs : (november 6 (by decide)).index = 14919 := by decide
  have seventhIs : (november 7 (by decide)).index = 14920 := by decide
  obtain ⟨first, last, bounds, firstValue, lastValue⟩ :=
    stJohns_bounds stJohnsToday (november 6 (by decide))
      (november 8 (by decide)) rfl (by omega) (by decide)
  obtain ⟨start, stop, boundsNext, startValue, stopValue⟩ :=
    stJohns_bounds stJohnsToday (november 7 (by decide))
      (november 9 (by decide)) rfl (by omega) (by decide)
  rw [sixthIs] at firstValue lastValue
  rw [seventhIs] at startValue stopValue
  norm_num at firstValue lastValue startValue stopValue
  have shown := lateShow_shown 1289097060000
    (.inl ⟨Int.le_refl _, by decide⟩)
  refine ⟨⟨1289097060000, .inl ⟨Int.le_refl _, by decide⟩⟩,
    fun millis among => (lateShow_shown millis among).trans sixthIs.symm, ?_, ?_, ?_, ?_,
    ?_, ?_⟩
  · rw [Bool.eq_false_iff, Ne, lateShow_included bounds]
    omega
  · rw [lateShow_included boundsNext]
    omega
  · rintro ⟨_, _, found, right⟩
    cases bounds.symm.trans found
    have here := right 1289097060000
    rw [shown] at here
    omega
  · rintro ⟨_, _, found, right⟩
    cases boundsNext.symm.trans found
    have here := right 1289097060000
    rw [shown] at here
    omega
  · refine ⟨1289097000000, ?_⟩
    unfold ZoneTable.dayAt LocalClocks.day
    rw [clock_stJohns, seventhIs]
    norm_num
  · have none : NaiveDate.last.succ? = none := by decide
    unfold Projection.bounds
    rw [none, Option.bind_none]
    cases stJohnsToday.midnight NaiveDate.last <;> rfl

end BarDaemon.Agendas
