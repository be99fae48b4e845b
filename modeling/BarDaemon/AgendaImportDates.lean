import BarDaemon.AgendaImports
import BarDaemon.AgendaPages
import BarDaemon.NaiveDateTexts

/-!
# The days of imported events

An event of calendar dates is listed on the days from its first date up to its
exclusive end, or on its first date where it has no end.
-/

namespace BarDaemon.Agendas

open Calendars CharacterLists CompactJson FallibleSteps NaiveDate

variable {Moment Zone : Type} {zones : Chrono NaiveDate Moment Zone}

/-! ## Reading -/

/-- The properties of an event, in their order. -/
def readProperties (chrono : Chrono NaiveDate Moment Zone)
    (properties : List (Text × Text)) (builder : EventBuilder) :
    Except Failure EventBuilder :=
  properties.foldlM (fun builder property =>
    parseEventProperty chrono builder property.1 property.2) builder

/-- A time that is a date. -/
structure OfDate (time : ParsedTime) (day : NaiveDate) : Prop where
  text : time.date = some day.text.toList
  instant : time.unixMs = utcMidnightMs day

/-- The times of a builder that are dates are those of dates. -/
structure Dated (builder : EventBuilder) : Prop where
  start : ∀ time, builder.start = some time → time.allDay = true →
    ∃ day, OfDate time day
  stop : ∀ time, builder.stop = some time → time.allDay = true →
    ∃ day, OfDate time day

theorem dated_empty : Dated {} := by
  constructor
  · intro time absent
    cases absent
  · intro time absent
    cases absent

theorem localTime_timed {chrono : Chrono NaiveDate Moment Zone}
    {timezone : Text} {naive : Moment} {time : ParsedTime}
    (read : localTime chrono timezone naive = .ok time) :
    time.allDay = false := by
  rw [localTime, bind_eq_ok_iff] at read
  obtain ⟨zone, _, read⟩ := read
  split at read
  · cases read
  · rw [← Except.ok.inj read]

/-- Only a value that is a date makes a time that is one. -/
theorem parseTime_date {key value : Text} {time : ParsedTime}
    (read : parseTime (civilChrono zones) key value = .ok time)
    (whole : time.allDay = true) : ∃ day, OfDate time day := by
  unfold parseTime at read
  dsimp only at read
  split at read
  · obtain ⟨day, _, done⟩ := bind_eq_ok_iff.mp read
    obtain rfl := Except.ok.inj done
    exact ⟨day, rfl, rfl⟩
  · split at read
    · obtain ⟨moment, _, done⟩ := bind_eq_ok_iff.mp read
      rw [← Except.ok.inj done] at whole
      cases whole
    · obtain ⟨moment, _, read⟩ := bind_eq_ok_iff.mp read
      unfold floatingTime at read
      split at read
      · rw [localTime_timed read] at whole
        cases whole
      · cases read

/-- One property. -/
theorem dated_property {builder after : EventBuilder} {key value : Text}
    (dated : Dated builder)
    (read :
      parseEventProperty (civilChrono zones) builder key value = .ok after) :
    Dated after := by
  unfold parseEventProperty at read
  dsimp only at read
  split at read
  · obtain rfl := Except.ok.inj read
    exact ⟨dated.start, dated.stop⟩
  split at read
  · obtain rfl := Except.ok.inj read
    exact ⟨dated.start, dated.stop⟩
  split at read
  · obtain ⟨time, parsed, rfl⟩ := map_eq_ok_iff.mp read
    refine ⟨?_, dated.stop⟩
    intro other same whole
    obtain rfl := Option.some.inj same
    exact parseTime_date parsed whole
  split at read
  · obtain ⟨time, parsed, rfl⟩ := map_eq_ok_iff.mp read
    refine ⟨dated.start, ?_⟩
    intro other same whole
    obtain rfl := Option.some.inj same
    exact parseTime_date parsed whole
  split at read
  · obtain rfl := Except.ok.inj read
    exact ⟨dated.start, dated.stop⟩
  split at read
  · obtain rfl := Except.ok.inj read
    exact ⟨dated.start, dated.stop⟩
  split at read
  · obtain rfl := Except.ok.inj read
    exact ⟨dated.start, dated.stop⟩
  split at read
  · cases read
  · obtain rfl := Except.ok.inj read
    exact dated

/-- All properties of an event. -/
theorem dated_properties {properties : List (Text × Text)}
    {builder after : EventBuilder} (dated : Dated builder)
    (read : readProperties (civilChrono zones) properties builder =
      .ok after) : Dated after := by
  induction properties generalizing builder with
  | nil =>
      obtain rfl := Except.ok.inj read
      exact dated
  | cons property properties ih =>
      obtain ⟨next, first, rest⟩ := bind_eq_ok_iff.mp read
      exact ih (dated_property dated first) rest

/-! ## Importing -/

/-- `parse_from_str` reads the dates that have four digits for the year. -/
def Calendar.ReadsDates (calendar : Calendar) : Prop :=
  ∀ day : NaiveDate, 0 ≤ day.year → day.year ≤ 9999 →
    calendar.parsesDate day.text = true

/-- The schedule of the days from a first to a last one. -/
def dateSchedule (first last : NaiveDate) : Schedule where
  mode := .date
  startDate := some first.text
  endDate := some last.text
  startUnixMs := none
  endUnixMs := none
  timezone := none

theorem byteLength_text {day : NaiveDate}
    (four : 0 ≤ day.year ∧ day.year ≤ 9999) : byteLength day.text = 10 := by
  have whole := byteLength_of_ascii (text_ascii four)
  rw [String.ofList_toList] at whole
  rw [whole, length_text four]

theorem validate_dateSchedule {calendar : Calendar}
    (reads : calendar.ReadsDates) {first last : NaiveDate}
    (ordered : last.before first = false)
    (four : 0 ≤ first.year ∧ last.year ≤ 9999) :
    (dateSchedule first last).validate calendar true = .ok () := by
  have years : first.year ≤ last.year := by
    rw [Bool.eq_false_iff, Ne, before_iff] at ordered
    have firstMonth := first.month_valid
    have lastMonth := last.month_valid
    have lastDay := last.day_valid
    have firstDay := first.day_valid
    have days := daysIn_bounds last.year last.month
    have firstDays := daysIn_bounds first.year first.month
    unfold place at ordered
    omega
  have start := reads first four.1 (by omega)
  have stop := reads last (by omega) four.2
  have startLength := @byteLength_text first (by omega)
  have stopLength := @byteLength_text last (by omega)
  have texts := text_le_text four ordered
  simp [Schedule.validate, dateSchedule, whenSome, checkCivilDate, start, stop,
    startLength, stopLength, texts, ensure, ok_bind]

/-- Dates belong to the same days in every time zone. -/
theorem membership_dateSchedule (p : Projection) {first last : NaiveDate}
    (ordered : last.before first = false) :
    p.membership (dateSchedule first last) = some (.civil first last) := by
  simp [Projection.membership, Projection.storedDates, dateSchedule, date_text,
    Except.toOption, Projection.civilRange, ordered]

theorem imported_eq_ok {digest : String → String} {calendar : Calendar}
    {event : ActivityEvent} {record : Record}
    (succeeded : imported digest calendar event = .ok record) :
    importedSchedule event = .ok record.schedule := by
  simp only [imported, bind_eq_ok_iff] at succeeded
  obtain ⟨schedule, scheduled, _, _, _, _, done⟩ := succeeded
  obtain rfl := Except.ok.inj done
  exact scheduled

/-! ## Days -/

/-- The event is imported as one of dates, and every agenda lists it on the
days that are meant and on no other ones. -/
structure ListedOn (event : ActivityEvent) (first : NaiveDate)
    (days : NaiveDate → Prop) : Prop where
  scheduled : ∃ last, importedSchedule event = .ok (dateSchedule first last) ∧
    ∀ calendar : Calendar, calendar.ReadsDates → 0 ≤ first.year →
      last.year ≤ 9999 →
        (dateSchedule first last).validate calendar true = .ok ()
  included : ∀ digest calendar record,
    imported digest calendar event = .ok record →
      ∀ (p : Projection) (day : NaiveDate),
        p.includes record.schedule day = true ↔ days day
  listed : ∀ digest calendar record,
    imported digest calendar event = .ok record →
      ∀ (lowercase : String → String) (items : List Record)
        (built p : Projection) (day : NaiveDate), record ∈ items →
          (record ∈ (Catalog.new lowercase items built).onDay day
            (p.bounds day) ↔ days day)

/-- An event with the date of its exclusive end. -/
theorem listedOn_of_dates {event : ActivityEvent} {first stop : NaiveDate}
    (whole : event.allDay = true)
    (starts : event.startDate = some first.text.toList)
    (stops : event.endDate = some stop.text.toList)
    (earlier : first.before stop = true) :
    ListedOn event first fun day =>
      day.before first = false ∧ day.before stop = true := by
  obtain ⟨last, found, adjoins⟩ := pred?_of_before earlier
  have ordered := (adjoins first).mp earlier
  have scheduled : importedSchedule event = .ok (dateSchedule first last) := by
    rw [importedSchedule, if_pos whole, stops, starts]
    simp only [lastDate, String.ofList_toList, date_text, ok_bind, found]
    rw [Option.map_some, String.ofList_toList]
    rfl
  have included (day : NaiveDate) (bounds : Option (I64 × I64)) :
      (Membership.civil first last).includes day bounds = true ↔
        day.before first = false ∧ day.before stop = true := by
    rw [Membership.includes, adjoins day]
    simp
  have schedule_eq {digest : String → String} {calendar : Calendar}
      {record : Record} (made : imported digest calendar event = .ok record) :
      record.schedule = dateSchedule first last :=
    Except.ok.inj ((imported_eq_ok made).symm.trans scheduled)
  refine ⟨⟨last, scheduled, ?_⟩, ?_, ?_⟩
  · intro calendar reads start stop
    exact validate_dateSchedule reads ordered ⟨start, stop⟩
  · intro digest calendar record made p day
    rw [schedule_eq made, Projection.includes, membership_dateSchedule p ordered]
    exact included day (p.bounds day)
  · intro digest calendar record made lowercase items built p day among
    have onDay : includesDay built p day record = true ↔
        day.before first = false ∧ day.before stop = true := by
      rw [includesDay, schedule_eq made, membership_dateSchedule built ordered]
      exact included day (p.bounds day)
    rw [(Catalog.new_built lowercase built items).onDay_eq, List.mem_filter,
      (Catalog.new_perm lowercase built items).mem_iff, onDay]
    exact and_iff_right among

theorem ListedOn.congr {event : ActivityEvent} {first : NaiveDate}
    {days others : NaiveDate → Prop} (on : ListedOn event first days)
    (same : ∀ day, days day ↔ others day) : ListedOn event first others := by
  obtain rfl : days = others := funext fun day => propext (same day)
  exact on

/-- The end of an event that gives none. -/
def impliedStop (chrono : Chrono NaiveDate Moment Zone) (start : ParsedTime) :
    ParsedTime :=
  ⟨start.unixMs + if start.allDay then 86400000 else 0,
    start.date.bind chrono.dayAfter, start.allDay, none⟩

/-- An event whose end is a later date is made. -/
theorem finishEvent_dates {chrono : Chrono NaiveDate Moment Zone}
    {source : CalendarSource} {path : Text} {builder : EventBuilder}
    {start stop : ParsedTime} (kept : builder.cancelled = false)
    (starts : builder.start = some start)
    (stops : builder.stop.getD (impliedStop chrono start) = stop)
    (startWhole : start.allDay = true) (stopWhole : stop.allDay = true)
    (later : start.unixMs < stop.unixMs) :
    ∃ event, finishEvent chrono source path builder = .ok (some event) ∧
      event.allDay = true ∧ event.startDate = start.date ∧
      event.endDate = stop.date := by
  have stops : builder.stop.getD
      ⟨start.unixMs + if start.allDay then 86400000 else 0,
        start.date.bind chrono.dayAfter, start.allDay, none⟩ = stop := stops
  have upTo : start.unixMs ≤ stop.unixMs := later.le
  simp only [finishEvent, kept, starts, stops]
  rw [startWhole, stopWhole]
  simp only [decide_eq_true upTo, decide_eq_true later]
  exact ⟨_, rfl, rfl, rfl, rfl⟩

theorem utcMidnightMs_lt {first stop : NaiveDate}
    (earlier : first.before stop = true) :
    utcMidnightMs first < utcMidnightMs stop := by
  have numbers := dayNumber_lt earlier
  unfold utcMidnightMs
  omega

/-- The days of an event of dates, as its properties tell them. -/
theorem dates_listed {Moment Zone : Type}
    (zones : Chrono NaiveDate Moment Zone) (source : CalendarSource)
    (path : Text) (properties : List (Text × Text)) (builder : EventBuilder)
    (start : ParsedTime)
    (read : readProperties (civilChrono zones) properties {} = .ok builder)
    (kept : builder.cancelled = false) (starts : builder.start = some start)
    (whole : start.allDay = true) :
    ∃ first : NaiveDate, start.date = some first.text.toList ∧
      (builder.stop = none → first.year ≤ 9999 →
        ∃ event, finishEvent (civilChrono zones) source path builder =
            .ok (some event) ∧
          ListedOn event first fun day => day = first) ∧
      ∀ stop, builder.stop = some stop → stop.allDay = true →
        ∃ next : NaiveDate, stop.date = some next.text.toList ∧
          (first.before next = true →
            ∃ event, finishEvent (civilChrono zones) source path builder =
                .ok (some event) ∧
              ListedOn event first fun day =>
                day.before first = false ∧ day.before next = true) := by
  have dated : Dated builder := dated_properties dated_empty read
  obtain ⟨first, startDate⟩ := dated.start start starts whole
  refine ⟨first, startDate.text, ?_, ?_⟩
  · intro endless four
    obtain ⟨next, found⟩ := succ?_of_four four
    have dayAfter : (impliedStop (civilChrono zones) start).date =
        some next.text.toList := by
      rw [impliedStop, startDate.text]
      simp [civilChrono, date_text, Except.toOption, found]
    have later : start.unixMs <
        (impliedStop (civilChrono zones) start).unixMs := by
      rw [impliedStop, if_pos whole]
      exact Int.lt_add_of_pos_right _ (by decide)
    have stops : builder.stop.getD (impliedStop (civilChrono zones) start) =
        impliedStop (civilChrono zones) start := by
      rw [endless, Option.getD_none]
    have stopWhole : (impliedStop (civilChrono zones) start).allDay = true :=
      whole
    obtain ⟨event, made, allDay, startText, stopText⟩ :=
      finishEvent_dates kept starts stops whole stopWhole later
    have earlier : first.before next = true :=
      (before_iff first next).mpr (place_succ found)
    refine ⟨event, made, ?_⟩
    apply (listedOn_of_dates allDay (startText.trans startDate.text)
      (stopText.trans dayAfter) earlier).congr
    intro day
    rw [before_succ_iff found]
    constructor
    · rintro ⟨since, upTo⟩
      rw [Bool.eq_false_iff, Ne, before_iff] at since upTo
      exact place_injective (by omega)
    · rintro rfl
      have same : day.before day = false := by
        rw [Bool.eq_false_iff, Ne, before_iff]
        exact Int.lt_irrefl _
      exact ⟨same, same⟩
  · intro stop stops stopWhole
    obtain ⟨next, stopDate⟩ := dated.stop stop stops stopWhole
    refine ⟨next, stopDate.text, fun earlier => ?_⟩
    have later : start.unixMs < stop.unixMs := by
      rw [startDate.instant, stopDate.instant]
      exact utcMidnightMs_lt earlier
    obtain ⟨event, made, allDay, startText, stopText⟩ :=
      finishEvent_dates kept starts
        (by rw [stops, Option.getD_some]) whole stopWhole later
    exact ⟨event, made, listedOn_of_dates allDay
      (startText.trans startDate.text) (stopText.trans stopDate.text) earlier⟩

/-! ## A leap day and a duration -/

/-- Eight digits. -/
def compactDate (value : Text) : Except Failure NaiveDate :=
  match readDigits (value.take 4), readDigits ((value.drop 4).take 2),
      readDigits (value.drop 6) with
  | some year, some month, some day =>
      if value.length = 8 then
        match make? year month day with
        | some date => .ok date
        | none => .error ["input is out of range"]
      else .error ["trailing input"]
  | _, _, _ => .error ["input contains invalid characters"]

def sampleZones : Chrono NaiveDate Unit Unit where
  date := compactDate
  midnightMs := utcMidnightMs
  showDate := fun day => day.text.toList
  dayAfter := fun _ => none
  moment := fun _ => .error ["input contains invalid characters"]
  shortMoment := fun _ => .error ["input contains invalid characters"]
  utcMs := fun _ => 0
  zone := fun _ => .error ["failed to parse timezone"]
  zoneName := fun _ => []
  localMs := fun _ _ => none
  systemZone := none

def sampleSource : CalendarSource :=
  ⟨"home".toList, "Home".toList, "#3366ff".toList⟩

def sampleDate (month day : Nat) : Option NaiveDate :=
  make? 2024 month day

def sampleStart : NaiveDate :=
  ⟨2024, 2, 28, by decide, by decide, by decide⟩

def sampleStop : NaiveDate :=
  ⟨2024, 3, 2, by decide, NaiveDate.march_valid, by decide⟩

def sampleProperties : List (Text × Text) :=
  [("UID".toList, "trip".toList),
    ("DTSTART;VALUE=DATE".toList, "20240228".toList),
    ("DTEND;VALUE=DATE".toList, "20240302".toList)]

def sampleBuilder : EventBuilder where
  uid := "trip".toList
  start := some ⟨utcMidnightMs sampleStart, some sampleStart.text.toList,
    true, none⟩
  stop := some ⟨utcMidnightMs sampleStop, some sampleStop.text.toList, true,
    none⟩

theorem dates_listed_leap :
    ∃ event, finishEvent (civilChrono sampleZones) sampleSource [] sampleBuilder =
        .ok (some event) ∧
      ListedOn event sampleStart fun day =>
        day.before sampleStart = false ∧ day.before sampleStop = true := by
  obtain ⟨first, shown, _, ends⟩ := dates_listed sampleZones sampleSource []
    sampleProperties sampleBuilder _ (by decide +kernel) rfl rfl rfl
  obtain ⟨next, stopShown, listed⟩ := ends _ rfl rfl
  have same : sampleStart = first := text_injective
    (String.toList_injective (Option.some.inj shown))
  have stop : sampleStop = next := text_injective
    (String.toList_injective (Option.some.inj stopShown))
  rw [← same, ← stop] at listed
  exact listed (by decide)

def durationFile : Text :=
  ("BEGIN:VCALENDAR\nBEGIN:VEVENT\nUID:trip\nSUMMARY:Trip\n" ++
    "DTSTART;VALUE=DATE:20240228\nDURATION:P3D\nEND:VEVENT\n" ++
    "END:VCALENDAR\n").toList

def datesCalendar : Calendar where
  parsesDate := fun text => (date text).toOption.isSome
  knowsZone := fun zone => zone == "UTC"
  isInstant := fun _ => true

/-- The SHA-256 digest of the identity in the sample. -/
def sampleDigest (_ : String) : String :=
  "ae78c37c2a8c5fd709b56a7152fc0a1a5d974614e6dd085866e44f43e6231bf3"

def sampleProjection : Projection where
  today := sampleStart
  zone := ⟨fun _ _ => none, fun _ => none⟩

/-- A duration is not read: an event of three days is listed on its first day
alone. -/
theorem duration_is_not_read :
    (parseCalendar (civilChrono sampleZones) sampleSource []
        durationFile).toOption.map (fun events =>
      events.map fun event =>
        (imported sampleDigest datesCalendar event).toOption.map fun record =>
          [sampleDate 2 27, sampleDate 2 28, sampleDate 2 29,
            sampleDate 3 1].map fun day =>
              day.map (sampleProjection.includes record.schedule)) =
      some [some [some false, some true, some false, some false]] := by
  decide +kernel

end BarDaemon.Agendas
