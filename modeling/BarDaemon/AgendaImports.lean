import BarDaemon.AgendaCatalogs
import BarDaemon.CalendarEvents
import BarDaemon.NaiveDateSuccession

/-!
# Imported events

How an event of a calendar file becomes a record of the agenda, and the dates
that both sides write as texts.
-/

namespace BarDaemon.Agendas

open Calendars CharacterLists CompactJson FallibleSteps NaiveDate

/-! ## Dates of calendar files -/

/-- `and_hms_opt(0, 0, 0).and_utc().timestamp_millis()`; the first of January
1970 has the number 719468. -/
def utcMidnightMs (day : NaiveDate) : Int :=
  (day.dayNumber - 719468) * 86400000

/-- Dates that are shown and counted as the calendar library does it, with its
times and zones left open. -/
def civilChrono {Moment Zone : Type} (zones : Chrono NaiveDate Moment Zone) :
    Chrono NaiveDate Moment Zone :=
  { zones with
    midnightMs := utcMidnightMs
    showDate := fun day => day.text.toList
    dayAfter := fun text =>
      ((date (String.ofList text)).toOption.bind succ?).map fun next =>
        next.text.toList }

/-! ## Identity -/

/-- `strip_prefix` -/
def afterPrefix : Text → Text → Option Text
  | [], text => some text
  | _ :: _, [] => none
  | first :: beginning, char :: text =>
      if first = char then afterPrefix beginning text else none

/-- `rsplit_once`: what stands before the last separator. -/
def beforeLast (separator : Char) (text : Text) : Option Text :=
  (splitOnce separator text.reverse).map fun parts => parts.2.reverse

def sourceUid (event : ActivityEvent) : Option Text :=
  (afterPrefix (event.sourceId ++ [':']) event.id).bind (beforeLast ':')

/-- The identity of an imported event, with a digest of its source and UID. -/
def importedId (digest : String → String) (event : ActivityEvent) : String :=
  let uid := (sourceUid event).getD event.id
  "ics:" ++ digest (Json.arr [.str (String.ofList event.sourceId),
    .str (String.ofList uid)]).render

/-! ## Schedules -/

/-- The bits of an `i64`. -/
def asI64 (value : Int) : I64 :=
  ⟨value.bmod (2 ^ 64), by
    have low := Int.le_bmod (x := value) (m := 2 ^ 64) (by decide)
    have high := Int.bmod_lt (x := value) (m := 2 ^ 64) (by decide)
    have width : (i64Max : Int) = 9223372036854775807 := rfl
    omega⟩

/-- The last day of an event with an exclusive end. -/
def lastDate (stop : Option Text) : Except String NaiveDate :=
  match stop with
  | none => .error "missing ICS DTEND"
  | some text => do
      let stop ← date (String.ofList text)
      match stop.pred? with
      | none => .error "ICS end underflow"
      | some last => return last

def importedSchedule (event : ActivityEvent) : Except String Schedule :=
  if event.allDay then do
    let last ← lastDate event.endDate
    return {
      mode := .date
      startDate := event.startDate.map String.ofList
      endDate := some last.text
      startUnixMs := none
      endUnixMs := none
      timezone := none }
  else
    return {
      mode := .timed
      startDate := none
      endDate := none
      startUnixMs := some (asI64 event.startUnixMs)
      endUnixMs := some (asI64 event.endUnixMs)
      timezone := some ((event.timezone.map String.ofList).getD "UTC") }

/-- `Capabilities::default` -/
def Capabilities.default : Capabilities where
  write := false
  delete := false
  complete := false

def importedLinks (url : Text) : List Link :=
  if url.isEmpty then []
  else [⟨"source-url", "", String.ofList url⟩]

/-- `imported` -/
def imported (digest : String → String) (calendar : Calendar)
    (event : ActivityEvent) : Except String Record := do
  let schedule ← importedSchedule event
  schedule.validate calendar true
  let record : Record := {
    id := importedId digest event
    kind := .event
    sourceId := String.ofList event.sourceId
    sourceUid := (sourceUid event).map String.ofList
    revision := ⟨1, one_le_u64Max⟩
    title := String.ofList event.title
    notes := ""
    links := importedLinks event.url
    schedule := schedule
    createdUnixMs := ⟨0, zero_i64⟩
    modifiedUnixMs := ⟨0, zero_i64⟩
    capabilities := .default
    event := some ⟨String.ofList event.location, [], ""⟩
    task := none }
  record.validate calendar
  return record

end BarDaemon.Agendas
