import BarDaemon.CalendarText
import BarDaemon.FallibleSteps
import BarDaemon.UnicodeText
import Mathlib.Data.List.DropRight

/-!
# Events of iCalendar files

Files are read line by line: a stack of open components decides to what a
property belongs, and one builder collects the properties of an event.
-/

namespace BarDaemon.Calendars

open CharacterLists FallibleSteps

/-- The contexts of an error, the outermost first. -/
abbrev Failure := List String

/-- `with_context` -/
def context {Value : Type} (text : String) :
    Except Failure Value → Except Failure Value
  | .ok value => .ok value
  | .error causes => .error (text :: causes)

def upper (text : Text) : Text :=
  text.map Char.toUpper

/-! ### Data -/

/-- Dates and times, which other packages parse and compare. -/
structure Chrono (Date Moment Zone : Type) where
  /-- `%Y%m%d` -/
  date : Text → Except Failure Date
  midnightMs : Date → Int
  /-- `%Y-%m-%d` -/
  showDate : Date → Text
  /-- The day after a date that is given as `%Y-%m-%d`. -/
  dayAfter : Text → Option Text
  /-- `%Y%m%dT%H%M%S` -/
  moment : Text → Except Failure Moment
  /-- `%Y%m%dT%H%M` -/
  shortMoment : Text → Except Failure Moment
  utcMs : Moment → Int
  zone : Text → Except Failure Zone
  zoneName : Zone → Text
  /-- A local time that exists once. -/
  localMs : Zone → Moment → Option Int
  systemZone : Option Text

structure ParsedTime where
  unixMs : Int
  date : Option Text
  allDay : Bool
  timezone : Option Text
deriving DecidableEq, Repr

structure EventBuilder where
  uid : Text := []
  title : Text := []
  start : Option ParsedTime := none
  stop : Option ParsedTime := none
  location : Text := []
  url : Text := []
  cancelled : Bool := false
deriving DecidableEq, Repr

structure CalendarSource where
  id : Text
  name : Text
  color : Text
deriving DecidableEq, Repr

def CalendarSource.displayName (source : CalendarSource) : Text :=
  if source.name.isEmpty then source.id else source.name

structure ActivityEvent where
  id : Text
  sourceId : Text
  calendarName : Text
  color : Text
  title : Text
  startUnixMs : Int
  endUnixMs : Int
  allDay : Bool
  startDate : Option Text
  endDate : Option Text
  timezone : Option Text
  location : Text
  url : Text
deriving DecidableEq, Repr

/-! ### Lines -/

/-- `trim_end_matches('\r')` -/
def trimReturns (line : Text) : Text :=
  line.rdropWhile (· = '\r')

def isFold (char : Char) : Bool :=
  char == ' ' || char == '\t'

/-- Take a physical line; one that starts with a blank continues the last. -/
def unfoldLine (unfolded : List Text) (raw : Text) : List Text :=
  let line := trimReturns raw
  match line, unfolded.getLast? with
  | marker :: rest, some previous =>
      if isFold marker then unfolded.dropLast ++ [previous ++ rest]
      else unfolded ++ [line]
  | _, _ => unfolded ++ [line]

def unfoldLines (contents : Text) : List Text :=
  (lines contents).foldl unfoldLine []

/-! ### Properties -/

/-- What stands before the first `;` of the key. -/
def propertyName (key : Text) : Text :=
  upper ((split ';' key).headD [])

def parameters (key : Text) : List (Text × Text) :=
  ((split ';' key).drop 1).filterMap (splitOnce '=')

/-- `trim_matches('"')` -/
def trimQuotes (text : Text) : Text :=
  (text.dropWhile (· = '"')).rdropWhile (· = '"')

/-! ### Items -/

inductive Item
  | opens (component : Text)
  | closes (component : Text)
  | property (key value : Text)
deriving DecidableEq, Repr

/-- A line, by its key. -/
def itemOf (key value : Text) : Item :=
  if upper key = "BEGIN".toList then .opens value
  else if upper key = "END".toList then .closes value
  else .property key value

section Parsing

variable {Date Moment Zone : Type} (chrono : Chrono Date Moment Zone)

/-- A local time, with or without seconds. -/
def naiveMoment (value : Text) : Except Failure Moment :=
  match chrono.moment value with
  | .ok moment => .ok moment
  | .error _ => chrono.shortMoment value

/-- A local time in a timezone. -/
def localTime (timezone : Text) (naive : Moment) :
    Except Failure ParsedTime := do
  let zone ← context ("parse timezone " ++ String.ofList timezone)
    (chrono.zone (timezone.dropWhile (· = ':')))
  match chrono.localMs zone naive with
  | none => .error ["local calendar time is nonexistent or ambiguous; " ++
      "use an explicit UTC instant"]
  | some unixMs => return ⟨unixMs, none, false, some (chrono.zoneName zone)⟩

/-- A local time in the timezone of its property or of the system. -/
def floatingTime (timezone : Option Text) (naive : Moment) :
    Except Failure ParsedTime :=
  match timezone.or chrono.systemZone with
  | some timezone => localTime chrono timezone naive
  | none => .error
      ["system IANA timezone unavailable for floating calendar time"]

/-- `parse_time` -/
def parseTime (key value : Text) : Except Failure ParsedTime := do
  let params := parameters key
  let timezone := (params.find? fun param =>
    upper param.1 = "TZID".toList).map fun param => trimQuotes param.2
  let isDate := (params.any fun param =>
      upper param.1 = "VALUE".toList ∧ upper param.2 = "DATE".toList) ||
    (!value.contains 'T' && byteLength (String.ofList value) == 8)
  if isDate then
    let date ← context ("parse iCalendar date " ++ String.ofList value)
      (chrono.date value)
    return ⟨chrono.midnightMs date, some (chrono.showDate date), true,
      timezone⟩
  else if value.getLast? = some 'Z' then
    let moment ← chrono.moment value.dropLast
    return ⟨chrono.utcMs moment, none, false, some "UTC".toList⟩
  else
    floatingTime chrono timezone (← naiveMoment chrono value)

/-- `parse_event_property` -/
def parseEventProperty (builder : EventBuilder) (key value : Text) :
    Except Failure EventBuilder :=
  let name := propertyName key
  if name = "UID".toList then
    .ok { builder with uid := decodeText value }
  else if name = "SUMMARY".toList then
    .ok { builder with title := decodeText value }
  else if name = "DTSTART".toList then
    (parseTime chrono key value).map fun time =>
      { builder with start := some time }
  else if name = "DTEND".toList then
    (parseTime chrono key value).map fun time =>
      { builder with stop := some time }
  else if name = "LOCATION".toList then
    .ok { builder with location := decodeText value }
  else if name = "URL".toList then
    .ok { builder with url := decodeText value }
  else if name = "STATUS".toList then
    .ok { builder with cancelled := upper value = "CANCELLED".toList }
  else if name ∈ ["RRULE".toList, "RDATE".toList, "EXDATE".toList,
      "RECURRENCE-ID".toList] then
    .error ["unsupported iCalendar recurrence (" ++ String.ofList name ++
      "); source was not imported as a single occurrence"]
  else .ok builder

variable (source : CalendarSource) (path : Text)

/-- `finish_event`; a cancelled event is none. -/
def finishEvent (builder : EventBuilder) :
    Except Failure (Option ActivityEvent) := do
  if builder.cancelled then
    return none
  else
    match builder.start with
    | none => .error ["VEVENT is missing DTSTART"]
    | some start =>
        let stop := builder.stop.getD
          ⟨start.unixMs + if start.allDay then 86400000 else 0,
            start.date.bind chrono.dayAfter, start.allDay, none⟩
        let uid := if builder.uid.isEmpty then
            path ++ '-' :: (toString start.unixMs).toList
          else builder.uid
        let title := if builder.title.all isWhitespace then
            "Untitled event".toList
          else builder.title
        ensure (start.allDay == stop.allDay)
          ["incompatible DTSTART/DTEND modes"]
        ensure (decide (start.unixMs ≤ stop.unixMs))
          ["DTEND precedes DTSTART"]
        ensure (!start.allDay || decide (start.unixMs < stop.unixMs))
          ["empty all-day event"]
        return some {
          id := source.id ++ ':' :: uid ++ ':' ::
            (toString start.unixMs).toList
          sourceId := source.id
          calendarName := source.displayName
          color := source.color
          title := title
          startUnixMs := start.unixMs
          endUnixMs := stop.unixMs
          allDay := start.allDay
          startDate := start.date
          endDate := stop.date
          timezone := start.timezone
          location := builder.location
          url := builder.url }

/-! ### Components -/

/-- Where a component may begin. -/
def placed (components : List Text) (component : Text) :
    Except Failure Unit :=
  match components.getLast? with
  | none => ensure (component == "VCALENDAR".toList)
      ["expected BEGIN:VCALENDAR"]
  | some parent => do
      ensure (component != "VCALENDAR".toList)
        ["nested VCALENDAR is invalid"]
      ensure (component != "VEVENT".toList || parent == "VCALENDAR".toList)
        ["VEVENT must belong directly to VCALENDAR"]

/-- `begin_component` -/
def beginComponent (components : List Text) (value : Text) :
    Except Failure (List Text) := do
  ensure (upper value != "VTODO".toList) ["unsupported iCalendar VTODO " ++
    "import; source was not silently treated as empty"]
  placed components (upper value)
  ensure (!(upper value).isEmpty) ["empty iCalendar component"]
  return components ++ [upper value]

/-- What `parse_calendar` keeps from line to line. -/
structure Reading where
  events : List ActivityEvent := []
  current : EventBuilder := {}
  components : List Text := []
  sawCalendar : Bool := false
deriving DecidableEq, Repr

def inFile (text : String) : String :=
  text ++ " in " ++ String.ofList path

def readItem (reading : Reading) : Item → Except Failure Reading
  | .opens value => do
      let components ← beginComponent reading.components value
      return { reading with components := components, sawCalendar := true }
  | .closes value => do
      let component := upper value
      ensure (reading.components.getLast? == some component)
        [inFile path ("mismatched END:" ++ String.ofList component)]
      let closed := { reading with
        components := reading.components.dropLast }
      if component = "VEVENT".toList then
        let event ← finishEvent chrono source path reading.current
        return { closed with
          events := reading.events ++ event.toList
          current := {} }
      else return closed
  | .property key value => do
      ensure (!reading.components.isEmpty) ["property outside VCALENDAR"]
      -- Nested components own their own properties.
      if reading.components.getLast? = some "VEVENT".toList then
        let current ← context (inFile path "parse event")
          (parseEventProperty chrono reading.current key value)
        return { reading with current := current }
      else return reading

/-- Take one line. -/
def readLine (reading : Reading) (line : Text) : Except Failure Reading :=
  if line.all isWhitespace then .ok reading
  else
    match splitOnce ':' line with
    | none => .error [inFile path "invalid iCalendar content line"]
    | some (key, value) =>
        readItem chrono source path reading (itemOf key value)

def readLines : List Text → Reading → Except Failure Reading
  | [], reading => .ok reading
  | line :: rest, reading => do
      readLines rest (← readLine chrono source path reading line)

/-- `parse_calendar` -/
def parseCalendar (contents : Text) :
    Except Failure (List ActivityEvent) := do
  let reading ← readLines chrono source path (unfoldLines contents) {}
  ensure reading.sawCalendar [inFile path "missing VCALENDAR"]
  ensure reading.components.isEmpty
    ["truncated iCalendar file " ++ String.ofList path]
  return reading.events

end Parsing

end BarDaemon.Calendars
