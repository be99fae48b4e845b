import BarDaemon.CompactJsonSizes
import BarDaemon.FallibleSteps

/-!
# Agenda records

The events and tasks of the agenda, what is checked of a record before it is
accepted, and the summary of it that lists carry.
-/

namespace BarDaemon.Agendas

open CompactJson FallibleSteps

/-! ## Records -/

inductive ItemKind
  | event
  | task
deriving DecidableEq, Repr

inductive ScheduleMode
  | date
  | timed
deriving DecidableEq, Repr

structure Schedule where
  mode : ScheduleMode
  startDate : Option String
  endDate : Option String
  startUnixMs : Option I64
  endUnixMs : Option I64
  timezone : Option String
deriving DecidableEq, Repr

structure Capabilities where
  write : Bool
  delete : Bool
  complete : Bool
deriving DecidableEq, Repr

structure Link where
  id : String
  label : String
  url : String
deriving DecidableEq, Repr

structure ChecklistStep where
  id : String
  text : String
  checked : Bool
deriving DecidableEq, Repr

structure EventDetails where
  location : String
  people : List String
  status : String
deriving DecidableEq, Repr

structure TaskDetails where
  priority : I64
  status : String
  completed : Bool
  completedUnixMs : Option I64
  checklist : List ChecklistStep
deriving DecidableEq, Repr

structure Record where
  id : String
  kind : ItemKind
  sourceId : String
  sourceUid : Option String
  revision : U64
  title : String
  notes : String
  links : List Link
  schedule : Schedule
  createdUnixMs : I64
  modifiedUnixMs : I64
  capabilities : Capabilities
  event : Option EventDetails
  task : Option TaskDetails
deriving DecidableEq, Repr

/-! ## JSON -/

def ItemKind.toJson : ItemKind → Json
  | .event => .str "event"
  | .task => .str "task"

def ScheduleMode.toJson : ScheduleMode → Json
  | .date => .str "date"
  | .timed => .str "timed"

def optionalText (value : Option String) : Json :=
  Json.ofOption .str value

def optionalInstant (value : Option I64) : Json :=
  Json.ofOption (fun instant => .int instant.val) value

def Schedule.toJson (schedule : Schedule) : Json :=
  .obj [("mode", schedule.mode.toJson),
    ("start_date", optionalText schedule.startDate),
    ("end_date", optionalText schedule.endDate),
    ("start_unix_ms", optionalInstant schedule.startUnixMs),
    ("end_unix_ms", optionalInstant schedule.endUnixMs),
    ("timezone", optionalText schedule.timezone)]

def Capabilities.toJson (capabilities : Capabilities) : Json :=
  .obj [("write", .bool capabilities.write),
    ("delete", .bool capabilities.delete),
    ("complete", .bool capabilities.complete)]

def Link.toJson (link : Link) : Json :=
  .obj [("id", .str link.id), ("label", .str link.label),
    ("url", .str link.url)]

def ChecklistStep.toJson (step : ChecklistStep) : Json :=
  .obj [("id", .str step.id), ("text", .str step.text),
    ("checked", .bool step.checked)]

def EventDetails.toJson (event : EventDetails) : Json :=
  .obj [("location", .str event.location),
    ("people", .arr (event.people.map .str)), ("status", .str event.status)]

def TaskDetails.toJson (task : TaskDetails) : Json :=
  .obj [("priority", .int task.priority), ("status", .str task.status),
    ("completed", .bool task.completed),
    ("completed_unix_ms", optionalInstant task.completedUnixMs),
    ("checklist", .arr (task.checklist.map ChecklistStep.toJson))]

def Record.toJson (item : Record) : Json :=
  .obj [("id", .str item.id), ("kind", item.kind.toJson),
    ("source_id", .str item.sourceId),
    ("source_uid", optionalText item.sourceUid),
    ("revision", .nat item.revision), ("title", .str item.title),
    ("notes", .str item.notes), ("links", .arr (item.links.map Link.toJson)),
    ("schedule", item.schedule.toJson),
    ("created_unix_ms", .int item.createdUnixMs),
    ("modified_unix_ms", .int item.modifiedUnixMs),
    ("capabilities", item.capabilities.toJson),
    ("event", Json.ofOption EventDetails.toJson item.event),
    ("task", Json.ofOption TaskDetails.toJson item.task)]

/-! ## Validation -/

/-- What the calendar library tells of texts and instants. -/
structure Calendar where
  /-- `NaiveDate::parse_from_str`, which takes more than canonical texts. -/
  parsesDate : String → Bool
  /-- `parse::<Tz>` -/
  knowsZone : String → Bool
  /-- `DateTime::from_timestamp_millis` -/
  isInstant : I64 → Bool

def bounded (value : String) (max : Nat) (name : String) :
    Except String Unit :=
  ensure (byteLength value ≤ max && !value.toList.contains '\x00')
    ("invalid " ++ name ++ ": exceeds bound or contains NUL")

def identifier (value : String) : Except String Unit := do
  bounded value 512 "identifier"
  ensure (trim value != "") "empty identifier"

/-- Check a value that is there. -/
def whenSome {Value : Type} (value : Option Value)
    (check : Value → Except String Unit) : Except String Unit :=
  match value with
  | some value => check value
  | none => .ok ()

section Validation

variable (calendar : Calendar)

def checkCivilDate (value : String) : Except String Unit :=
  ensure (byteLength value == 10 && calendar.parsesDate value)
    "invalid civil date"

def checkInstant (value : I64) : Except String Unit :=
  ensure (calendar.isInstant value) "invalid instant"

def checkZone (timezone : Option String) : Except String Unit :=
  match timezone with
  | none => .error "timed schedule needs IANA zone"
  | some zone => ensure (calendar.knowsZone zone) "invalid timezone"

def Schedule.validate (schedule : Schedule) (allowInstant : Bool) :
    Except String Unit :=
  match schedule.mode with
  | .date => do
      ensure (schedule.startUnixMs.isNone && schedule.endUnixMs.isNone &&
        schedule.timezone.isNone) "date schedule contains timed values"
      whenSome schedule.startDate (checkCivilDate calendar)
      whenSome schedule.endDate (checkCivilDate calendar)
      match schedule.startDate, schedule.endDate with
      | some start, some stop => ensure (start ≤ stop) "reversed date range"
      | _, _ => return ()
  | .timed => do
      whenSome schedule.timezone fun zone => bounded zone 128 "timezone"
      ensure (schedule.startDate.isNone && schedule.endDate.isNone)
        "timed schedule contains civil dates"
      checkZone calendar schedule.timezone
      whenSome schedule.startUnixMs (checkInstant calendar)
      whenSome schedule.endUnixMs (checkInstant calendar)
      match schedule.startUnixMs, schedule.endUnixMs with
      | some start, some stop =>
          ensure (start.val < stop.val || (allowInstant && start == stop))
            "reversed or empty timed range"
      | _, _ => return ()

def checkLinks : List String → List Link → Except String Unit
  | _, [] => .ok ()
  | ids, link :: links => do
      identifier link.id
      ensure (!ids.contains link.id) "duplicate link id"
      bounded link.label 4096 "link label"
      bounded link.url 8192 "link URL"
      ensure (startsWith link.url "https://" || startsWith link.url "http://" ||
        startsWith link.url "mailto:") "unsupported link URL scheme"
      checkLinks (link.id :: ids) links

def checkSteps : List String → List ChecklistStep → Except String Unit
  | _, [] => .ok ()
  | ids, step :: steps => do
      identifier step.id
      ensure (!ids.contains step.id) "duplicate checklist id"
      bounded step.text 8192 "checklist text"
      checkSteps (step.id :: ids) steps

def EventDetails.validate (event : EventDetails) : Except String Unit := do
  bounded event.location 8192 "location"
  bounded event.status 128 "status"
  ensure (event.people.length ≤ 256) "too many people"
  event.people.forM fun person => bounded person 4096 "person"

def TaskDetails.validate (task : TaskDetails) : Except String Unit := do
  bounded task.status 128 "status"
  ensure (task.completed || task.completedUnixMs.isNone)
    "open task has completion timestamp"
  ensure (task.checklist.length ≤ 512) "too many checklist steps"
  checkSteps [] task.checklist

/-- What the details of an item must be, for its kind. -/
def Record.validateDetails (item : Record) : Except String Unit :=
  match item.kind with
  | .event => do
      ensure (!item.capabilities.complete)
        "event cannot have completion capability"
      ensure item.task.isNone "event cannot contain task details"
      match item.event with
      | none => .error "event details required"
      | some event => event.validate
  | .task => do
      ensure item.event.isNone "task cannot contain event details"
      match item.task with
      | none => .error "task details required"
      | some task => task.validate

def Record.validate (item : Record) : Except String Unit := do
  identifier item.id
  identifier item.sourceId
  ensure (0 < item.revision.val && item.revision.val ≤ i64Max)
    "invalid revision"
  bounded item.title 4096 "title"
  ensure (trim item.title != "") "title required"
  bounded item.notes 262144 "notes"
  whenSome item.sourceUid identifier
  item.schedule.validate calendar
    (item.kind == .event && !item.capabilities.write)
  ensure (item.links.length ≤ 128) "too many links"
  checkLinks [] item.links
  item.validateDetails
  ensure (item.toJson.size ≤ 1048576) "record payload too large"

end Validation

/-! ## Summaries -/

structure EventSummary where
  status : String
  location : String
deriving DecidableEq, Repr

structure TaskSummary where
  priority : I64
  status : String
  completed : Bool
  completedUnixMs : Option I64
deriving DecidableEq, Repr

structure Summary where
  summary : Bool
  id : String
  kind : ItemKind
  sourceId : String
  sourceUid : Option String
  revision : U64
  title : String
  schedule : Schedule
  createdUnixMs : I64
  modifiedUnixMs : I64
  capabilities : Capabilities
  event : Option EventSummary
  task : Option TaskSummary
deriving DecidableEq, Repr

/-- `From<&Record>` -/
def Summary.ofRecord (item : Record) : Summary where
  summary := true
  id := item.id
  kind := item.kind
  sourceId := item.sourceId
  sourceUid := item.sourceUid
  revision := item.revision
  title := item.title
  schedule := item.schedule
  createdUnixMs := item.createdUnixMs
  modifiedUnixMs := item.modifiedUnixMs
  capabilities := item.capabilities
  event := item.event.map fun event => ⟨event.status, event.location⟩
  task := item.task.map fun task =>
    ⟨task.priority, task.status, task.completed, task.completedUnixMs⟩

def EventSummary.toJson (event : EventSummary) : Json :=
  .obj [("status", .str event.status), ("location", .str event.location)]

def TaskSummary.toJson (task : TaskSummary) : Json :=
  .obj [("priority", .int task.priority), ("status", .str task.status),
    ("completed", .bool task.completed),
    ("completed_unix_ms", optionalInstant task.completedUnixMs)]

def Summary.toJson (item : Summary) : Json :=
  .obj [("summary", .bool item.summary), ("id", .str item.id),
    ("kind", item.kind.toJson), ("source_id", .str item.sourceId),
    ("source_uid", optionalText item.sourceUid),
    ("revision", .nat item.revision), ("title", .str item.title),
    ("schedule", item.schedule.toJson),
    ("created_unix_ms", .int item.createdUnixMs),
    ("modified_unix_ms", .int item.modifiedUnixMs),
    ("capabilities", item.capabilities.toJson),
    ("event", Json.ofOption EventSummary.toJson item.event),
    ("task", Json.ofOption TaskSummary.toJson item.task)]

end BarDaemon.Agendas
