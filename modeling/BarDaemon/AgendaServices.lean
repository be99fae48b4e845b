import BarDaemon.AgendaAdoption
import BarDaemon.AgendaImports
import BarDaemon.Attempts
import BarDaemon.TableImports
import Mathlib.Data.String.Basic
import Std.Data.ExtTreeMap

/-!
# The agenda service

The service keeps a copy of the items of the store, which it carries on with
what the store answers, and a catalog of the copy and the imported events.
-/

namespace BarDaemon.AgendaService

open Agendas Calendars CompactJson NaiveDate Std TableImports
open Agendas.Store (Outcome)

/-! ## Diagnostics -/

/-- `char::is_control` -/
def isControl (char : Char) : Bool :=
  char.toNat < 0x20 || (0x7F ≤ char.toNat && char.toNat < 0xA0)

/-- Drop characters from the end, which comes first, until the text fits. -/
def popTo (limit : Nat) : List Char → List Char
  | [] => []
  | char :: chars =>
      if limit < byteLength (String.ofList (char :: chars)) then
        popTo limit chars
      else char :: chars

/-- The output so far has its last character first. -/
def boundedFrom (limit : Nat) (output : List Char) : List Char → List Char
  | [] => output
  | char :: chars =>
      let char := if isControl char then ' ' else char
      if limit < byteLength (String.ofList output) + char.utf8Size then
        let kept := popTo (limit - 3) output
        if 3 ≤ limit then '…' :: kept else kept
      else boundedFrom limit (char :: output) chars

def boundedDiagnostic (text : String) (maxBytes : Nat) : String :=
  String.ofList (boundedFrom maxBytes [] text.toList).reverse

/-- The categories of `source_error_cause`. -/
def sourceErrorCauses : List (String × String) :=
  [("unsupported iCalendar recurrence",
      "unsupported iCalendar recurrence; previous import retained"),
    ("unsupported iCalendar VTODO",
      "unsupported iCalendar VTODO import; previous import retained"),
    ("nonexistent or ambiguous",
      "calendar time is nonexistent or ambiguous; use an explicit UTC instant"),
    ("read iCalendar file",
      "calendar file cannot be read; previous import retained"),
    ("read calendar directory",
      "calendar directory cannot be read; previous import retained"),
    ("parse iCalendar date",
      "invalid calendar date; previous import retained"),
    ("truncated iCalendar",
      "truncated iCalendar file; previous import retained"),
    ("DTEND precedes DTSTART",
      "calendar end precedes start; previous import retained"),
    ("exceeds 10000",
      "calendar source exceeds 10000 events; previous import retained")]

def sourceErrorCause (error : String) : String :=
  ((sourceErrorCauses.find? fun cause => contains error cause.1).map
    Prod.snd).getD
      "calendar source load or validation failed; previous import retained"

/-- `str::to_ascii_lowercase` -/
def asciiLowercase (text : String) : String :=
  String.ofList (text.toList.map Char.toLower)

/-- `turso::Error` -/
inductive EngineError
  | corrupt
  | notAdb
  | databaseFull
  | busy
  | readonly
  | io (kind : String)
  | other

def engineErrorDetail : EngineError → String
  | .corrupt => "; database corruption"
  | .notAdb => "; not a database"
  | .databaseFull => "; database full"
  | .busy => "; database busy"
  | .readonly => "; database is read-only"
  | .io kind => "; database I/O " ++ kind
  | .other => "; database engine rejected initialization or validation"

/-- An error of a chain, with what else is known of it. -/
inductive Cause
  | json (classify : String) (line column : Nat)
  | io (text kind : String)
  | engine (text : String) (error : EngineError)
  | other (text : String)

namespace Cause

/-- What is said of the cause; JSON errors are not quoted. -/
def text? : Cause → Option String
  | .json _ _ _ => none
  | .io text _ => some text
  | .engine text _ => some text
  | .other text => some text

def jsonDetail : Cause → Option String
  | .json classify line column => some ("; JSON " ++ classify ++ " at line " ++
      toString line ++ ", column " ++ toString column)
  | _ => none

def ioDetail : Cause → Option String
  | .io _ kind => some ("; I/O " ++ kind)
  | _ => none

def engineDetail : Cause → Option String
  | .engine _ error => some (engineErrorDetail error)
  | _ => none

end Cause

/-- The categories of `store_unavailable`. -/
def storeErrorCauses : List (String × String) :=
  [("parse legacy todo store",
      "legacy todo migration JSON invalid; original preserved"),
    ("read legacy todo store",
      "legacy todo store cannot be read; writable mode blocked"),
    ("invalid legacy todo",
      "legacy todo validation failed; migration blocked without dropping data"),
    ("duplicate legacy todo id",
      "duplicate legacy todo id; migration blocked"),
    ("changed after migration",
      "legacy todo changed after migration; explicit reconciliation required"),
    ("legacy backup mismatch", "legacy backup mismatch; original preserved"),
    ("legacy todo file too large",
      "legacy todo file exceeds migration size limit"),
    ("legacy todo capacity exceeded",
      "legacy todo count exceeds migration limit"),
    ("unsupported agenda schema",
      "unsupported agenda database schema; preserve for recovery"),
    ("preexisting empty agenda",
      "preexisting empty agenda database; preserve for recovery"),
    ("ownership lock busy", "agenda database ownership lock busy"),
    ("unsafe", "unsafe agenda storage ownership, permissions or path"),
    ("integrity",
      "agenda database integrity validation failed; preserve for recovery"),
    ("corrupt", "agenda database corruption detected; preserve for recovery"),
    ("malformed", "agenda database corruption detected; preserve for recovery"),
    ("not a database",
      "agenda file is not a valid database; preserve for recovery")]

/-- The category of the first cause that has one. -/
def storeErrorCategory (causes : List Cause) : String :=
  ((causes.filterMap Cause.text?).findSome? fun text =>
    (storeErrorCauses.find? fun cause =>
      contains (asciiLowercase text) cause.1).map Prod.snd).getD
        "agenda database initialization or validation failed; inspect daemon diagnostics"

def storeUnavailable (causes : List Cause) : String :=
  let detail := (causes.findSome? Cause.jsonDetail).or
    ((causes.findSome? Cause.ioDetail).or
      (causes.findSome? Cause.engineDetail))
  boundedDiagnostic ("Agenda store unavailable: " ++
    storeErrorCategory causes ++ detail.getD "") 1024

/-- The first of the failures is shown. -/
def sourceDiagnostics (failures : List (String × String)) :
    SourceDiagnostics where
  failingSourceCount := failures.length
  sourceError := failures.head?.map fun (label, error) =>
    boundedDiagnostic
      (sourceErrorCause error ++ ": " ++ boundedDiagnostic label 256) 1024

/-! ## State -/

/-- What the agenda takes from libraries. -/
structure Libraries where
  calendar : Calendar
  /-- The SHA-256 of a text, in hexadecimal. -/
  digest : String → String
  lowercase : String → String
  readCursor : String → Except String Cursor
  /-- The zone of an IANA name. -/
  zone : String → Zone
  /-- The chain of an error, of which only the text is kept here. -/
  chain : String → List Cause

/-- What is said of an error of the store. -/
def Libraries.unavailable (lib : Libraries) (error : String) : String :=
  storeUnavailable (lib.chain error)

/-- The accepted items, and the revision of the catalog they are from. -/
structure Snapshot where
  items : List Record
  catalogRevision : Nat

def Snapshot.records (snapshot : Snapshot) : String → Option Record :=
  fun id => snapshot.items.find? fun item => item.id == id

structure CachedCatalog where
  revision : Nat
  importRevision : Nat
  today : NaiveDate
  timezone : String
  imports : String
  catalog : Catalog

structure CalendarSourceConfig where
  id : String
  name : String
  kind : String
deriving DecidableEq, Repr

def CalendarSourceConfig.displayName (source : CalendarSourceConfig) :
    String :=
  if source.name.isEmpty then source.id else source.name

structure ActivitySourceState where
  id : String
  name : String
  kind : String
  available : Bool
  itemCount : Nat
  error : Option String
deriving DecidableEq, Repr

/-- The thread that owns the database, as its handle shows it. -/
inductive Worker
  | missing
  | running
  | closed
deriving DecidableEq, Repr

/-- Proofs never have to evaluate it. -/
@[irreducible]
def isBlank (text : String) : Bool :=
  (trim text).isEmpty

abbrev Imports : Type :=
  ExtTreeMap String (List ActivityEvent)

/-- `ActivityData`, without the weather and the cities. -/
structure Service where
  worker : Worker
  snapshot : Option Snapshot
  todoError : Option String
  calendarSources : List CalendarSourceConfig
  eventsBySource : Imports
  sourceStates : ExtTreeMap String ActivitySourceState
  importRevision : Nat
  agendaCatalog : Option CachedCatalog
  todoSequence : Nat

/-- `ActivityData::default` -/
def Service.initial : Service where
  worker := .missing
  snapshot := none
  todoError := none
  calendarSources := []
  eventsBySource := ∅
  sourceStates := ∅
  importRevision := 0
  agendaCatalog := none
  todoSequence := 1

def Service.readableAgenda (service : Service) : Except String Snapshot :=
  match service.todoError with
  | some error => .error (boundedDiagnostic error 1024)
  | none =>
      match service.snapshot with
      | some snapshot => .ok snapshot
      | none => .error "Agenda store unavailable; no accepted snapshot"

def Service.sourceDiagnostics (service : Service) : SourceDiagnostics :=
  AgendaService.sourceDiagnostics
    (service.calendarSources.filterMap fun source =>
      (service.sourceStates[source.id]?.bind ActivitySourceState.error).map
        fun error => (source.displayName, error))

/-- The imported events. -/
def Service.events (service : Service) : List ActivityEvent :=
  service.eventsBySource.values.flatten

/-- The revision of the copy, and 0 without one. -/
def Service.cachedRevision (service : Service) : Nat :=
  (service.snapshot.map Snapshot.catalogRevision).getD 0

/-- What an answer tells is put into the copy. -/
def Snapshot.apply (snapshot : Snapshot) (result : MutationResult) :
    Snapshot :=
  let items := match result.item with
    | some item => (snapshot.items.filter fun record => record.id != item.id) ++
        [item]
    | none => snapshot.items
  let items := match result.deletedId with
    | some id => items.filter fun record => record.id != id
    | none => items
  ⟨items, result.catalogRevision⟩

def Service.applyAgendaResult (service : Service) (result : MutationResult) :
    Except String Service :=
  match service.snapshot with
  | none => .error "Agenda cache unavailable; resolve request by receipt"
  | some snapshot =>
      if result.catalogRevision ≤ snapshot.catalogRevision then .ok service
      else .ok { service with snapshot := some (snapshot.apply result) }

/-! ## The worker -/

/-- What becomes of a job: it is answered, or the worker fails before or after
it has been done. -/
inductive Ending
  | told
  | failedBefore
  | failedAfter
deriving DecidableEq, Repr

/-- How the database carries out what it is asked to do. -/
structure Answer where
  /-- What goes wrong with a read, or with the files at an opening. -/
  failure : Option String
  outcome : Outcome
  now : I64
  ending : Ending
deriving DecidableEq, Repr

/-- Nothing goes wrong. -/
def Answer.smooth : Answer where
  failure := none
  outcome := ⟨none, true, true, true, true⟩
  now := ⟨0, zero_i64⟩
  ending := .told

structure World where
  service : Service
  disk : Agendas.Store
  /-- The answers to come. -/
  answers : List Answer

namespace World

def answer (world : World) : Answer :=
  world.answers.headD .smooth

/-- The answer has been used. -/
def answered (world : World) : World :=
  { world with answers := world.answers.tail }

def withDisk (world : World) (disk : Agendas.Store) : World :=
  { world with disk }

def withWorker (worker : Worker) (world : World) : World :=
  { world with service := { world.service with worker } }

/-- A snapshot has been accepted. -/
def accepted (world : World) (snapshot : Snapshot) : World :=
  { world with service := { world.service with snapshot := some snapshot } }

end World

abbrev Effect : Type → Type :=
  Attempt World String

def readService : Effect Service := do
  return (← Attempt.read).service

def changeService (update : Service → Service) : Effect Unit :=
  Attempt.change fun world => { world with service := update world.service }

/-- What the caller of a worker that failed is told. -/
def workerFailed : String :=
  "agenda worker failed; resolve mutation by receipt after restart"

/-- `Store::call` -/
def call {Value : Type}
    (operation : Answer → Agendas.Store → Except String Value × Agendas.Store) :
    Effect Value :=
  fun world =>
    match world.service.worker with
    | .running =>
        let done := operation world.answer world.disk
        match world.answer.ending with
        | .told => (done.1, world.answered.withDisk done.2)
        | .failedBefore =>
            (.error workerFailed, world.answered.withWorker .closed)
        | .failedAfter =>
            (.error workerFailed,
              (world.answered.withDisk done.2).withWorker .closed)
    | _ => (.error "agenda worker closed", world)

/-- A job that only reads. -/
def reading {Value : Type} (query : Agendas.Store → Except String Value)
    (answer : Answer) (disk : Agendas.Store) :
    Except String Value × Agendas.Store :=
  match answer.failure with
  | some error => (.error error, disk)
  | none => (query disk, disk)

section Effects

variable (lib : Libraries)

def readSnapshot (disk : Agendas.Store) : Except String Snapshot := do
  let items ← disk.snapshot lib.calendar
  return ⟨byKey Record.id items, disk.catalogRevision⟩

def storeSnapshot : Effect Snapshot :=
  call (reading (readSnapshot lib))

def storeGet (id : String) : Effect (Option Record) := do
  Attempt.lift (fun error => error) (identifier id)
  call (reading fun disk => disk.get lib.calendar id)

def storeReceipt (requestId : String) : Effect (Option MutationResult) := do
  Attempt.lift (fun error => error) (identifier requestId)
  call (reading fun disk =>
    (disk.receipt lib.calendar requestId).map (Option.map Prod.snd))

/-- `Store::create`, `Store::patch` and `Store::delete` -/
def storeMutate (mutation : Mutation) : Effect MutationResult := do
  Attempt.lift (fun error => error) (Store.accepts lib.calendar mutation)
  call fun answer disk =>
    disk.submit lib.calendar lib.digest ⟨mutation, answer.now, answer.outcome⟩

/-- Opening fails with its files or with what they hold.  The todos of before
have been taken over. -/
def openDisk (answer : Answer) (disk : Agendas.Store) :
    Except String Agendas.Store :=
  match answer.failure with
  | some error => .error error
  | none => disk.reopen lib.calendar false

/-- `Store::open` -/
def openStore : Effect Unit := fun world =>
  match openDisk lib world.answer world.disk with
  | .error error => (.error error, world.answered)
  | .ok opened =>
      (.ok (), (world.answered.withDisk opened).withWorker .running)

/-- A handle that is dropped ends the worker. -/
def openAgenda : Effect Snapshot := do
  openStore lib
  match ← (storeSnapshot lib).catching some with
  | .ok snapshot => return snapshot
  | .error error => do
      Attempt.change (World.withWorker .missing)
      Attempt.fail error

def openedWith (snapshot : Snapshot) (service : Service) : Service :=
  { service with
    snapshot := some snapshot
    todoError := none }

/-- Only failed startup is retried. -/
def writableAgenda : Effect Unit := do
  let service ← readService
  match service.worker with
  | .missing => do
      match ← (openAgenda lib).catching some with
      | .ok snapshot => changeService (openedWith snapshot)
      | .error error => do
          changeService fun service =>
            { service with todoError := some (lib.unavailable error) }
          Attempt.fail (lib.unavailable error)
  | _ => return ()

/-! ## Mutations -/

def reloadAgendaSnapshot : Effect Unit := do
  let snapshot ← storeSnapshot lib
  Attempt.change fun world => world.accepted snapshot

def acceptAgenda (result : MutationResult) : Effect MutationResult := do
  let service ← readService
  if service.cachedRevision + 1 < result.catalogRevision then do
    Attempt.ensure (service.worker != .missing) "Agenda store unavailable"
    reloadAgendaSnapshot lib
    return result
  else do
    let after ← Attempt.lift (fun error => error)
      (service.applyAgendaResult result)
    changeService fun _ => after
    return result

/-- The bytes of the imported records. -/
def importedBytes (events : List ActivityEvent) : Except String Nat :=
  events.foldlM (fun bytes event => do
    let item ← imported lib.digest lib.calendar event
    return bytes + item.toJson.size) 0

def recordBytes (items : List Record) : Nat :=
  items.foldl (fun bytes item => bytes + item.toJson.size) 0

def catalogBudget : Nat :=
  100 * 1024 * 1024

def Service.checkAgendaCapacity (service : Service) (replacing : Option String)
    (extra : Nat) : Except String Unit := do
  match service.snapshot with
  | none => .error "Agenda store unavailable"
  | some snapshot => do
      let kept := snapshot.items.filter fun item => some item.id != replacing
      let events ← importedBytes lib service.events
      FallibleSteps.ensure
        (extra + 4096 + recordBytes kept + events ≤ catalogBudget)
        "combined agenda catalog exceeds 100 MiB; remove records or sources before retrying"

def checkAgendaCapacity (replacing : Option String) (extra : Nat) :
    Effect Unit := do
  let service ← readService
  Attempt.lift (fun error => error)
    (service.checkAgendaCapacity lib replacing extra)

/-- A request that has a receipt is not checked again. -/
def unlessKnown (requestId : String) (check : Effect Unit) : Effect Unit := do
  let known ← storeReceipt lib requestId
  if known.isNone then check else return ()

def agendaCreate (requestId : String) (item : NewItem) :
    Effect MutationResult := do
  writableAgenda lib
  unlessKnown lib requestId (checkAgendaCapacity lib none item.toJson.size)
  let result ← storeMutate lib (.create requestId item)
  acceptAgenda lib result

/-- The record as the patch would leave it. -/
def candidate (patch : ItemPatch) (record : Record) : Record :=
  { record with
    title := patch.title.getD record.title
    notes := patch.notes.getD record.notes
    links := patch.links.getD record.links
    schedule := patch.schedule.getD record.schedule
    event := patch.event.or record.event
    task := patch.task.or record.task }

/-- `with_context` -/
def required {Value : Type} (error : String) (value : Option Value) :
    Effect Value :=
  match value with
  | some value => return value
  | none => Attempt.fail error

def checkCandidate (id : String) (patch : ItemPatch) : Effect Unit := do
  let found ← storeGet lib id
  let record ← required
    "agenda item not found or imported calendar is read-only" found
  checkAgendaCapacity lib (some id) (candidate patch record).toJson.size

def agendaPatch (requestId id : String) (revision : U64) (patch : ItemPatch) :
    Effect MutationResult := do
  writableAgenda lib
  unlessKnown lib requestId (checkCandidate lib id patch)
  let result ← storeMutate lib (.patch requestId id revision patch)
  acceptAgenda lib result

def agendaDelete (requestId id : String) (revision : U64) :
    Effect MutationResult := do
  writableAgenda lib
  let result ← storeMutate lib (.delete requestId id revision)
  acceptAgenda lib result

/-- Receipts beyond the copy bring it up to date. -/
def catchUp (cached : Nat) (receipt : Option MutationResult) : Effect Unit :=
  if receipt.any fun result => cached < result.catalogRevision then
    reloadAgendaSnapshot lib
  else return ()

def agendaReceipt (id : String) : Effect (Option MutationResult) := do
  Attempt.ensure (!isBlank id && byteLength id ≤ 512)
    "invalid request id"
  let service ← readService
  let _ ← Attempt.lift (fun error => error) service.readableAgenda
  Attempt.ensure (service.worker != .missing) "Agenda store unavailable"
  let receipt ← storeReceipt lib id
  catchUp lib service.cachedRevision receipt
  return receipt

/-! ## Todos -/

/-- `u8::try_from`, or the greatest value -/
def priorityByte (priority : Int) : UInt8 :=
  if 0 ≤ priority ∧ priority ≤ 255 then UInt8.ofNat priority.toNat else 255

def todo (record : Record) : Option TodoItem :=
  record.task.map fun task =>
    { id := record.id
      sourceId := record.sourceId
      title := record.title
      completed := task.completed
      priority := priorityByte task.priority.val
      dueDate := record.schedule.endDate
      dueUnixMs := record.schedule.endUnixMs
      createdUnixMs := record.createdUnixMs
      completedUnixMs := task.completedUnixMs }

def legacyRequest (now : I64) : Effect String := do
  let service ← readService
  changeService fun service =>
    { service with todoSequence := service.todoSequence + 1 }
  return "legacy-" ++ toString now.val ++ "-" ++ toString service.todoSequence

/-- The day and the name of the zone, where they are known. -/
abbrev Context : Type :=
  Except String (NaiveDate × String)

def newTodo (title : String) (schedule : Schedule) (priority : UInt8) :
    NewItem where
  kind := .task
  title := trim title
  notes := ""
  links := []
  schedule := schedule
  event := none
  task := some
    { TaskDetails.default with
      priority := ⟨priority.toNat, priority_i64 priority⟩ }

/-- An instant is kept with the zone it is shown in. -/
def todoSchedule (dueUnixMs : Option I64) (dueDate : Option String)
    (context : Context) : Effect Schedule :=
  match dueUnixMs with
  | some due => do
      let now ← Attempt.lift (fun error => error) context
      return ⟨.timed, none, none, none, some due, some now.2⟩
  | none => return ⟨.date, none, dueDate, none, none, none⟩

def createTodo (title : String) (dueUnixMs : Option I64)
    (dueDate : Option String) (priority : UInt8) (context : Context)
    (now : I64) : Effect TodoItem := do
  Attempt.ensure (!isBlank title) "todo title cannot be empty"
  Attempt.ensure (priority ≤ 9) "todo priority must be between 0 and 9"
  Attempt.ensure (dueDate.isNone || dueUnixMs.isNone)
    "todo due date and instant are incompatible"
  let schedule ← todoSchedule dueUnixMs dueDate context
  let requestId ← legacyRequest now
  let result ← agendaCreate lib requestId (newTodo title schedule priority)
  let item ← required "missing created task" result.item
  required "missing task details" (todo item)

def completeTodo (id : String) (completed : Bool) (completedAt now : I64) :
    Effect TodoItem := do
  writableAgenda lib
  let found ← storeGet lib id
  let record ← required ("todo " ++ id ++ " was not found") found
  let task ← required "item is not a task" record.task
  let task :=
    { task with
      completed
      completedUnixMs := if completed then some completedAt else none }
  let patch : ItemPatch := ⟨none, none, none, none, none, some task⟩
  let requestId ← legacyRequest now
  let result ← storeMutate lib (.patch requestId id record.revision patch)
  let result ← acceptAgenda lib result
  let item ← required "missing task" result.item
  required "missing task details" (todo item)

def deleteTodo (id : String) (now : I64) : Effect Unit := do
  writableAgenda lib
  let found ← storeGet lib id
  let record ← required ("todo " ++ id ++ " was not found") found
  Attempt.ensure (record.kind == .task) "item is not a task"
  let requestId ← legacyRequest now
  let result ← storeMutate lib (.delete requestId id record.revision)
  let _ ← acceptAgenda lib result

/-! ## Imports -/

/-- The identities and the bytes after a number of imported events. -/
structure Admitted where
  ids : List String
  bytes : Nat
  count : Nat

def admitEvent (admitted : Admitted) (event : ActivityEvent) :
    Except String Admitted := do
  let item ← imported lib.digest lib.calendar event
  FallibleSteps.ensure (!admitted.ids.contains item.id)
    "agenda import identity collision"
  let after : Admitted :=
    ⟨item.id :: admitted.ids, admitted.bytes + item.toJson.size,
      admitted.count + 1⟩
  FallibleSteps.ensure
    (after.count ≤ 10000 && after.bytes ≤ catalogBudget)
    "combined agenda import exceeds 10000 imported records or 100 MiB catalog budget"
  return after

def checkImports (snapshot : Snapshot) (events : List ActivityEvent) :
    Except String Unit := do
  let _ ← events.foldlM (admitEvent lib)
    ⟨snapshot.items.map Record.id, 4096 + recordBytes snapshot.items, 0⟩

/-- The revision that the store has moved to is that of the copy. -/
def importedInto (revision : Nat) (imports : Imports) (snapshot : Snapshot)
    (service : Service) : Service :=
  { service with
    snapshot := some { snapshot with catalogRevision := revision }
    eventsBySource := imports
    importRevision := service.importRevision + 1 }

def acceptCalendarImports (imports : Imports) : Effect Unit := do
  let service ← readService
  if service.eventsBySource == imports then return ()
  else do
    let snapshot ← required "Agenda store unavailable" service.snapshot
    Attempt.lift (fun error => error)
      (checkImports lib snapshot imports.values.flatten)
    writableAgenda lib
    let revision ← call fun answer disk => disk.invalidateCatalog answer.outcome
    let service ← readService
    let snapshot ← required "Agenda cache unavailable" service.snapshot
    changeService (importedInto revision imports snapshot)

/-! ## Catalog -/

/-- `u64::max`, of a revision of the store. -/
def catalogRevision (revision : Nat) : U64 :=
  ⟨min revision u64Max, min_le_right _ _⟩

/-- The imported records in the order of their identities. -/
def importedRecords (revision : Nat) (events : List ActivityEvent) :
    Except String (List Record) := do
  let records ← events.mapM (imported lib.digest lib.calendar)
  return (byKey Record.id records).map fun record =>
    { record with revision := catalogRevision (max revision 1) }

/-- The catalog of a copy and of imported events, and the digest of these. -/
def buildCatalog (snapshot : Snapshot) (events : List ActivityEvent)
    (today : NaiveDate) (timezone : String) :
    Except String (Catalog × String) := do
  let imports ← importedRecords lib snapshot.catalogRevision events
  FallibleSteps.ensure (imports.length ≤ 10000)
    "imported agenda catalog exceeds 10000 records"
  let items := snapshot.items ++ imports
  FallibleSteps.ensure (decide (items.map Record.id).Nodup)
    "agenda import identity collision"
  FallibleSteps.ensure (recordBytes items ≤ catalogBudget)
    "combined agenda catalog exceeds 100 MiB"
  return (Catalog.new lib.lowercase items ⟨today, lib.zone timezone⟩,
    lib.digest (Json.arr (imports.map Record.toJson)).render)

def CachedCatalog.isOf (cached : CachedCatalog) (revision importRevision : Nat)
    (today : NaiveDate) (timezone : String) : Bool :=
  cached.revision == revision && cached.importRevision == importRevision &&
    cached.today == today && cached.timezone == timezone

structure Reading where
  catalog : Catalog
  revision : Nat
  imports : String
  diagnostics : SourceDiagnostics

def cachedCatalog (today : NaiveDate) (timezone : String) : Effect Reading := do
  let service ← readService
  let diagnostics := service.sourceDiagnostics
  let snapshot ← Attempt.lift (fun error => error) service.readableAgenda
  match service.agendaCatalog.filter fun cached =>
      cached.isOf snapshot.catalogRevision service.importRevision today
        timezone with
  | some cached =>
      return ⟨cached.catalog, cached.revision, cached.imports, diagnostics⟩
  | none => do
      let built ← Attempt.lift (fun error => error)
        (buildCatalog lib snapshot service.events today timezone)
      changeService fun service =>
        { service with
          agendaCatalog := some
            { revision := snapshot.catalogRevision
              importRevision := service.importRevision
              today
              timezone
              imports := built.2
              catalog := built.1 } }
      return ⟨built.1, snapshot.catalogRevision, built.2, diagnostics⟩

def agendaList (context : Context) (request : ListRequest) :
    Effect ListResult := do
  let now ← Attempt.lift (fun error => error) context
  let reading ← cachedCatalog lib now.1 now.2
  let result ← Attempt.lift (fun error => error)
    (list lib.lowercase lib.readCursor reading.catalog
      (catalogRevision reading.revision) reading.imports
      ⟨now.1, lib.zone now.2⟩ now.2 request)
  return { result with diagnostics := reading.diagnostics }

def agendaMarkers (context : Context) (request : MarkersRequest) :
    Effect MarkersResult := do
  let now ← Attempt.lift (fun error => error) context
  let reading ← cachedCatalog lib now.1 now.2
  let result ← Attempt.lift (fun error => error)
    (markers reading.catalog (catalogRevision reading.revision)
      ⟨now.1, lib.zone now.2⟩ now.2 request)
  return { result with diagnostics := reading.diagnostics }

/-- `Catalog::get`: of items with one identity the last is found. -/
def Catalog.get (catalog : Catalog) (id : String) : Option Record :=
  catalog.items.reverse.find? fun item => item.id == id

def agendaGet (context : Context) (id : String) : Effect (Record × Nat) := do
  Attempt.ensure (!isBlank id && byteLength id ≤ 512)
    "invalid agenda id"
  let now ← Attempt.lift (fun error => error) context
  let reading ← cachedCatalog lib now.1 now.2
  let item ← required "agenda item not found"
    (Catalog.get reading.catalog id)
  return (item, reading.revision)

/-! ## Refreshing -/

/-- The number of events of a source. -/
def itemCount (imports : Imports) (source : String) : Nat :=
  min (imports[source]?.elim 0 List.length) u32Max

/-- What a refresh has found so far. -/
structure Refreshed where
  imports : Imports
  sourceStates : ExtTreeMap String ActivitySourceState

/-- A source that fails keeps its events. -/
def refreshSource (refreshed : Refreshed)
    (source : CalendarSourceConfig)
    (loaded : Except String (List ActivityEvent)) : Refreshed :=
  let (imports, error) : Imports × Option String :=
    match loaded with
    | .ok events => (refreshed.imports.insert source.id events, none)
    | .error error => (refreshed.imports, some (sourceErrorCause error))
  { imports
    sourceStates := refreshed.sourceStates.insert source.id
      { id := source.id
        name := source.displayName
        kind := source.kind
        available := error.isNone
        itemCount := itemCount imports source.id
        error } }

/-- What the sources have given, over what was imported from them before. -/
def refreshSources (service : Service) (sources : List CalendarSourceConfig)
    (load : CalendarSourceConfig → Except String (List ActivityEvent)) :
    Refreshed :=
  let ids := sources.map CalendarSourceConfig.id
  sources.foldl
    (fun refreshed source => refreshSource refreshed source (load source))
    ⟨service.eventsBySource.filter fun id _ => ids.contains id,
      service.sourceStates.filter fun id _ => ids.contains id⟩

/-- No source is available when the imports have been refused. -/
def refused (error : String) (imports : Imports)
    (state : ActivitySourceState) : ActivitySourceState :=
  { state with
    available := false
    itemCount := itemCount imports state.id
    error := some
      ("Calendar acceptance failed; retained previous import: " ++ error) }

/-- A store that could not be opened is tried again. -/
def recoverStore : Effect Unit := do
  let service ← readService
  if service.todoError.isSome then do
    let _ ← (writableAgenda lib).catching some
  else return ()

/-- The states of the sources after the imports have been offered. -/
def Refreshed.concluded (refreshed : Refreshed) (accepted : Imports) :
    Except String Unit → ExtTreeMap String ActivitySourceState
  | .ok _ => refreshed.sourceStates
  | .error error =>
      refreshed.sourceStates.map fun _ state => refused error accepted state

/-- What is loaded from each source is given; the weather is left out. -/
def refresh (config : Except String (List CalendarSourceConfig))
    (load : CalendarSourceConfig → Except String (List ActivityEvent)) :
    Effect Unit := do
  recoverStore lib
  match config with
  | .error _ => return ()
  | .ok sources => do
      let service ← readService
      let refreshed := refreshSources service sources load
      let outcome ← (acceptCalendarImports lib refreshed.imports).catching some
      changeService fun service =>
        { service with
          calendarSources := sources
          sourceStates :=
            refreshed.concluded service.eventsBySource outcome }

def shutdown : Effect Unit := do
  let service ← readService
  match service.worker with
  | .missing => return ()
  | .running => Attempt.change fun world => world.withWorker .closed
  | .closed => Attempt.fail "agenda worker closed"

/-- `with_paths`, in a new process. -/
def start : Effect Unit := do
  changeService fun _ => .initial
  match ← (openAgenda lib).catching some with
  | .ok snapshot => changeService (openedWith snapshot)
  | .error error => changeService fun service =>
      { service with todoError := some (lib.unavailable error) }

/-! ## Runs -/

inductive Request
  | create (requestId : String) (item : NewItem)
  | patch (requestId id : String) (revision : U64) (patch : ItemPatch)
  | delete (requestId id : String) (revision : U64)
  | createTodo (title : String) (dueUnixMs : Option I64)
      (dueDate : Option String) (priority : UInt8) (context : Context)
      (now : I64)
  | completeTodo (id : String) (completed : Bool) (completedAt now : I64)
  | deleteTodo (id : String) (now : I64)
  | receipt (requestId : String)
  | list (context : Context) (request : ListRequest)
  | markers (context : Context) (request : MarkersRequest)
  | get (context : Context) (id : String)
  | refresh (config : Except String (List CalendarSourceConfig))
      (load : CalendarSourceConfig → Except String (List ActivityEvent))
  | shutdown
  | restart

/-- What is answered is not looked at. -/
def forget {Value : Type} (effect : Effect Value) : Effect Unit := do
  let _ ← effect

/-- What has been asked for is done as far as it goes. -/
def perform : Request → Effect Unit
  | .create requestId item => forget (agendaCreate lib requestId item)
  | .patch requestId id revision fields =>
      forget (agendaPatch lib requestId id revision fields)
  | .delete requestId id revision =>
      forget (agendaDelete lib requestId id revision)
  | .createTodo title dueUnixMs dueDate priority context now =>
      forget (createTodo lib title dueUnixMs dueDate priority context now)
  | .completeTodo id completed completedAt now =>
      forget (completeTodo lib id completed completedAt now)
  | .deleteTodo id now => deleteTodo lib id now
  | .receipt requestId => forget (agendaReceipt lib requestId)
  | .list context request => forget (agendaList lib context request)
  | .markers context request => forget (agendaMarkers lib context request)
  | .get context id => forget (agendaGet lib context id)
  | .refresh config load => refresh lib config load
  | .shutdown => shutdown
  | .restart => start lib

/-- A request, and how the database carries out what it leads to. -/
structure Turn where
  request : Request
  answers : List Answer

def step (world : World) (turn : Turn) : World :=
  (perform lib turn.request { world with answers := turn.answers }).2

end Effects

end BarDaemon.AgendaService
