import BarDaemon.AgendaPatches
import BarDaemon.TransitionRuns

/-!
# The agenda store

The item and receipt tables, and the mutations that run against them, each in
one transaction.
-/

namespace BarDaemon.Agendas

open CompactJson FallibleSteps TransitionRuns

/-! ## Requests -/

inductive Mutation
  | create (requestId : String) (item : NewItem)
  | patch (requestId id : String) (expectedRevision : U64) (patch : ItemPatch)
  | delete (requestId id : String) (expectedRevision : U64)
deriving DecidableEq, Repr

def Mutation.requestId : Mutation → String
  | .create requestId _ => requestId
  | .patch requestId _ _ _ => requestId
  | .delete requestId _ _ => requestId

def linksJson (links : List Link) : Json :=
  .arr (links.map Link.toJson)

def NewItem.toJson (item : NewItem) : Json :=
  .obj [("kind", item.kind.toJson), ("title", .str item.title),
    ("notes", .str item.notes), ("links", linksJson item.links),
    ("schedule", item.schedule.toJson),
    ("event", Json.ofOption EventDetails.toJson item.event),
    ("task", Json.ofOption TaskDetails.toJson item.task)]

def ItemPatch.toJson (patch : ItemPatch) : Json :=
  .obj [("title", optionalText patch.title),
    ("notes", optionalText patch.notes),
    ("links", Json.ofOption linksJson patch.links),
    ("schedule", Json.ofOption Schedule.toJson patch.schedule),
    ("event", Json.ofOption EventDetails.toJson patch.event),
    ("task", Json.ofOption TaskDetails.toJson patch.task)]

def Mutation.toJson : Mutation → Json
  | .create requestId item =>
      .obj [("operation", .str "Create"), ("request_id", .str requestId),
        ("item", item.toJson)]
  | .patch requestId id expectedRevision fields =>
      .obj [("operation", .str "Patch"), ("request_id", .str requestId),
        ("id", .str id), ("expected_revision", .nat expectedRevision),
        ("patch", fields.toJson)]
  | .delete requestId id expectedRevision =>
      .obj [("operation", .str "Delete"), ("request_id", .str requestId),
        ("id", .str id), ("expected_revision", .nat expectedRevision)]

structure MutationResult where
  item : Option Record
  catalogRevision : Nat
  requestId : String
  deletedId : Option String
deriving DecidableEq, Repr

def MutationResult.toJson (result : MutationResult) : Json :=
  .obj ([("item", Json.ofOption Record.toJson result.item),
      ("catalog_revision", .nat result.catalogRevision),
      ("request_id", .str result.requestId)] ++
    (result.deletedId.map fun id => ("deleted_id", Json.str id)).toList)

/-! ## Envelope bounds -/

def linkBounds (link : Link) : Except String Unit := do
  identifier link.id
  bounded link.label 4096 "link label"
  bounded link.url 8192 "link URL"

def stepBounds (step : ChecklistStep) : Except String Unit := do
  identifier step.id
  bounded step.text 8192 "checklist text"

def collectionBounds (links : Option (List Link)) (event : Option EventDetails)
    (task : Option TaskDetails) : Except String Unit := do
  whenSome links fun links => do
    ensure (links.length ≤ 128) "too many links"
    links.forM linkBounds
  whenSome event EventDetails.validate
  whenSome task fun task => do
    bounded task.status 128 "status"
    ensure (task.checklist.length ≤ 512) "too many checklist steps"
    task.checklist.forM stepBounds

section Bounds

variable (calendar : Calendar)

def NewItem.validateBounds (item : NewItem) : Except String Unit := do
  bounded item.title 4096 "title"
  bounded item.notes 262144 "notes"
  item.schedule.validate calendar false
  collectionBounds (some item.links) item.event item.task

def ItemPatch.validateBounds (patch : ItemPatch) : Except String Unit := do
  whenSome patch.title fun title => bounded title 4096 "title"
  whenSome patch.notes fun notes => bounded notes 262144 "notes"
  whenSome patch.schedule fun schedule => schedule.validate calendar false
  collectionBounds patch.links patch.event patch.task

def Mutation.validateBounds : Mutation → Except String Unit
  | .create _ item => item.validateBounds calendar
  | .patch _ _ _ fields => fields.validateBounds calendar
  | .delete _ _ _ => .ok ()

end Bounds

/-! ## Tables -/

/-- A row of the items.  The payload is kept as the record it encodes. -/
structure ItemRow where
  id : String
  sourceId : String
  sourceUid : Option String
  kind : ItemKind
  revision : U64
  payload : Record
deriving DecidableEq, Repr

/-- A row of the operation receipts, with its payload decoded. -/
structure Receipt where
  requestId : String
  fingerprint : String
  payload : MutationResult
deriving DecidableEq, Repr

structure Store where
  items : List ItemRow
  sources : List (String × Capabilities)
  receipts : List Receipt
  /-- The bytes of the migration payloads. -/
  migrations : Nat
  catalogRevision : Nat
  readOnly : Bool
  blocked : Bool
deriving DecidableEq, Repr

/-- The row of a record. -/
def ItemRow.ofRecord (record : Record) : ItemRow where
  id := record.id
  sourceId := record.sourceId
  sourceUid := record.sourceUid
  kind := record.kind
  revision := record.revision
  payload := record

/-- The constraints of the items table on one row. -/
def ItemRow.allowed (row : ItemRow) : Bool :=
  0 < row.revision.val && row.revision.val ≤ i64Max &&
    row.payload.toJson.size ≤ 1048576

/-- The unique columns of the items table. -/
def ItemRow.clashes (row other : ItemRow) : Bool :=
  row.id == other.id ||
    (row.sourceId == other.sourceId && row.sourceUid.isSome &&
      row.sourceUid == other.sourceUid)

def ItemRow.isAt (id : String) (revision : U64) (row : ItemRow) : Bool :=
  row.id == id && row.revision == revision

/-- `SET revision=?,payload=?` -/
def ItemRow.write (row : ItemRow) (record : Record) : ItemRow :=
  { row with
    revision := record.revision
    payload := record }

namespace Store

variable (calendar : Calendar)

/-- The capabilities of a source. -/
def capabilities (store : Store) (source : String) :
    Except String Capabilities :=
  match store.sources.lookup source with
  | some capabilities => .ok capabilities
  | none => .error "unknown source"

/-- A record has the capabilities of its source, except that an event cannot
be completed. -/
def checkCapabilities (store : Store) (record : Record) (error : String) :
    Except String Unit := do
  let caps ← store.capabilities record.sourceId
  let caps : Capabilities :=
    { caps with complete := caps.complete && record.kind != .event }
  ensure (record.capabilities == caps) error

def decodeRow (store : Store) (row : ItemRow) : Except String Record := do
  row.payload.validate calendar
  ensure (row.payload.id == row.id && row.payload.sourceId == row.sourceId &&
    row.payload.sourceUid == row.sourceUid &&
    row.payload.revision == row.revision) "record index/payload mismatch"
  ensure (row.kind == row.payload.kind) "kind mismatch"
  store.checkCapabilities row.payload "record/source capability mismatch"
  return row.payload

def get (store : Store) (id : String) : Except String (Option Record) :=
  match store.items.find? fun row => row.id == id with
  | some row => (store.decodeRow calendar row).map some
  | none => .ok none

def snapshot (store : Store) : Except String (List Record) := do
  ensure (store.items.length ≤ 10000) "agenda item limit exceeded"
  store.items.mapM (store.decodeRow calendar)

def payloadSize (store : Store) : Nat :=
  (store.items.map fun row => row.payload.toJson.size).sum +
    (store.receipts.map fun receipt => receipt.payload.toJson.size).sum +
    store.migrations

def ensurePayloadBudget (store : Store) : Except String Unit :=
  ensure (store.payloadSize ≤ 100 * 1024 * 1024)
    "agenda payload capacity reached; export and reconcile explicitly"

/-- `receipt::decode` -/
def decodeReceipt (store : Store) (receipt : Receipt) :
    Except String MutationResult := do
  identifier receipt.requestId
  ensure (byteLength receipt.fingerprint == 64 &&
    receipt.fingerprint.toList.all fun char =>
      char.isDigit || ('a' ≤ char && char ≤ 'f') || ('A' ≤ char && char ≤ 'F'))
    "invalid receipt fingerprint"
  let result := receipt.payload
  ensure (result.requestId == receipt.requestId && 0 < result.catalogRevision &&
    result.catalogRevision ≤ store.catalogRevision &&
    result.item.isSome != result.deletedId.isSome)
    "invalid receipt identity/revision/outcome"
  whenSome result.item (Record.validate calendar)
  whenSome result.deletedId identifier
  return result

/-- The receipt of a request. -/
def receipt (store : Store) (request : String) :
    Except String (Option (String × MutationResult)) := do
  identifier request
  match store.receipts.find? fun receipt => receipt.requestId == request with
  | some receipt => do
      let result ← store.decodeReceipt calendar receipt
      return some (receipt.fingerprint, result)
  | none => return none

/-! ## Statements -/

def insertRecord (store : Store) (record : Record) : Except String Store := do
  record.validate calendar
  store.checkCapabilities record "record/source capability mismatch"
  let row := ItemRow.ofRecord record
  ensure row.allowed "CHECK constraint failed"
  ensure (!store.items.any row.clashes) "UNIQUE constraint failed"
  return { store with items := store.items ++ [row] }

variable (fingerprint : String → String)

def createItem (store : Store) (request : String) (item : NewItem)
    (now : I64) : Except String (Record × Store) := do
  ensure (store.items.length < 10000) "agenda item capacity reached"
  let caps ← store.capabilities "local"
  ensure caps.write "local source is read-only"
  let record := createRecord ("local:" ++ fingerprint request) item now
  let inserted ← store.insertRecord calendar record
  return (record, inserted)

/-- `WHERE id=? AND revision=?` -/
def rowsAt (store : Store) (id : String) (revision : U64) : List ItemRow :=
  store.items.filter (ItemRow.isAt id revision)

def patchItem (store : Store) (id : String) (expectedRevision : U64)
    (patch : ItemPatch) (now : I64) : Except String (Record × Store) := do
  match ← store.get calendar id with
  | none => .error "item not found"
  | some record => do
      let patched ← patchRecord calendar record expectedRevision patch now
      let changes := store.rowsAt id expectedRevision
      ensure (changes.all fun row => (row.write patched).allowed)
        "CHECK constraint failed"
      ensure (changes.length == 1) "revision conflict"
      return (patched,
        { store with
          items := store.items.map fun row =>
            if row.isAt id expectedRevision then row.write patched else row })

def deleteItem (store : Store) (id : String) (expectedRevision : U64) :
    Except String Store := do
  match ← store.get calendar id with
  | none => .error "item not found"
  | some record => do
      ensure (record.revision == expectedRevision) "revision conflict"
      ensure record.capabilities.delete "source cannot delete"
      ensure ((store.rowsAt id expectedRevision).length == 1)
        "revision conflict"
      return { store with
        items := store.items.filter fun row => !row.isAt id expectedRevision }

/-! ## Transactions -/

/-- The item or the deleted identity, and the store with its rows. -/
def applyItems (store : Store) (mutation : Mutation) (now : I64) :
    Except String (Option Record × Option String × Store) :=
  match mutation with
  | .create request item => do
      let (record, after) ←
        store.createItem calendar fingerprint request item now
      return (some record, none, after)
  | .patch _ id expectedRevision fields => do
      let (record, after) ←
        store.patchItem calendar id expectedRevision fields now
      return (some record, none, after)
  | .delete _ id expectedRevision => do
      let after ← store.deleteItem calendar id expectedRevision
      return (none, some id, after)

def apply (store : Store) (mutation : Mutation) (hash : String) (now : I64) :
    Except String (MutationResult × Store) := do
  let (item, deletedId, after) ←
    store.applyItems calendar fingerprint mutation now
  let revision := after.catalogRevision + 1
  let result : MutationResult :=
    ⟨item, revision, mutation.requestId, deletedId⟩
  ensure (result.toJson.size ≤ 1048576) "CHECK constraint failed"
  ensure (!after.receipts.any fun receipt =>
    receipt.requestId == mutation.requestId) "UNIQUE constraint failed"
  let after : Store :=
    { after with
      catalogRevision := revision
      receipts := after.receipts ++ [⟨mutation.requestId, hash, result⟩] }
  after.ensurePayloadBudget
  return (result, after)

/-- How the database carries a transaction out. -/
structure Outcome where
  /-- A statement that fails. -/
  fault : Option String
  /-- Whether the commit succeeds, and if not whether it lasts all the same. -/
  committed : Bool
  durable : Bool
  rolledBack : Bool
  /-- Whether the files next to the database are made private again. -/
  hardened : Bool
deriving DecidableEq, Repr

/-- Commit what has been applied, and block further writes where it is not
known what has been stored. -/
def finish (store : Store) (outcome : Outcome)
    (applied : Except String (MutationResult × Store)) :
    Except String MutationResult × Store :=
  match applied with
  | .error error =>
      (.error error,
        { store with blocked := !outcome.rolledBack || !outcome.hardened })
  | .ok (result, after) =>
      if outcome.committed then
        if outcome.hardened then
          (.ok result, after)
        else
          (.error
            "committed but sidecar protection failed; resolve by receipt",
            { after with blocked := true })
      else if outcome.durable then
        (.error "commit failed", { after with blocked := true })
      else
        (.error "commit failed", { store with blocked := true })

/-- The checks before the transaction: the hash of the mutation, and the result
of the request where it has been carried out already. -/
def prepare (store : Store) (mutation : Mutation) :
    Except String (String × Option MutationResult) := do
  ensure (!store.readOnly) "existing-only maintenance store is read-only"
  ensure (!store.blocked) "agenda writes fenced"
  identifier mutation.requestId
  mutation.validateBounds calendar
  let hash := fingerprint mutation.toJson.render
  match ← store.receipt calendar mutation.requestId with
  | some (previous, result) => do
      ensure (hash == previous) "request_id fingerprint mismatch"
      return (hash, some result)
  | none => do
      ensure (store.receipts.length < 100000)
        "receipt capacity reached; export and reconcile explicitly"
      return (hash, none)

def mutate (store : Store) (mutation : Mutation) (now : I64)
    (outcome : Outcome) : Except String MutationResult × Store :=
  match store.prepare calendar fingerprint mutation with
  | .error error => (.error error, store)
  | .ok (_, some result) => (.ok result, store)
  | .ok (hash, none) =>
      store.finish outcome
        (match outcome.fault with
        | some error => .error error
        | none => store.apply calendar fingerprint mutation hash now)

/-- The identity in a request. -/
def checkIdentity : Mutation → Except String Unit
  | .create _ _ => .ok ()
  | .patch _ id _ _ => identifier id
  | .delete _ id _ => identifier id

/-- A request, its time and how the database carries it out. -/
structure Event where
  mutation : Mutation
  now : I64
  outcome : Outcome
deriving DecidableEq, Repr

/-- `Store::create`, `Store::patch` and `Store::delete`: what fails here does
not reach the database. -/
def submit (store : Store) (event : Event) :
    Except String MutationResult × Store :=
  match (do
    identifier event.mutation.requestId
    checkIdentity event.mutation
    event.mutation.validateBounds calendar : Except String Unit) with
  | .error error => (.error error, store)
  | .ok _ =>
      store.mutate calendar fingerprint event.mutation event.now event.outcome

def step (store : Store) (event : Event) : Store :=
  (store.submit calendar fingerprint event).2

end Store

end BarDaemon.Agendas
