import Std.Data.ExtTreeMap.Lemmas
import BarDaemon.FallibleSteps
import BarDaemon.NotificationHistory

/-!
# The notification store

Tables, the statements that change them, and transactions.  A row carries the
content columns in the form in which they are decoded again, together with the
action rows that it owns; rows are in primary-key order.  A transaction
commits, is refused without a trace, or ends in doubt and fences the store.
-/

namespace BarDaemon.Notifications

open CompactJson FallibleSteps Std

/-! ## Rows -/

/-- The form that a stored notification has when it is read again. -/
def ActiveNotification.stored (item : ActiveNotification) :
    ActiveNotification :=
  { item with
    hints := { item.hints with transient := false }
    interactionBlocked := false
    toastVisible := false
    toastExpiresUnixMs := none }

/-- The content columns of a row. -/
structure Columns where
  appKey : String
  searchText : String
  notification : ActiveNotification
  deriving DecidableEq, Repr

structure HistoryRow where
  historyId : Nat
  columns : Columns
  closedUnixMs : Option Nat
  closeReason : Option Nat
  deriving DecidableEq, Repr

namespace HistoryRow

def sessionId (row : HistoryRow) : Nat :=
  row.columns.notification.id

def createdUnixMs (row : HistoryRow) : Nat :=
  row.columns.notification.createdUnixMs

def isOpen (row : HistoryRow) : Bool :=
  row.closedUnixMs.isNone

def position (row : HistoryRow) : Position :=
  row.columns.notification.position

def catalogRecord (row : HistoryRow) : CatalogRecord :=
  ⟨some row.historyId, row.columns.notification, row.closedUnixMs,
    row.closeReason⟩

end HistoryRow

structure Tables where
  rows : List HistoryRow := []
  /-- The largest primary key ever used. -/
  sequence : Nat := 0
  /-- Event keys of update outcomes with their creation times. -/
  once : List (String × Nat) := []
  settings : Settings := {}
  lastNotificationId : Nat := 0
  dnd : Bool := false
  dndUntilUnixMs : Option Nat := none
  appPolicies : ExtTreeMap String AppPolicy := ∅
  /-- Not a table: the retention cutoffs that have been applied. -/
  cutoffs : List Nat := []

inductive Mutation
  | save (item : ActiveNotification)
  | close (id closedUnixMs reason : Nat)
  | clear (closedUnixMs reason : Nat)
  | setDnd (enabled : Bool) (untilUnixMs : Option Nat)
  deriving DecidableEq, Repr

/-- Storage integers are `i64`. -/
def integer (value : Nat) : Except String Nat :=
  if value ≤ i64Max then .ok value
  else .error "notification integer exceeds storage range"

def optionalInteger : Option Nat → Except String (Option Nat)
  | none => .ok none
  | some value => (integer value).map some

namespace Tables

variable (lookups : Lookups)

/-! ## Statements -/

def columns (item : ActiveNotification) : Columns :=
  ⟨item.appKey, searchText lookups item, item.stored⟩

def rememberId (tables : Tables) (id : Nat) : Tables :=
  { tables with lastNotificationId := max tables.lastNotificationId id }

def deleteWhere (tables : Tables) (doomed : HistoryRow → Bool) :
    Nat × Tables :=
  ((tables.rows.filter doomed).length,
    { tables with rows := tables.rows.filter fun row => !doomed row })

def openRow (tables : Tables) (id : Nat) : Option HistoryRow :=
  tables.rows.find? fun row => row.sessionId == id && row.isOpen

/-- The conversions of `save_content`, in parameter order. -/
def convertContent (item : ActiveNotification) : Except String Unit := do
  let _ ← integer item.createdUnixMs
  let _ ← integer item.updatedUnixMs
  let _ ← optionalInteger item.expiresUnixMs
  let _ ← optionalInteger item.snoozedUntilUnixMs

/-- Rewrite the open row of the identifier, or append one. -/
def saveContent (tables : Tables) (item : ActiveNotification) :
    Except String Tables := do
  convertContent item
  match tables.openRow item.id with
  | some existing =>
      return { tables with rows := tables.rows.map fun row =>
        if row.historyId = existing.historyId then
          { row with columns := columns lookups item }
        else row }
  | none =>
      return { tables with
        rows := tables.rows ++
          [⟨tables.sequence + 1, columns lookups item, none, none⟩]
        sequence := tables.sequence + 1 }

def saveInner (tables : Tables) (item : ActiveNotification) :
    Except String Tables := do
  let tables := tables.rememberId item.id
  if item.hints.transient then
    return (tables.deleteWhere fun row =>
      row.sessionId == item.id && row.isOpen).2
  if History.pageBytes < item.toJson.size then
    throw History.byteLimitError
  saveContent lookups tables item

/-- Close one open row, or all of them. -/
def closeInner (tables : Tables) (id : Option Nat)
    (closedUnixMs reason : Nat) : Except String Tables := do
  let closed ← integer closedUnixMs
  return { tables with rows := tables.rows.map fun row =>
    if row.isOpen && id.all (fun id => row.sessionId == id) then
      { row with closedUnixMs := some closed, closeReason := some reason }
    else row }

def setDnd (tables : Tables) (enabled : Bool) (limit : Option Nat) :
    Except String Tables := do
  let stored ← optionalInteger (if enabled then limit else none)
  return { tables with dnd := enabled, dndUntilUnixMs := stored }

/-- The primary key of the oldest row inside the search scope. -/
def scopeFloor (rows : List HistoryRow) : Nat :=
  (rows.reverse[History.scopeLimit - 1]?.map HistoryRow.historyId).getD 0

def cutoff (tables : Tables) (now : Nat) : Nat :=
  now - tables.settings.historyDays * 86400000

/-- Rows that retention removes at `now`. -/
def prunable (tables : Tables) (now : Nat) (row : HistoryRow) : Bool :=
  row.createdUnixMs < tables.cutoff now ||
    (!row.isOpen && row.historyId < scopeFloor tables.rows)

def pruneInner (tables : Tables) (now : Nat) :
    Except String (Nat × Tables) := do
  tables.settings.validate
  let cutoff ← integer (tables.cutoff now)
  let (removed, pruned) := tables.deleteWhere (tables.prunable now)
  return (removed, { pruned with cutoffs := cutoff :: pruned.cutoffs })

def apply (tables : Tables) : Mutation → Except String Tables
  | .save item => saveInner lookups tables item
  | .close id closed reason => closeInner tables (some id) closed reason
  | .clear closed reason => closeInner tables none closed reason
  | .setDnd enabled limit => setDnd tables enabled limit

/-- Record an update outcome once.  Returns whether its key was new. -/
def saveOnce (tables : Tables) (key : String) (item : ActiveNotification)
    (now : Nat) : Except String (Bool × Tables) := do
  let created ← integer item.createdUnixMs
  let inserted := !tables.once.any fun entry => entry.1 == key
  let tables ←
    if inserted then
      saveInner lookups { tables with once := tables.once ++ [(key, created)] }
        item
    else
      pure tables
  let horizon ← integer (item.createdUnixMs - 180 * 86400 * 1000)
  let tables := { tables with
    once := tables.once.filter fun entry => horizon ≤ entry.2 }
  let (_, tables) ← tables.pruneInner now
  return (inserted, tables)

/-- The source deletes in chunks of sixteen positions of one transaction. -/
def delete (tables : Tables) (positions : List Position) :
    Except String Tables := do
  positions.forM fun position => do
    let _ ← integer position.created
  return (tables.deleteWhere fun row => positions.contains row.position).2

def setSettings (tables : Tables) (value : Settings) (now : Nat) :
    Except String (Settings × Tables) := do
  value.validate
  let (_, tables) ← { tables with settings := value }.pruneInner now
  return (value, tables)

def setPolicy (tables : Tables) (key : String) (policy : AppPolicy) :
    Except String Tables := do
  let _ ← optionalInteger policy.untilUnixMs
  return { tables with appPolicies := tables.appPolicies.insert key policy }

/-! ## Reads -/

/-- All retained rows of a deletion scope, not just the search window. -/
def targets (tables : Tables) (appKey : Option String)
    (selected : Option Position) : Except String (List Position) := do
  let _ ← optionalInteger (selected.map Position.created)
  let found := tables.rows.filter fun row =>
    appKey.all (fun key => row.columns.appKey == key) &&
      selected.all fun position => row.position == position
  if 100000 < found.length then
    throw "Deletion exceeds 100,000-record safety limit"
  return found.map HistoryRow.position

/-- Window membership uses insertion identity, page order the creation time:
the window is selected first.  At most one extra row is fetched for each live
identity, which is then excluded. -/
def historyIds (tables : Tables) (query : String) (before : Option Position)
    (limit : Nat) (excluded : List Position) :
    Except String (List HistoryRow) := do
  let _ ← optionalInteger (before.map Position.created)
  let window := tables.rows.reverse.take History.scopeLimit
  let matching := window.filter fun row =>
    before.all (fun position =>
        position.follows row.createdUnixMs row.sessionId) &&
      (query == "" || contains row.columns.searchText query)
  let fetched := (matching.insertionSort fun first second =>
    CatalogRecord.newerOrEqual first.catalogRecord second.catalogRecord).take
      (limit + 1 + excluded.length)
  return (fetched.filter fun row => !excluded.contains row.position).take
    (limit + 1)

/-- Hydrate rows in the order given. -/
def records (rows : List HistoryRow) : Except String (List CatalogRecord) :=
  rows.mapM fun row =>
    if History.pageBytes < row.columns.notification.toJson.size then
      .error History.byteLimitError
    else
      .ok row.catalogRecord

/-- Collect records until the byte budget is exceeded, the exceeding record
included.  Returns whether it was. -/
def collect : List CatalogRecord → List CatalogRecord → Nat →
    List CatalogRecord × Nat × Bool
  | [], records, bytes => (records, bytes, false)
  | record :: rest, records, bytes =>
      let bytes := bytes + record.toJson.size
      if History.pageBytes < bytes then (records ++ [record], bytes, true)
      else collect rest (records ++ [record]) bytes

def hydrate : List (List HistoryRow) → List CatalogRecord → Nat →
    Except String (List CatalogRecord)
  | [], collected, _ => .ok collected
  | chunk :: chunks, collected, bytes => do
      let hydrated ← records chunk
      match collect hydrated collected bytes with
      | (collected, _, true) => return collected
      | (collected, bytes, false) => hydrate chunks collected bytes

/-- Full-content hydration is bounded as well as the final page; one overflow
row is included so that the page can produce its cursor. -/
def query (tables : Tables) (query : String) (before : Option Position)
    (limit : Nat) (excluded : List Position) :
    Except String (List CatalogRecord) := do
  if ¬ (1 ≤ limit ∧ limit ≤ History.maxPage) then
    throw "invalid notification page limit"
  let rows ← tables.historyIds query before limit excluded
  hydrate (rows.toChunks 8) [] 0

end Tables

/-! ## Transactions -/

/-- How the database ends a transaction that has no error of its own. -/
inductive Fate
  | committed
  | refused (error : String)
  | uncertain (error : String) (durable : Bool)

structure NotificationStore where
  tables : Tables
  /-- A fenced store refuses everything until restart. -/
  blocked : Bool := false
  /-- Not in the store: how many transactions have failed. -/
  failures : Nat := 0

namespace NotificationStore

def fenced : String :=
  "notification database fenced; restart required"

def failed (store : NotificationStore) : NotificationStore :=
  { store with failures := store.failures + 1 }

/-- Run a transaction body.  An error of the body is rolled back; a rollback
or commit whose outcome is unknown fences the store. -/
def transact {Value : Type} (store : NotificationStore) (fate : Fate)
    (body : Tables → Except String (Value × Tables)) :
    Except String Value × NotificationStore :=
  if store.blocked then (.error fenced, store.failed)
  else
    match body store.tables, fate with
    | .error error, .uncertain _ _ =>
        (.error error, { store.failed with blocked := true })
    | .error error, _ => (.error error, store.failed)
    | .ok (value, tables), .committed =>
        (.ok value, { store with tables := tables })
    | .ok _, .refused error => (.error error, store.failed)
    | .ok (_, tables), .uncertain error durable =>
        (.error error, { store.failed with
          tables := if durable then tables else store.tables
          blocked := true })

/-- A transaction that succeeded ran to its end on an open store. -/
theorem transact_eq_ok {Value : Type} {store after : NotificationStore}
    {fate : Fate} {body : Tables → Except String (Value × Tables)}
    {value : Value}
    (succeeded : store.transact fate body = (.ok value, after)) :
    store.blocked = false ∧ ∃ tables,
      body store.tables = .ok (value, tables) ∧
        after = { store with tables := tables } := by
  unfold transact at succeeded
  split at succeeded
  · simp at succeeded
  · rename_i notBlocked
    refine ⟨by simpa using notBlocked, ?_⟩
    split at succeeded
    · simp at succeeded
    · simp at succeeded
    · rename_i other tables performed
      simp only [Prod.mk.injEq, Except.ok.injEq] at succeeded
      rw [← succeeded.1, ← succeeded.2]
      exact ⟨tables, performed, rfl⟩
    · simp at succeeded
    · simp at succeeded

end NotificationStore

end BarDaemon.Notifications
