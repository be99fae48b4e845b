import BarDaemon.Attempts
import BarDaemon.NotificationRows

/-!
# Notification tables

The tables of the notification database and the statements that change them.
A notification owns its actions, its context actions and its preview; nothing
but the order of the statements keeps them together.
-/

namespace BarDaemon.Notifications

open Attempt FallibleSteps RelationalRows Std

abbrev NotificationTable := ExtTreeMap Nat Row

/-- Notifications and previews by `history_id`. -/
structure NotificationTables where
  notifications : NotificationTable := ∅
  /-- The largest primary key ever used. -/
  sequence : Nat := 0
  actions : List (ChildRow NotificationAction) := []
  contextActions : List (ChildRow ContextAction) := []
  previews : ExtTreeMap Nat Row := ∅
  once : ExtTreeMap String Nat := ∅
  lastNotificationId : Nat := 0
  historyDays : Nat := 30

/-! ## Statements -/

/-- A `CHECK` of a column, which `NULL` passes. -/
def passes (row : Row) (check : String × Nat × Nat) : Bool :=
  match row check.1 with
  | .null => true
  | .integer value => decide (check.2.1 ≤ value ∧ value ≤ check.2.2)
  | .text _ => false

def contentChecks : List (String × Nat × Nat) :=
  [("session_id", 1, u32Max), ("urgency", 0, 255), ("resident", 0, 1),
    ("suppress_sound", 0, 1), ("image_data_present", 0, 1),
    ("created_unix_ms", 0, i64Max), ("updated_unix_ms", 0, i64Max),
    ("expires_unix_ms", 0, i64Max), ("snoozed_until_unix_ms", 0, i64Max),
    ("dnd_bypass", 0, 1)]

def isOpenFor (session : Nat) (row : Row) : Bool :=
  row "session_id" == .ofNat session && row "closed_unix_ms" == .null

def closeChecks : List (String × Nat × Nat) :=
  [("closed_unix_ms", 0, i64Max), ("close_reason", 0, u32Max)]

/-- Whether a row is closed, of one session or of any. -/
def closes (session : Option Nat) (row : Row) : Bool :=
  row "closed_unix_ms" == .null &&
    session.all fun id => row "session_id" == .ofNat id

def closedRow (closed reason : Nat) (row : Row) : Row :=
  row.update ["closed_unix_ms", "close_reason"]
    [.ofNat closed, .ofNat reason]

namespace NotificationTables

/-- `SELECT history_id … WHERE session_id=?1 AND closed_unix_ms IS NULL` -/
def openId (tables : NotificationTables) (session : Nat) : Option Nat :=
  (tables.notifications.toList.find? fun entry =>
    isOpenFor session entry.2).map Prod.fst

/-- The next `AUTOINCREMENT` key. -/
def nextId (tables : NotificationTables) : Nat :=
  max tables.sequence (tables.notifications.keys.max?.getD 0) + 1

/-- `INSERT … ON CONFLICT(history_id) DO UPDATE`, with the unique index on the
open rows of a session. -/
def insertContent (tables : NotificationTables) (existing : Option Nat)
    (session : Nat) (cells : List Cell) :
    Except String NotificationTables := do
  let id := existing.getD tables.nextId
  ensure (decide (id ≤ i64Max)) "database or disk is full"
  let row := (tables.notifications[id]?.getD fun _ => .null).update
    contentColumns cells
  ensure (contentChecks.all (passes row)) "CHECK constraint failed"
  ensure (tables.notifications.toList.all fun entry =>
    entry.1 == id || !isOpenFor session entry.2) "UNIQUE constraint failed"
  return { tables with
    notifications := tables.notifications.insert id row
    sequence := max tables.sequence id }

def insertPreview (tables : NotificationTables) (id : Nat)
    (preview : Preview) : Except String NotificationTables := do
  ensure (!tables.previews.contains id) "UNIQUE constraint failed"
  return { tables with
    previews := tables.previews.insert id
      (.ofColumns previewColumns (previewCells id preview)) }

/-- `UPDATE … SET closed_unix_ms=?1, close_reason=?2` -/
def closeRows (tables : NotificationTables) (session : Option Nat)
    (closed reason : Nat) : Except String NotificationTables := do
  ensure (tables.notifications.toList.all fun entry =>
    !closes session entry.2 ||
      closeChecks.all (passes (closedRow closed reason entry.2)))
    "CHECK constraint failed"
  return { tables with
    notifications := tables.notifications.map fun _ row =>
      if closes session row then closedRow closed reason row else row }

end NotificationTables

/-- A connection in a transaction; each statement that is still to come may
fail. -/
structure Connection where
  tables : NotificationTables
  faults : List (Option String)

/-- Run a statement, which has no effect where it fails. -/
def execute {Value : Type}
    (statement : NotificationTables →
      Except String (Value × NotificationTables)) :
    Attempt Connection String Value := fun connection =>
  let rest := { connection with faults := connection.faults.tail }
  match connection.faults.headD none with
  | some error => (.error error, rest)
  | none =>
      match statement connection.tables with
      | .error error => (.error error, rest)
      | .ok (value, tables) => (.ok value, { rest with tables := tables })

def update (change : NotificationTables → NotificationTables) :
    Attempt Connection String Unit :=
  execute fun tables => .ok ((), change tables)

def query {Value : Type} (read : NotificationTables → Value) :
    Attempt Connection String Value :=
  execute fun tables => .ok (read tables, tables)

/-! ## Saving -/

variable (lookups : Lookups) (icons : IconRegistry)

def saveContent (item : ActiveNotification) :
    Attempt Connection String Nat := do
  let existing ← query (·.openId item.id)
  let cells ← lift id (contentCells lookups item)
  execute fun tables =>
    (tables.insertContent existing item.id cells).map ((), ·)
  let saved ← query (·.openId item.id)
  match saved with
  | some id => pure id
  | none => fail "saved notification missing"

/-- Insert the rows of an owner one by one. -/
def insertChildren {Value : Type}
    (insert : ChildRow Value → NotificationTables →
      Except String NotificationTables) :
    List (ChildRow Value) → Attempt Connection String Unit
  | [] => pure ()
  | row :: rows => do
      execute fun tables => (insert row tables).map ((), ·)
      insertChildren insert rows

def insertAction (row : ChildRow NotificationAction)
    (tables : NotificationTables) : Except String NotificationTables :=
  (ChildRow.insert tables.actions row).map fun rows =>
    { tables with actions := rows }

def insertContextAction (row : ChildRow ContextAction)
    (tables : NotificationTables) : Except String NotificationTables :=
  (ChildRow.insert tables.contextActions row).map fun rows =>
    { tables with contextActions := rows }

/-- The statements that delete the children of some notifications. -/
def deleteChildren (doomed : NotificationTable → Nat → Bool) :
    Attempt Connection String Unit := do
  update fun tables => { tables with
    actions := ChildRow.remove tables.actions (doomed tables.notifications) }
  update fun tables => { tables with
    contextActions := ChildRow.remove tables.contextActions
      (doomed tables.notifications) }
  update fun tables => { tables with
    previews := tables.previews.filter fun id _ =>
      !doomed tables.notifications id }

/-- Replace the children of a notification. -/
def saveChildren (owner : Nat) (item : ActiveNotification) :
    Attempt Connection String Unit := do
  deleteChildren fun _ id => id == owner
  insertChildren insertAction (ChildRow.numbered owner 0 item.actions)
  insertChildren insertContextAction
    (ChildRow.numbered owner 0 item.contextActions)
  execute fun tables => (tables.insertPreview owner
    (.fromActive lookups icons item "")).map ((), ·)

/-- Delete the notifications that meet a predicate, their children first. -/
def deleteWhere (predicate : NotificationTable → Nat → Row → Bool) :
    Attempt Connection String Nat := do
  deleteChildren fun table id => table[id]?.any (predicate table id)
  execute fun tables =>
    let kept := tables.notifications.filter fun id row =>
      !predicate tables.notifications id row
    .ok (tables.notifications.size - kept.size,
      { tables with notifications := kept })

def saveInner (item : ActiveNotification) :
    Attempt Connection String Unit := do
  update fun tables => { tables with
    lastNotificationId := max tables.lastNotificationId item.id }
  if item.hints.transient then
    let _ ← deleteWhere fun _ _ row => isOpenFor item.id row
  else
    ensure (decide (item.toJson.size ≤ History.pageBytes))
      History.byteLimitError
    let id ← saveContent lookups item
    saveChildren lookups icons id item

/-- Close the open row of a session, or all of them. -/
def closeInner (session : Option Nat) (closed reason : Nat) :
    Attempt Connection String Unit := do
  let closed ← lift id (integer closed)
  execute fun tables =>
    (tables.closeRows session closed reason).map ((), ·)

/-- The key of the oldest row in the search scope. -/
def scopeKey (table : NotificationTable) : Nat :=
  (table.keys.reverse[History.scopeLimit - 1]?).getD 0

/-- Old rows, and closed ones outside the search scope. -/
def prunable (cutoff : Nat) (table : NotificationTable) (id : Nat)
    (row : Row) : Bool :=
  (match row "created_unix_ms" with
    | .integer created => decide (created < cutoff)
    | _ => false) ||
    (row "closed_unix_ms" != .null && decide (id < scopeKey table))

def pruneInner (now : Nat) : Attempt Connection String Nat := do
  let days ← query (·.historyDays)
  ensure (decide (1 ≤ days ∧ days ≤ 30)) "invalid notification settings"
  let cutoff ← lift id (integer (now - days * 86400000))
  deleteWhere (prunable cutoff)

def isAt (positions : List Position) (row : Row) : Bool :=
  positions.any fun position =>
    row "session_id" == .ofNat position.id &&
      row "created_unix_ms" == .ofNat position.created

/-- Delete in chunks of sixteen positions. -/
def deletePositions : List (List Position) → Attempt Connection String Unit
  | [] => pure ()
  | chunk :: chunks => do
      lift id (chunk.forM fun position => do
        let _ ← integer position.created)
      let _ ← deleteWhere fun _ _ row => isAt chunk row
      deletePositions chunks

/-- Forget outcomes from before a time, and prune. -/
def forgetBefore (now horizon : Nat) : Attempt Connection String Unit := do
  update fun tables => { tables with
    once := tables.once.filter fun _ created => horizon ≤ created }
  let _ ← pruneInner now

/-- Outcomes are remembered for 180 days; the subtraction saturates. -/
def onceHorizon (created : Nat) : Nat :=
  ((created : Int) - 180 * 86400 * 1000).toNat

def sweepOnce (item : ActiveNotification) (now : Nat) :
    Attempt Connection String Unit :=
  lift id (integer (onceHorizon item.createdUnixMs)) >>= forgetBefore now

/-- Record an update outcome once, and tell whether it was new. -/
def saveOnce (key : String) (item : ActiveNotification) (now : Nat) :
    Attempt Connection String Bool := do
  let created ← lift id (integer item.createdUnixMs)
  let inserted ← execute fun tables => .ok (!tables.once.contains key,
    { tables with once := tables.once.insertIfNew key created })
  if inserted then saveInner lookups icons item
  sweepOnce item now
  return inserted

/-! ## Reading -/

def readCandidates (tables : NotificationTables) (query : String) :
    Except String (List Preview) :=
  (tables.notifications.toList.reverse.take History.scopeLimit).mapM
    fun entry => decodeCandidate (candidateCells entry.1 entry.2
      tables.previews[entry.1]? query)

def orphanAction : String :=
  "orphan notification action"

def orphanContextAction : String :=
  "orphan notification context action"

def notRetained : String :=
  "notification no longer retained"

/-- Give child rows to the records that own them, one after the other. -/
def attach {Value : Type} (orphan : String)
    (add : ActiveNotification → Value → ActiveNotification) :
    List (ChildRow Value) → ExtTreeMap Nat HistoryNotification →
      Except String (ExtTreeMap Nat HistoryNotification)
  | [], records => .ok records
  | row :: rows, records =>
      match records[row.owner]? with
      | none => .error orphan
      | some record => attach orphan add rows (records.insert row.owner
          { record with notification := add record.notification row.value })

def pushAction (item : ActiveNotification) (action : NotificationAction) :
    ActiveNotification :=
  { item with actions := item.actions ++ [action] }

def pushContextAction (item : ActiveNotification) (action : ContextAction) :
    ActiveNotification :=
  { item with contextActions := item.contextActions ++ [action] }

/-- Take the records in the order of their keys. -/
def takeRecords : List Nat → ExtTreeMap Nat HistoryNotification →
    Except String (List HistoryNotification)
  | [], _ => .ok []
  | id :: ids, records =>
      match records[id]? with
      | none => .error notRetained
      | some record => do
          ensure (decide (record.notification.toJson.size ≤
            History.pageBytes)) History.byteLimitError
          let rest ← takeRecords ids (records.erase id)
          return record :: rest

/-- Decode the content of the rows. -/
def decodeRecords : List (Nat × Row) → ExtTreeMap Nat HistoryNotification →
    Except String (ExtTreeMap Nat HistoryNotification)
  | [], records => .ok records
  | entry :: entries, records => do
      let record ← decodeRecord (recordCells entry.1 entry.2)
      decodeRecords entries (records.insert record.historyId record)

def recordChunk (tables : NotificationTables) (ids : List Nat) :
    Except String (List HistoryNotification) := do
  let records ← decodeRecords
    (tables.notifications.toList.filter (ids.contains ·.1)) ∅
  let records ← attach orphanAction pushAction
    (ChildRow.ordered (tables.actions.filter (ids.contains ·.owner))) records
  let records ← attach orphanContextAction pushContextAction
    (ChildRow.ordered (tables.contextActions.filter (ids.contains ·.owner)))
    records
  takeRecords ids records

/-- Three queries for each chunk of keys. -/
def records (tables : NotificationTables) (ids : List Nat) :
    Except String (List HistoryNotification) := do
  let chunks ← (ids.toChunks (History.maxPage + 1)).mapM
    (recordChunk tables)
  return chunks.flatten

/-! ## Transactions -/

structure NotificationDatabase where
  durable : NotificationTables := {}
  /-- The tables as a transaction that has not ended has left them. -/
  working : Option NotificationTables := none
  /-- A fenced database refuses everything until restart. -/
  blocked : Bool := false

/-- What the engine does with a transaction. -/
structure Treatment where
  begin_ : Option String
  faults : List (Option String)
  /-- An error of `COMMIT`, and whether it is durable all the same. -/
  commit : Option (String × Bool)
  /-- The engine has rolled back by itself. -/
  ended : Bool
  rollback : Option String
  sidecars : Option String

namespace NotificationDatabase

/-- What reads see. -/
def tables (database : NotificationDatabase) : NotificationTables :=
  database.working.getD database.durable

/-- Roll an open transaction back. -/
def rollback (database : NotificationDatabase) (treatment : Treatment) :
    NotificationDatabase :=
  if treatment.ended || treatment.rollback.isNone then
    { database with working := none }
  else { database with blocked := true }

def settle {Value : Type} (database : NotificationDatabase)
    (treatment : Treatment) (result : Except String Value) :
    Except String Value × NotificationDatabase :=
  match treatment.sidecars with
  | some error => (.error error, { database with blocked := true })
  | none => (result, database)

def finish {Value : Type} (database : NotificationDatabase)
    (treatment : Treatment) (tables : NotificationTables)
    (result : Except String Value) :
    Except String Value × NotificationDatabase :=
  match result with
  | .error error =>
      ({ database with working := some tables }.rollback treatment).settle
        treatment (.error error)
  | .ok value =>
      match treatment.commit with
      | none => { database with durable := tables }.settle treatment
          (.ok value)
      | some (error, true) =>
          { database with durable := tables, blocked := true }.settle
            treatment (.error error)
      | some (error, false) =>
          ({ database with
            working := some tables
            blocked := true }.rollback treatment).settle treatment
              (.error error)

def transact {Value : Type} (database : NotificationDatabase)
    (treatment : Treatment) (body : Attempt Connection String Value) :
    Except String Value × NotificationDatabase :=
  if database.blocked then (.error NotificationStore.fenced, database)
  else
    match treatment.begin_ with
    | some error => (.error error, database)
    | none =>
        let (result, connection) := body ⟨database.tables, treatment.faults⟩
        database.finish treatment connection.tables result

end NotificationDatabase

inductive StoreOperation
  | save (item : ActiveNotification)
  | close (session closed reason : Nat)
  | clear (closed reason : Nat)
  | delete (positions : List Position)
  | prune (now : Nat)
  | saveOnce (key : String) (item : ActiveNotification) (now : Nat)
  /-- The settings are part of what pruning reads. -/
  | setHistoryDays (days now : Nat)
  | restart

namespace NotificationDatabase

/-- Perform one operation, with the icons that are known then. -/
def perform (lookups : Lookups) (database : NotificationDatabase)
    (icons : IconRegistry) (treatment : Treatment) :
    StoreOperation → Except String Unit × NotificationDatabase
  | .save item => database.transact treatment (saveInner lookups icons item)
  | .close session closed reason =>
      database.transact treatment (closeInner (some session) closed reason)
  | .clear closed reason =>
      database.transact treatment (closeInner none closed reason)
  | .delete positions =>
      database.transact treatment (deletePositions (positions.toChunks 16))
  | .prune now => database.transact treatment do
      let _ ← pruneInner now
  | .saveOnce key item now => database.transact treatment do
      let _ ← saveOnce lookups icons key item now
  | .setHistoryDays days now => database.transact treatment do
      update fun tables => { tables with historyDays := days }
      let _ ← pruneInner now
  | .restart => (.ok (), { database with working := none, blocked := false })

def candidates (database : NotificationDatabase) (query : String) :
    Except String (List Preview) :=
  if database.blocked then .error NotificationStore.fenced
  else readCandidates database.tables query

def records (database : NotificationDatabase) (ids : List Nat) :
    Except String (List HistoryNotification) :=
  if database.blocked then .error NotificationStore.fenced
  else Notifications.records database.tables ids

end NotificationDatabase

end BarDaemon.Notifications
