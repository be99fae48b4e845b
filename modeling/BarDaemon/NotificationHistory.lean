import Mathlib.Data.List.Sort
import BarDaemon.NotificationModel

/-!
# The read-only notification catalog

Queries, cursors and pages.  A cursor carries the epoch, the revision, the
normalized query and its own expiry, so the server keeps no lease.  How a
cursor token is parsed is a parameter; how it is written is not.
-/

namespace BarDaemon.Notifications

open CompactJson

namespace History

def scopeLimit : Nat := 5000
def maxPage : Nat := 100
def pageBytes : Nat := 512 * 1024
def cursorTtlMs : Nat := 120000

end History

structure Position where
  created : Nat
  id : Nat
  deriving DecidableEq, Repr

namespace Position

def invalid (position : Position) : Bool :=
  position.id == 0 || i64Max < position.created

/-- Whether a creation time and identifier come after the position in a list
that shows the newest first. -/
def follows (position : Position) (created id : Nat) : Bool :=
  created < position.created ||
    (created == position.created && id < position.id)

def contains (position : Position) (item : ActiveNotification) : Bool :=
  position.follows item.createdUnixMs item.id

/-- Oldest first. -/
def upTo (first second : Position) : Prop :=
  first.created < second.created ∨
    first.created = second.created ∧ first.id ≤ second.id

instance : DecidableRel upTo := fun _ _ =>
  inferInstanceAs (Decidable (_ ∨ _))

def toJson (position : Position) : Json :=
  .obj [("created", .nat position.created), ("id", .nat position.id)]

end Position

def ActiveNotification.position (item : ActiveNotification) : Position :=
  ⟨item.createdUnixMs, item.id⟩

structure HistoryQuery where
  query : String
  cursor : Option String
  /-- Oldest visible result to preserve across an authoritative refresh. -/
  anchor : Option Position
  limit : Nat

structure Cursor where
  epoch : String
  revision : String
  query : String
  before : Position
  expires : Nat
  deriving DecidableEq, Repr

def Cursor.toJson (cursor : Cursor) : Json :=
  .obj [("epoch", .str cursor.epoch), ("revision", .str cursor.revision),
    ("query", .str cursor.query), ("before", cursor.before.toJson),
    ("expires", .nat cursor.expires)]

/-- `serde_json::from_str` at the cursor type. -/
abbrev CursorParser := String → Option Cursor

structure CatalogRecord where
  historyId : Option Nat
  notification : ActiveNotification
  closedUnixMs : Option Nat
  closeReason : Option Nat
  deriving DecidableEq, Repr

namespace CatalogRecord

def toJson (record : CatalogRecord) : Json :=
  .obj [("history_id", Json.ofOption .nat record.historyId),
    ("notification", record.notification.toJson),
    ("closed_unix_ms", Json.ofOption .nat record.closedUnixMs),
    ("close_reason", Json.ofOption .nat record.closeReason)]

def fromActive (item : ActiveNotification) : CatalogRecord :=
  ⟨none, item, none, none⟩

def position (record : CatalogRecord) : Position :=
  record.notification.position

/-- Popup lifecycle does not affect catalog contents or revisions. -/
def withoutPopup (record : CatalogRecord) : CatalogRecord :=
  { record with notification := { record.notification with
      toastVisible := false
      toastExpiresUnixMs := none } }

/-- Newest first, as the pages are ordered. -/
def newerOrEqual (first second : CatalogRecord) : Prop :=
  second.notification.createdUnixMs < first.notification.createdUnixMs ∨
    second.notification.createdUnixMs = first.notification.createdUnixMs ∧
      second.notification.id ≤ first.notification.id

instance : DecidableRel newerOrEqual := fun _ _ =>
  inferInstanceAs (Decidable (_ ∨ _))

end CatalogRecord

structure HistoryPage where
  epoch : String
  revision : String
  query : String
  records : List CatalogRecord
  nextCursor : Option String
  scopeLimit : Nat
  anchorReached : Bool
  deriving DecidableEq, Repr

inductive HistoryError
  | invalid
  | stale
  | busy
  | unavailable (error : String)
  deriving DecidableEq, Repr

namespace HistoryError

def code : HistoryError → String
  | .invalid => "history-query-invalid"
  | .stale => "history-cursor-stale"
  | .busy => "history-busy"
  | .unavailable _ => "history-unavailable"

def message : HistoryError → String
  | .invalid => "Invalid notification query, page size or cursor"
  | .stale => "Notification history changed or cursor expired; refresh the query"
  | .busy => "Notification history is busy; retry the read"
  | .unavailable error => error

end HistoryError

section Search

variable (lookups : Lookups)

def normalizeSearch (query : String) : Except HistoryError String :=
  if 1024 < byteLength query then .error .invalid
  else
    let query := lookups.toLowercase (trim query)
    if 1024 < byteLength query then .error .invalid else .ok query

def searchText (item : ActiveNotification) : String :=
  lookups.toLowercase s!"{item.appName} {item.summary} {item.body}"

end Search

namespace HistoryQuery

def normalize (lookups : Lookups) (query : HistoryQuery) :
    Except HistoryError HistoryQuery :=
  if ¬ (1 ≤ query.limit ∧ query.limit ≤ History.maxPage) ∨
      query.anchor.any Position.invalid = true then
    .error .invalid
  else do
    let text ← normalizeSearch lookups query.query
    return { query with query := text }

/-- Where to resume.  A valid 1,024-byte query can expand sixfold when
escaped. -/
def position (parse : CursorParser) (query : HistoryQuery) (epoch : String)
    (revision now : Nat) : Except HistoryError (Option Position) :=
  match query.cursor with
  | none => .ok none
  | some token =>
      if 8192 < byteLength token then .error .invalid
      else
        match parse token with
        | none => .error .invalid
        | some cursor =>
            if cursor.epoch ≠ epoch ∨ cursor.revision ≠ toString revision ∨
                cursor.query ≠ query.query ∨ cursor.expires ≤ now ∨
                saturatingAdd now History.cursorTtlMs < cursor.expires then
              .error .stale
            else if cursor.before.invalid then .error .invalid
            else .ok (some cursor.before)

end HistoryQuery

namespace History

def byteLimitError : String :=
  "Notification exceeds history page byte limit"

/-- Fill one page.  Returns its records and whether something is left. -/
def fillPage (limit : Nat) :
    List CatalogRecord → List CatalogRecord → Nat →
      Except HistoryError (List CatalogRecord × Bool)
  | [], records, _ => .ok (records, false)
  | record :: rest, records, bytes =>
      let size := record.toJson.size
      if records.length = limit ∨ pageBytes < bytes + size then
        if records.isEmpty then .error (.unavailable byteLimitError)
        else .ok (records, true)
      else
        fillPage limit rest (records ++ [record]) (bytes + size)

/-- Whether the page reaches the row that the client keeps visible. -/
def anchorReached (anchor : Option Position) (more : Bool)
    (records : List CatalogRecord) : Bool :=
  !more || anchor.all fun anchor =>
    records.getLast?.any fun record =>
      record.notification.createdUnixMs < anchor.created ||
        (record.notification.createdUnixMs == anchor.created &&
          record.notification.id ≤ anchor.id)

/-- Everything that a page may show, newest first. -/
def merged (lookups : Lookups) (persisted : List CatalogRecord)
    (active : List ActiveNotification) (query : HistoryQuery)
    (before : Option Position) : List CatalogRecord :=
  let live := active.filter fun item =>
    before.all (fun position => position.contains item) &&
      contains (searchText lookups item) query.query
  ((persisted ++ live.map CatalogRecord.fromActive).insertionSort
    CatalogRecord.newerOrEqual).map CatalogRecord.withoutPopup

/-- Persistence supplies at most `limit + 1` matching rows that are not
live. -/
def page (lookups : Lookups) (persisted : List CatalogRecord)
    (active : List ActiveNotification) (query : HistoryQuery)
    (before : Option Position) (epoch : String) (revision now : Nat) :
    Except HistoryError HistoryPage := do
  let (records, more) ← fillPage query.limit
    (merged lookups persisted active query before) [] 0
  let last := if more then records.getLast? else none
  return {
    epoch := epoch
    revision := toString revision
    query := query.query
    records := records
    nextCursor := last.map fun record =>
      (Cursor.toJson {
        epoch := epoch
        revision := toString revision
        query := query.query
        before := record.position
        expires := saturatingAdd now cursorTtlMs }).render
    scopeLimit := scopeLimit
    anchorReached := anchorReached query.anchor more records }

end History

end BarDaemon.Notifications
