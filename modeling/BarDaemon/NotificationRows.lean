import BarDaemon.NotificationStore
import BarDaemon.RelationalRows

/-!
# Stored notifications

How a notification is written to the columns of its row and of its preview,
and how both are read again.  Columns are written and read by position.
-/

namespace BarDaemon.Notifications

open RelationalRows

/-! ## Previews -/

structure PreviewHints where
  desktopEntry : String
  imagePath : String
  deriving DecidableEq, Repr

/-- Summary, body, category and urgency of a notification that may repeat. -/
structure RepeatKey where
  summary : String
  body : String
  category : String
  urgency : Nat
  deriving DecidableEq, Repr

structure Preview where
  id : Nat
  createdUnixMs : Nat
  appKey : String
  appName : String
  appIcon : String
  identityIcon : String
  hints : PreviewHints
  summary : String
  body : String
  closedUnixMs : Option Nat
  snoozedUntilUnixMs : Option Nat
  historyId : Option Nat
  /-- Whether the query has been found. -/
  found : Bool
  groupKey : String
  repeatKey : Option RepeatKey
  deriving DecidableEq, Repr

def clip (value : String) (limit : Nat) : String :=
  String.ofList (value.toList.take limit)

def repeatKey (summary body category : String) (urgency : Nat)
    (actionFree : Bool) : Option RepeatKey :=
  if actionFree ∧ summary.length < 160 ∧ body.length < 240 ∧
      category.length ≤ 256 then
    some ⟨summary, body, category, urgency⟩
  else none

namespace Preview

/-- The preview of an active notification, with the icons that are known now. -/
def fromActive (lookups : Lookups) (icons : IconRegistry)
    (item : ActiveNotification) (query : String) : Preview where
  id := item.id
  createdUnixMs := item.createdUnixMs
  appKey := item.appKey
  appName := clip item.appName 128
  appIcon := clip item.appIcon 512
  identityIcon := clip
    (if item.identityIcon = "" then icons item.hints.desktopEntry item.appName
      else item.identityIcon) 1024
  hints := ⟨clip item.hints.desktopEntry 1024, clip item.hints.imagePath 512⟩
  summary := clip item.summary 160
  body := clip item.body 240
  closedUnixMs := none
  snoozedUntilUnixMs := item.snoozedUntilUnixMs
  historyId := none
  found := contains (searchText lookups item) query
  groupKey := clip item.groupKey 4097
  repeatKey := Notifications.repeatKey item.summary item.body
    item.hints.category item.hints.urgency item.actions.isEmpty

end Preview

theorem clip_of_length_le {value : String} {limit : Nat}
    (fits : value.length ≤ limit) : clip value limit = value := by
  rw [clip, List.take_of_length_le (by rwa [String.length_toList])]
  exact String.ofList_toList

/-- A notification that may repeat is not clipped. -/
theorem repeatKey_clip {summary body category : String} {urgency : Nat}
    {actionFree : Bool} {key : RepeatKey}
    (repeats : repeatKey summary body category urgency actionFree =
      some key) :
    key = ⟨clip summary 160, clip body 240, category, urgency⟩ := by
  unfold repeatKey at repeats
  split at repeats
  · rename_i short
    cases repeats
    rw [clip_of_length_le (Nat.le_of_lt short.2.1),
      clip_of_length_le (Nat.le_of_lt short.2.2.1)]
  · cases repeats

/-! ## Content -/

def contentColumns : List String :=
  ["session_id", "app_key", "app_name", "app_icon", "identity_icon",
    "summary", "body", "urgency", "category", "desktop_entry", "image_path",
    "sound_name", "sound_file", "resident", "suppress_sound",
    "image_data_present", "created_unix_ms", "updated_unix_ms",
    "expires_unix_ms", "group_key", "source_monitor",
    "snoozed_until_unix_ms", "dnd_bypass", "search_text"]

/-- The parameters of `save_content` after the primary key. -/
def contentCells (lookups : Lookups) (item : ActiveNotification) :
    Except String (List Cell) := do
  let created ← integer item.createdUnixMs
  let updated ← integer item.updatedUnixMs
  let expires ← optionalInteger item.expiresUnixMs
  let snoozed ← optionalInteger item.snoozedUntilUnixMs
  return [.ofNat item.id, .text item.appKey, .text item.appName,
    .text item.appIcon, .text item.identityIcon, .text item.summary,
    .text item.body, .ofNat item.hints.urgency, .text item.hints.category,
    .text item.hints.desktopEntry, .text item.hints.imagePath,
    .text item.hints.soundName, .text item.hints.soundFile,
    .ofBool item.hints.resident, .ofBool item.hints.suppressSound,
    .ofBool item.hints.imageDataPresent, .ofNat created, .ofNat updated,
    .ofOption .ofNat expires, .text item.groupKey, .text item.sourceMonitor,
    .ofOption .ofNat snoozed, .ofBool item.dndBypass,
    .text (searchText lookups item)]

/-- What `records` selects. -/
def recordColumns : List String :=
  ["history_id"] ++ contentColumns.dropLast ++
    ["closed_unix_ms", "close_reason"]

def recordCells (id : Nat) (row : Row) : List Cell :=
  recordColumns.map fun name =>
    if name = "history_id" then .ofNat id else row name

structure HistoryNotification where
  historyId : Nat
  notification : ActiveNotification
  closedUnixMs : Option Nat
  closeReason : Option Nat
  deriving DecidableEq, Repr

def unsigned : Cell → Except String Nat :=
  Cell.asNat u64Max

def boolean (cell : Cell) : Except String Bool := do
  match ← cell.asInteger with
  | 0 => return false
  | 1 => return true
  | _ => throw "invalid notification boolean"

def decodeRecord (cells : List Cell) : Except String HistoryNotification := do
  return {
    historyId := ← Cell.get (Cell.asNat i64Max) cells 0
    notification := {
      id := ← Cell.get (Cell.asNat u32Max) cells 1
      appName := ← Cell.get Cell.asText cells 3
      appIcon := ← Cell.get Cell.asText cells 4
      identityIcon := ← Cell.get Cell.asText cells 5
      summary := ← Cell.get Cell.asText cells 6
      body := ← Cell.get Cell.asText cells 7
      hints := {
        urgency := ← Cell.get (Cell.asNat 255) cells 8
        category := ← Cell.get Cell.asText cells 9
        desktopEntry := ← Cell.get Cell.asText cells 10
        imagePath := ← Cell.get Cell.asText cells 11
        soundName := ← Cell.get Cell.asText cells 12
        soundFile := ← Cell.get Cell.asText cells 13
        resident := ← Cell.get boolean cells 14
        suppressSound := ← Cell.get boolean cells 15
        imageDataPresent := ← Cell.get boolean cells 16
        transient := false }
      createdUnixMs := ← Cell.get unsigned cells 17
      updatedUnixMs := ← Cell.get unsigned cells 18
      expiresUnixMs := ← Cell.get (Cell.optional unsigned) cells 19
      groupKey := ← Cell.get Cell.asText cells 20
      sourceMonitor := ← Cell.get Cell.asText cells 21
      snoozedUntilUnixMs := ← Cell.get (Cell.optional unsigned) cells 22
      dndBypass := ← Cell.get boolean cells 23
      actions := []
      contextActions := []
      interactionBlocked := false
      toastVisible := false
      toastExpiresUnixMs := none }
    closedUnixMs := ← Cell.get (Cell.optional unsigned) cells 24
    closeReason := ← Cell.get (Cell.optional (Cell.asNat u32Max)) cells 25 }

theorem boolean_ofBool (value : Bool) :
    boolean (.ofBool value) = .ok value := by
  cases value <;> rfl

theorem contentColumns_nodup : contentColumns.Nodup := by
  decide +kernel

/-- What `save_content` stores has been converted. -/
theorem contentCells_eq_ok {lookups : Lookups} {item : ActiveNotification}
    {cells : List Cell} (encoded : contentCells lookups item = .ok cells) :
    item.createdUnixMs ≤ i64Max ∧ item.updatedUnixMs ≤ i64Max ∧
      (∀ limit ∈ item.expiresUnixMs, limit ≤ i64Max) ∧
      (∀ limit ∈ item.snoozedUntilUnixMs, limit ≤ i64Max) ∧
      cells = [.ofNat item.id, .text item.appKey, .text item.appName,
        .text item.appIcon, .text item.identityIcon, .text item.summary,
        .text item.body, .ofNat item.hints.urgency,
        .text item.hints.category, .text item.hints.desktopEntry,
        .text item.hints.imagePath, .text item.hints.soundName,
        .text item.hints.soundFile, .ofBool item.hints.resident,
        .ofBool item.hints.suppressSound,
        .ofBool item.hints.imageDataPresent, .ofNat item.createdUnixMs,
        .ofNat item.updatedUnixMs, .ofOption .ofNat item.expiresUnixMs,
        .text item.groupKey, .text item.sourceMonitor,
        .ofOption .ofNat item.snoozedUntilUnixMs, .ofBool item.dndBypass,
        .text (searchText lookups item)] := by
  have exact {value stored : Nat} (converted : integer value = .ok stored) :
      value ≤ i64Max ∧ stored = value := by
    unfold integer at converted
    split at converted
    · rename_i fits
      cases converted
      exact ⟨fits, rfl⟩
    · cases converted
  have exactOptional {value stored : Option Nat}
      (converted : optionalInteger value = .ok stored) :
      (∀ limit ∈ value, limit ≤ i64Max) ∧ stored = value := by
    cases value with
    | none =>
        cases converted
        exact ⟨nofun, rfl⟩
    | some limit =>
        obtain ⟨kept, read, rfl⟩ := FallibleSteps.map_eq_ok_iff.mp converted
        obtain ⟨fits, rfl⟩ := exact read
        refine ⟨?_, rfl⟩
        rintro other ⟨⟩
        exact fits
  simp only [contentCells, FallibleSteps.bind_eq_ok_iff] at encoded
  obtain ⟨created, first, updated, second, expires, third, snoozed, fourth,
    last⟩ := encoded
  obtain ⟨createdFits, rfl⟩ := exact first
  obtain ⟨updatedFits, rfl⟩ := exact second
  obtain ⟨expiresFits, rfl⟩ := exactOptional third
  obtain ⟨snoozedFits, rfl⟩ := exactOptional fourth
  cases last
  exact ⟨createdFits, updatedFits, expiresFits, snoozedFits, rfl⟩

theorem unsigned_ofNat {value : Nat} (fits : value ≤ i64Max) :
    unsigned (.ofNat value) = .ok value :=
  Cell.asNat_ofNat (Nat.le_trans fits (by decide))

theorem optional_unsigned {value : Option Nat}
    (fits : ∀ limit ∈ value, limit ≤ i64Max) :
    (Cell.ofOption .ofNat value).optional unsigned = .ok value :=
  Cell.optional_asNat fun limit member =>
    Nat.le_trans (fits limit member) (by decide)

/-- A record without its actions, which are in tables of their own. -/
def ActiveNotification.bare (item : ActiveNotification) :
    ActiveNotification :=
  { item.stored with actions := [], contextActions := [] }

/-- A notification as the database keeps it: with the icons that were known
when it was saved, and with when and why it has been closed. -/
structure KeptNotification where
  icons : IconRegistry
  item : ActiveNotification
  closed : Option (Nat × Nat)

namespace KeptNotification

def record (kept : KeptNotification) (id : Nat) : HistoryNotification where
  historyId := id
  notification := kept.item.stored
  closedUnixMs := kept.closed.map Prod.fst
  closeReason := kept.closed.map Prod.snd

/-- The preview of the notification when it was saved. -/
def preview (kept : KeptNotification) (lookups : Lookups) (id : Nat)
    (query : String) : Preview :=
  { Preview.fromActive lookups kept.icons kept.item query with
    historyId := some id
    closedUnixMs := kept.closed.map Prod.fst }

end KeptNotification

/-- A row that holds the content of a notification. -/
structure Holds (lookups : Lookups) (kept : KeptNotification) (row : Row) :
    Prop where
  cells : ∃ cells, contentCells lookups kept.item = .ok cells ∧
    row.select contentColumns = cells
  session : kept.item.id ≤ u32Max
  urgency : kept.item.hints.urgency ≤ 255
  closed : row "closed_unix_ms" = .ofOption .ofNat (kept.closed.map Prod.fst)
  reason : row "close_reason" = .ofOption .ofNat (kept.closed.map Prod.snd)
  closedFits : ∀ limit ∈ kept.closed.map Prod.fst, limit ≤ i64Max
  reasonFits : ∀ limit ∈ kept.closed.map Prod.snd, limit ≤ u32Max

/-- A row is decoded to what was encoded. -/
theorem Holds.decodeRecord {lookups : Lookups} {kept : KeptNotification}
    {row : Row} (holds : Holds lookups kept row) {id : Nat}
    (fits : id ≤ i64Max) :
    decodeRecord (recordCells id row) =
      .ok { kept.record id with notification := kept.item.bare } := by
  obtain ⟨cells, encoded, written⟩ := holds.cells
  obtain ⟨created, updated, expires, snoozed, rfl⟩ :=
    contentCells_eq_ok encoded
  have selected : recordCells id row = .ofNat id ::
      (row.select contentColumns).dropLast ++
        [row "closed_unix_ms", row "close_reason"] := by
    simp [recordCells, recordColumns, contentColumns, Row.select]
  rw [selected, written, holds.closed, holds.reason]
  simp [Notifications.decodeRecord, Cell.get, Cell.asText,
    Cell.asNat_ofNat fits, Cell.asNat_ofNat holds.session,
    Cell.asNat_ofNat holds.urgency, unsigned_ofNat created,
    unsigned_ofNat updated, optional_unsigned expires,
    optional_unsigned snoozed, optional_unsigned holds.closedFits,
    Cell.optional_asNat holds.reasonFits, boolean_ofBool,
    FallibleSteps.ok_bind, ActiveNotification.bare, ActiveNotification.stored,
    KeptNotification.record]

/-! ## Stored previews -/

def previewColumns : List String :=
  ["history_id", "app_name", "app_icon", "identity_icon", "desktop_entry",
    "image_path", "summary", "body", "group_key", "repeat_category",
    "repeat_urgency"]

/-- What is inserted into the preview table, in the order of its columns. -/
def previewCells (id : Nat) (preview : Preview) : List Cell :=
  [.ofNat id, .text preview.appName, .text preview.appIcon,
    .text preview.identityIcon, .text preview.hints.desktopEntry,
    .text preview.hints.imagePath, .text preview.summary, .text preview.body,
    .text preview.groupKey,
    .ofOption .text (preview.repeatKey.map RepeatKey.category),
    .ofOption .ofNat (preview.repeatKey.map RepeatKey.urgency)]

/-- `instr(n.search_text,?2)>0`, or one where there is no query. -/
def searchCell (row : Row) (query : String) : Cell :=
  if query = "" then .ofNat 1
  else match row "search_text" with
    | .text text => .ofBool (contains text query)
    | _ => .null

/-- What `read_candidates` selects of a row and of its preview, if any. -/
def candidateCells (id : Nat) (row : Row) (preview : Option Row)
    (query : String) : List Cell :=
  let other (name : String) : Cell := (preview.map (· name)).getD .null
  [.ofNat id, row "session_id", row "created_unix_ms", row "app_key",
    other "app_name", other "app_icon", other "identity_icon",
    other "desktop_entry", other "image_path", other "summary", other "body",
    row "closed_unix_ms", row "snoozed_until_unix_ms", other "group_key",
    other "repeat_category", other "repeat_urgency", searchCell row query,
    other "history_id"]

def previewMissing : String :=
  "notification preview missing"

def decodeCandidate (cells : List Cell) : Except String Preview := do
  let owner ← Cell.get (Cell.optional Cell.asInteger) cells 17
  FallibleSteps.ensure owner.isSome previewMissing
  let summary ← Cell.get Cell.asText cells 9
  let body ← Cell.get Cell.asText cells 10
  let category ← Cell.get (Cell.optional Cell.asText) cells 14
  let urgency ← Cell.get (Cell.optional (Cell.asNat 255)) cells 15
  FallibleSteps.ensure (category.isSome == urgency.isSome)
    "invalid repeat projection"
  return {
    historyId := some (← Cell.get (Cell.asNat i64Max) cells 0)
    id := ← Cell.get (Cell.asNat u32Max) cells 1
    createdUnixMs := ← Cell.get unsigned cells 2
    appKey := ← Cell.get Cell.asText cells 3
    appName := ← Cell.get Cell.asText cells 4
    appIcon := ← Cell.get Cell.asText cells 5
    identityIcon := ← Cell.get Cell.asText cells 6
    hints := ⟨← Cell.get Cell.asText cells 7, ← Cell.get Cell.asText cells 8⟩
    summary := summary
    body := body
    closedUnixMs := ← Cell.get (Cell.optional unsigned) cells 11
    snoozedUntilUnixMs := ← Cell.get (Cell.optional unsigned) cells 12
    groupKey := ← Cell.get Cell.asText cells 13
    repeatKey := match category, urgency with
      | some category, some urgency => some ⟨summary, body, category, urgency⟩
      | _, _ => none
    found := ← Cell.get boolean cells 16 }

theorem previewColumns_nodup : previewColumns.Nodup := by
  decide +kernel

theorem contains_empty (text : String) : contains text "" = true := by
  simp [contains]

theorem boolean_searchCell {row : Row} {text : String}
    (written : row "search_text" = .text text) (query : String) :
    boolean (searchCell row query) = .ok (contains text query) := by
  unfold searchCell
  split
  · rename_i empty
    rw [empty, contains_empty]
    rfl
  · rw [written]
    exact boolean_ofBool _

theorem optional_asText (value : Option String) :
    (Cell.ofOption .text value).optional Cell.asText = .ok value := by
  cases value <;> rfl

/-- The stored preview is that of the notification when it was saved, and the
query is answered as for the notification itself. -/
theorem Holds.decodeCandidate {lookups : Lookups} {kept : KeptNotification}
    {row preview : Row} (holds : Holds lookups kept row) {id : Nat}
    (fits : id ≤ i64Max)
    (shown : preview.select previewColumns =
      previewCells id (Preview.fromActive lookups kept.icons kept.item ""))
    (query : String) :
    decodeCandidate (candidateCells id row (some preview) query) =
      .ok (kept.preview lookups id query) := by
  obtain ⟨icons, item, closed⟩ := kept
  obtain ⟨cells, encoded, written⟩ := holds.cells
  obtain ⟨created, updated, expires, snoozed, rfl⟩ :=
    contentCells_eq_ok encoded
  simp only [Row.select, contentColumns, List.map_cons, List.map_nil,
    List.cons.injEq] at written
  simp only [Row.select, previewColumns, previewCells, List.map_cons,
    List.map_nil, List.cons.injEq] at shown
  have text : row "search_text" = .text (searchText lookups item) := by
    simp only [written]
  have found := boolean_searchCell text query
  have category := optional_asText ((Notifications.repeatKey item.summary
    item.body item.hints.category item.hints.urgency
    item.actions.isEmpty).map RepeatKey.category)
  have urgency : (Cell.ofOption .ofNat ((Notifications.repeatKey item.summary
      item.body item.hints.category item.hints.urgency
      item.actions.isEmpty).map RepeatKey.urgency)).optional
        (Cell.asNat 255) = .ok ((Notifications.repeatKey item.summary
          item.body item.hints.category item.hints.urgency
          item.actions.isEmpty).map RepeatKey.urgency) := by
    apply Cell.optional_asNat
    intro limit member
    obtain ⟨key, repeats, rfl⟩ := Option.map_eq_some_iff.mp member
    rw [repeatKey_clip repeats]
    exact holds.urgency
  cases repeats : Notifications.repeatKey item.summary item.body
    item.hints.category item.hints.urgency item.actions.isEmpty with
  | none =>
      rw [repeats] at category urgency
      simp only [Option.map_none] at category urgency
      simp [Notifications.decodeCandidate, candidateCells, Cell.get,
        Cell.asText, written, shown, Preview.fromActive, repeats, holds.closed,
        FallibleSteps.ok_bind, Cell.asNat_ofNat fits,
        Cell.asNat_ofNat holds.session, unsigned_ofNat created,
        optional_unsigned snoozed, optional_unsigned holds.closedFits, found,
        category, urgency, FallibleSteps.ensure, KeptNotification.preview]
  | some key =>
      rw [repeats] at category urgency
      simp only [Option.map_some] at category urgency
      simp [Notifications.decodeCandidate, candidateCells, Cell.get,
        Cell.asText, written, shown, Preview.fromActive, repeats, holds.closed,
        FallibleSteps.ok_bind, Cell.asNat_ofNat fits,
        Cell.asNat_ofNat holds.session, unsigned_ofNat created,
        optional_unsigned snoozed, optional_unsigned holds.closedFits, found,
        category, urgency, FallibleSteps.ensure, KeptNotification.preview]
      rw [repeatKey_clip repeats]

end BarDaemon.Notifications
