import BarDaemon.NotificationDecks
import BarDaemon.NotificationStore

/-!
# The data of the notification engine

What one mutation changes under the data lock: removal, insertion with
eviction, expiry, and the summary that is published afterwards.
-/

namespace BarDaemon.Notifications

open Std

/-- The part of the shared workspace state that routes popups. -/
structure Workspaces where
  focusedMonitor : Option String := none
  monitors : List String := []

namespace Workspaces

/-- Monitor of notifications whose own monitor is gone, in compositor order. -/
def fallback (workspaces : Workspaces) : String :=
  ((workspaces.focusedMonitor.filter fun name =>
      workspaces.monitors.contains name).or
    workspaces.monitors.head?).getD ""

end Workspaces

structure EngineData where
  active : ExtTreeMap Nat ActiveNotification := ∅
  /-- Internal routes live exactly as long as their active notification. -/
  updateTargets : ExtTreeMap Nat String := ∅
  dnd : Bool := false
  dndUntilUnixMs : Option Nat := none
  /-- How often the revision has advanced; the source keeps this in a `u64`
  that wraps. -/
  revisions : Nat := 0
  appPolicies : ExtTreeMap String AppPolicy := ∅
  deleteTickets : ExtTreeMap String (Nat × List Position) := ∅
  decks : Decks := {}
  settings : Settings := {}
  retentionError : Option String := none
  nextPruneMs : Nat := 0
  sharing : Sharing := {}

structure ExpiryBatch where
  expiredIds : List Nat
  changed : List ActiveNotification
  dndExpired : Bool

structure NotificationState where
  available : Bool := false
  count : Nat := 0
  dnd : Bool := false
  dndUntilUnixMs : Option Nat := none
  inhibited : Bool := false
  text : String := ""
  tooltip : String := ""
  alt : String := ""
  className : String := ""
  backend : String := ""
  historyRevision : Nat := 0
  settings : Option Settings := none
  sharing : Option Sharing := none
  appPolicies : ExtTreeMap String AppPolicy := ∅
  error : Option String := none

structure NotificationActiveState where
  available : Bool
  revision : Nat
  notifications : List ActiveNotification
  toastDecks : List ToastDeck
  error : Option String

/-- Whichever comes first by creation time and identifier, the first argument
if neither does. -/
def older (first second : ActiveNotification) : ActiveNotification :=
  if second.createdUnixMs < first.createdUnixMs ∨
      second.createdUnixMs = first.createdUnixMs ∧ second.id < first.id then
    second
  else
    first

def oldest : List ActiveNotification → Option ActiveNotification
  | [] => none
  | item :: items => some (items.foldl older item)

namespace EngineData

/-- The revision that readers see. -/
def historyRevision (data : EngineData) : Nat :=
  wrappingAdd data.revisions 0

/-- `wrapping_add` at the revision. -/
def bumped (data : EngineData) (count : Nat) : EngineData :=
  { data with revisions := data.revisions + count }

def remove (data : EngineData) (id : Nat) : EngineData :=
  { data with
    active := data.active.erase id
    updateTargets := data.updateTargets.erase id }

@[simp]
theorem bumped_active (data : EngineData) (count : Nat) :
    (data.bumped count).active = data.active :=
  rfl

@[simp]
theorem bumped_appPolicies (data : EngineData) (count : Nat) :
    (data.bumped count).appPolicies = data.appPolicies :=
  rfl

@[simp]
theorem bumped_sharing (data : EngineData) (count : Nat) :
    (data.bumped count).sharing = data.sharing :=
  rfl

@[simp]
theorem remove_active (data : EngineData) (id : Nat) :
    (data.remove id).active = data.active.erase id :=
  rfl

@[simp]
theorem remove_updateTargets (data : EngineData) (id : Nat) :
    (data.remove id).updateTargets = data.updateTargets.erase id :=
  rfl

@[simp]
theorem remove_appPolicies (data : EngineData) (id : Nat) :
    (data.remove id).appPolicies = data.appPolicies :=
  rfl

@[simp]
theorem remove_sharing (data : EngineData) (id : Nat) :
    (data.remove id).sharing = data.sharing :=
  rfl

/-- Whether the popup of an item is suppressed at `now`. -/
def suppressed (data : EngineData) (item : ActiveNotification) (now : Nat) :
    Bool :=
  data.appPolicies[item.appKey]?.any (fun policy => policy.silenced now) ||
    data.sharing.suppressed now

/-- Hide the popup of a new notification that must not interrupt. -/
def hush (data : EngineData) (item : ActiveNotification) (now : Nat) :
    ActiveNotification :=
  { item with toastVisible := item.toastVisible && !data.suppressed item now }

/-- Store an item under its identifier, silently if it must not interrupt. -/
def place (data : EngineData) (id : Nat) (item : ActiveNotification)
    (sourceMonitor : String) (now : Nat) : EngineData × ActiveNotification :=
  let item := { item with sourceMonitor :=
    if item.sourceMonitor = "" then sourceMonitor else item.sourceMonitor }
  let item := data.hush item now
  let next := { data with active := data.active.insert id item }
  (next.bumped 1, item)

/-- Insert or replace content.  Returns what was stored and which notification
had to make room for it. -/
def upsert (lookups : Lookups) (icons : IconRegistry) (data : EngineData)
    (id : Nat) (incoming : IncomingNotification) (sourceMonitor : String)
    (now maximumActive : Nat) :
    EngineData × ActiveNotification × Option Nat :=
  match data.active[id]? with
  | some existing =>
      let placed := (data.remove id).place id
        (existing.replaceFrom lookups icons incoming now) sourceMonitor now
      (placed.1, placed.2, none)
  | none =>
      let data := data.remove id
      let evicted :=
        if maximumActive ≤ data.active.size then
          (oldest data.active.values).map ActiveNotification.id
        else
          none
      let data :=
        match evicted with
        | some oldest => data.remove oldest
        | none => data
      let placed := data.place id
        (ActiveNotification.fromIncoming lookups icons id incoming now)
        sourceMonitor now
      (placed.1, placed.2, evicted)

/-- Advance an item; a held one keeps its popup deadline, because reading
pauses popup lifetime only. -/
def advanceHeld (held : Bool) (item : ActiveNotification) (now : Nat) :
    ActiveNotification × Bool × Bool :=
  if held then
    let (advanced, woke, expired) :=
      { item with toastExpiresUnixMs := none }.advance now
    ({ advanced with toastExpiresUnixMs := item.toastExpiresUnixMs },
      woke, expired)
  else
    item.advance now

def expire (data : EngineData) (now : Nat) : EngineData × ExpiryBatch :=
  let (decks, active) := data.decks.expire now data.active
  let lapsed := data.appPolicies.values.filter fun policy =>
    policy.silent && (policy.expire now).2
  let appPolicies := data.appPolicies.map fun _ policy =>
    if policy.silent then (policy.expire now).1 else policy
  let advanced : ExtTreeMap Nat (ActiveNotification × Bool × Bool) :=
    active.map fun _ item =>
      advanceHeld (decks.reading item.sourceMonitor) item now
  let outcomes := advanced.values
  let expiredIds := (outcomes.filter fun (_, _, expired) =>
    expired).map fun (item, _, _) => item.id
  let changed := (outcomes.filter fun (_, woke, _) =>
    woke).map Prod.fst
  let (dnd, dndUntil, dndExpired) :=
    if data.dnd then expireFlag data.dnd data.dndUntilUnixMs now
    else (data.dnd, data.dndUntilUnixMs, false)
  -- Popup-only changes do not invalidate persisted history.
  let bumps := lapsed.length + if changed.isEmpty then 0 else 1
  let next : EngineData := { data with
    active := advanced.map fun _ outcome => outcome.1
    decks := decks
    sharing := data.sharing.expire now
    appPolicies := appPolicies
    dnd := dnd
    dndUntilUnixMs := dndUntil }
  (next.bumped bumps, ⟨expiredIds, changed, dndExpired⟩)

/-- Schedule the next retention pass after one with the given result. -/
def retentionRan (data : EngineData) (now : Nat)
    (result : Except String Nat) : EngineData :=
  let data := { data with nextPruneMs := saturatingAdd now 60000 }
  match result with
  | .ok removed =>
      { data with retentionError := none }.bumped
        (if 0 < removed then 1 else 0)
  | .error error =>
      { data with
        retentionError := some s!"Notification retention failed: {error}" }

/-! ## Presentation -/

/-- Hide a popup for good, not only while it is suppressed. -/
def acknowledge (item : ActiveNotification) : ActiveNotification :=
  { item with toastVisible := false, toastExpiresUnixMs := none }

def observeSharing (data : EngineData) (observation : Option Bool)
    (now : Nat) : EngineData :=
  let sharing := data.sharing.observe observation
  { data with
    sharing := sharing
    active :=
      if sharing.suppressed now then
        data.active.map fun _ item => acknowledge item
      else
        data.active }

/-- Clearing silence must not replay an old popup. -/
def applyAppPolicy (data : EngineData) (key : String) (policy : AppPolicy)
    (now : Nat) : EngineData :=
  let active :=
    if policy.silenced now then
      data.active.map fun _ item =>
        if item.appKey = key then acknowledge item else item
    else
      data.active
  { data with
    active := active
    appPolicies := data.appPolicies.insert key policy }

def setReading (data : EngineData) (monitor : String) (reading : Bool)
    (now : Nat) : EngineData :=
  let (decks, active) := data.decks.setReading monitor reading now data.active
  { data with decks := decks, active := active }

def setDnd (data : EngineData) (enabled : Bool) (limit : Option Nat) :
    EngineData :=
  { data with dnd := enabled, dndUntilUnixMs := limit }

/-- A snoozed notification shows its popup again when it wakes. -/
def snoozeItem (item : ActiveNotification) (limit now : Nat) :
    ActiveNotification :=
  { item with
    snoozedUntilUnixMs := some limit
    updatedUnixMs := now
    toastVisible := true
    toastExpiresUnixMs := some (saturatingAdd limit 5000)
    expiresUnixMs := item.expiresUnixMs.map fun _ => saturatingAdd limit 5000 }

/-! ## Deadlines -/

/-- The deadline that an item contributes to the timer. -/
def itemDeadline (data : EngineData) (item : ActiveNotification) :
    Option Nat :=
  if data.decks.reading item.sourceMonitor then
    item.snoozedUntilUnixMs.or item.expiresUnixMs
  else
    item.nextDeadline

/-- Every deadline that `next_expiry_delay` considers. -/
def deadlines (data : EngineData) : List Nat :=
  data.active.values.filterMap data.itemDeadline ++
    data.decks.deadline.toList ++ data.sharing.untilUnixMs.toList ++
    [data.nextPruneMs] ++ data.dndUntilUnixMs.toList ++
    (data.appPolicies.values.filter AppPolicy.silent).filterMap
      AppPolicy.untilUnixMs

def nextExpiryDelay (data : EngineData) (now : Nat) : Option Nat :=
  data.deadlines.min?.map (· - now)

/-! ## Publication -/

/-- Move notifications off monitors that are gone. -/
def route (data : EngineData) (workspaces : Workspaces) : EngineData :=
  { data with active := data.active.map fun _ item =>
    if workspaces.monitors.contains item.sourceMonitor then item
    else { item with sourceMonitor := workspaces.fallback } }

/-- The record that is shown for an item.  The source reads the clock for the
policy of its application and again for the sharing state. -/
def mask (data : EngineData) (item : ActiveNotification)
    (first second : Nat) : ActiveNotification :=
  let item :=
    match data.appPolicies[item.appKey]? with
    | none => item
    | some policy =>
        let item := { item with dndBypass := policy.bypassDnd }
        if policy.silenced first then
          { item with
            toastVisible := false
            hints := { item.hints with suppressSound := true } }
        else
          item
  if data.sharing.suppressed second then { item with toastVisible := false }
  else item

/-- Notifications that are not snoozed. -/
def awake (data : EngineData) : List ActiveNotification :=
  data.active.values.filter fun item => item.snoozedUntilUnixMs.isNone

/-- What is shown when the successive clock readings are `clock`. -/
def visible (data : EngineData) (clock : Nat → Nat) :
    List ActiveNotification :=
  data.awake.zipIdx.map fun (item, index) =>
    data.mask item (clock (2 * index)) (clock (2 * index + 1))

def summary (data : EngineData) (shown : List ActiveNotification) :
    NotificationState :=
  let count := min shown.length u32Max
  let noun := if count = 1 then "Notification" else "Notifications"
  let className := if data.dnd then "dnd-notification" else "notification"
  { available := true
    count := count
    dnd := data.dnd
    dndUntilUnixMs := data.dndUntilUnixMs
    inhibited := false
    text := toString count
    tooltip := s!"{count} {noun}"
    alt := className
    className := className
    backend := "native"
    historyRevision := data.historyRevision
    settings := some data.settings
    sharing := some data.sharing
    appPolicies := data.appPolicies
    error := data.retentionError }

end EngineData

end BarDaemon.Notifications
