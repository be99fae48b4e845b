import BarDaemon.WorkspaceBackend

/-!
# Handoffs of launched windows

A launched window is watched, and the window of the same process that
replaces it inherits its destination.
-/

namespace BarDaemon.Workspaces

open Std

/-- Two seconds. -/
def grace : Nat :=
  2000000000

def maxHandoffs : Nat :=
  128

def maxReplacements : Nat :=
  8

def pinPrefix : String :=
  "shelllist-bar-workspace-"

/-! ### Compositor events -/

inductive CompositorEvent
  | disconnected
  | connectFailed
  | sessionGone
  | lagged
  | configReloaded
  | workspaceIdChanged
  | malformed
  | windowMoved (address : String) (id : Option Int) (special : Bool)
  | other
deriving DecidableEq, Repr

namespace HandoffEvents

/-- `handoff_event`. -/
def receive (events : HandoffEvents) : CompositorEvent → HandoffEvents
  | .windowMoved address id special =>
      let destination := id.filter fun id => 0 < id && !special
      if events.moved.length < 512 then
        { events with moved := events.moved.insert (address, destination) }
      else { events with lost := true }
  | .other => events
  | _ => { events with lost := true }

/-- Whether the window has been moved to another workspace. -/
def movedAway (events : HandoffEvents) (address : String) (id : Int) : Bool :=
  events.moved.any fun pair => pair.1 == address && pair.2 != some id

/-- Whether the events end the watch of a handoff. -/
def fences (events : HandoffEvents) (snapshot : Snapshot)
    (handoff : Handoff) : Bool :=
  handoff.watching && (events.lost || events.moved.any fun pair =>
    pair.2 != some handoff.window.workspaceId &&
      (pair.1 == handoff.window.address || snapshot.windows.any fun window =>
        window.address == pair.1 && window.pid == handoff.window.pid))

end HandoffEvents

namespace Journal

def setHandoff (journal : Journal) (key : String) (handoff : Handoff) :
    Journal :=
  { journal with handoffs := journal.handoffs.insert key handoff }

def changeHandoff (journal : Journal) (key : String)
    (update : Handoff → Handoff) : Journal :=
  { journal with handoffs := journal.handoffs.modify key update }

def dropHandoff (journal : Journal) (key : String) : Journal :=
  { journal with handoffs := journal.handoffs.erase key }

/-- The handoffs whose watch ends with the events. -/
def fenceHandoffs (journal : Journal) (events : HandoffEvents)
    (snapshot : Snapshot) : Journal :=
  { journal with
    handoffs := journal.handoffs.map fun _ handoff =>
      if events.fences snapshot handoff then { handoff with watching := false }
      else handoff }

end Journal

namespace Service

variable (world : Surroundings) [Wire]

/-- Called before any pin can be made. -/
def preparePins : Service Unit := do
  let state ← Attempt.read
  if state.loaded.any Loaded.pinsCleaned then pure ()
  else do
    execute world (.releasePrefix pinPrefix)
    Attempt.change fun state => state.withLoaded fun loaded =>
      { loaded with pinsCleaned := true }

def cancelHandoff (key : String) : Service Unit := do
  match (← journal).handoffs[key]? with
  | none => pure ()
  | some handoff => do
      edit fun journal => journal.changeHandoff key fun handoff =>
        { handoff with watching := false }
      save world
      execute world (.releaseWindow handoff.token)
      edit fun journal => journal.dropHandoff key
      save world

/-- `Handoff::prepare`: only fresh destinations of launches are watched. -/
def prepareHandoff (request : Placement) (snapshot : Snapshot) :
    Service (Option Handoff) := do
  let journal ← journal
  let start ← reading fun index =>
    world.processStart index request.window.pid
  let epoch ← epoch world
  let excluded := (snapshot.windows.filter fun window =>
    window.pid == request.window.pid &&
      window.address != request.window.address).map Window.address
  let fresh := journal.reservations[request.lease.requestId]?.any
    fun reservation => reservation.request.workspaceId.isNone &&
      reservation.request.purpose == .launch
  return if fresh && journal.handoffs.size < maxHandoffs &&
      excluded.length ≤ 512 then
    start.map fun start =>
      ⟨{ request.window with workspaceId := request.lease.workspaceId },
        pinPrefix ++ "handoff-" ++ epoch, start, excluded, 0, false, none⟩
  else none

/-! ### Reconciliation -/

/-- Take the events that have come since the last pass. -/
def takeEvents : Service HandoffEvents := fun state =>
  (.ok state.handoffEvents, { state with handoffEvents := .none })

/-- End the watch of all handoffs that the events affect, before any call can
fail. -/
def fence (events : HandoffEvents) (snapshot : Snapshot) : Service Unit := do
  let affected := (← journal).handoffs.values.any (events.fences snapshot)
  edit fun journal => journal.fenceHandoffs events snapshot
  if affected then save world else pure ()

/-- Whether a handoff has lost its ground. -/
def stale (events : HandoffEvents) (key : String) (handoff : Handoff) :
    Service Bool := do
  let journal ← journal
  let start ← reading fun index =>
    world.processStart index handoff.window.pid
  let id := handoff.window.workspaceId
  let current := journal.entries[id]?.any fun entry =>
    journal.reservations[key]?.any fun reservation =>
      entry.generation == reservation.lease.generation
  return !handoff.watching || events.lost ||
    events.movedAway handoff.window.address id ||
    start != some handoff.processStart || !current || journal.everClosed id

/-- The predecessor is still there: other windows of its process are not its
replacement. -/
def excludeOthers (snapshot : Snapshot) (key : String) (handoff : Handoff) :
    Service Unit :=
  let others := (snapshot.windows.filter fun window =>
    window.pid == handoff.window.pid &&
      window.address != handoff.window.address).map Window.address
  let excluded := others.foldl (fun excluded address =>
    if excluded.contains address then excluded else excluded ++ [address])
    handoff.excluded
  if 512 < excluded.length then cancelHandoff world key
  else edit fun journal => journal.setHandoff key
    { handoff with excluded := excluded, missingSince := none }

/-- The windows that may replace the predecessor. -/
def candidates (snapshot : Snapshot) (handoff : Handoff) : List Window :=
  snapshot.windows.filter fun window =>
    window.mapped && window.pid == handoff.window.pid &&
      (window.workspace.any fun id => 0 < id) &&
      !handoff.excluded.contains window.address

/-- Move the only candidate.  The watch ends durably before the dispatch. -/
def replaceWindow (key : String) (handoff : Handoff) (candidate : Window) :
    Service Bool := do
  let id := handoff.window.workspaceId
  let monitor := (((← journal).entries[id]?).map Entry.monitor).getD ""
  let expression := Expression.replacePinned handoff.token
    handoff.window.address candidate id monitor
  encode world expression
  edit fun journal => journal.changeHandoff key fun handoff =>
    { handoff with watching := false }
  save world
  match ← caught (dispatch world expression) with
  | .error _ => do
      cancelHandoff world key
      return false
  | .ok _ => do
      edit fun journal => journal.setHandoff key
        { handoff with
          window := { handoff.window with address := candidate.address }
          replacements := handoff.replacements + 1
          missingSince := none }
      save world
      return true

/-- The predecessor has gone. -/
def succeed (events : HandoffEvents) (snapshot : Snapshot) (key : String)
    (handoff : Handoff) : Service Bool := do
  let now ← instant world
  let since := handoff.missingSince.getD now
  let handoff := { handoff with missingSince := some since }
  edit fun journal => journal.changeHandoff key fun handoff =>
    { handoff with missingSince := some since }
  let later ← instant world
  if grace ≤ later - since || maxReplacements ≤ handoff.replacements then do
    cancelHandoff world key
    return false
  else
    match candidates snapshot handoff with
    | [] => do
        edit fun journal => journal.setHandoff key handoff
        return false
    | [candidate] =>
        if events.movedAway candidate.address handoff.window.workspaceId then do
          cancelHandoff world key
          return false
        else replaceWindow world key handoff candidate
    | _ => do
        cancelHandoff world key
        return false

/-- One handoff of a pass; whether a window was moved. -/
def reconcileHandoff (events : HandoffEvents) (snapshot : Snapshot)
    (key : String) : Service Bool := do
  let handoff ← required (← journal).handoffs[key]? "handoff disappeared"
  let ended ← stale world events key handoff
  if ended then do
    cancelHandoff world key
    return false
  else do
    match ← pinnedState world with
    | .present => do
        excludeOthers world snapshot key handoff
        return false
    | .gone => succeed world events snapshot key handoff
    | _ => do
        cancelHandoff world key
        return false

def reconcileAll (events : HandoffEvents) (snapshot : Snapshot) :
    List String → Service Bool
  | [] => pure false
  | key :: keys => do
      let moved ← reconcileHandoff world events snapshot key
      let rest ← reconcileAll events snapshot keys
      return moved || rest

/-- `reconcile_handoffs`: whether a placement changed the snapshot. -/
def reconcileHandoffs (snapshot : Snapshot) : Service Bool := do
  let keys := (← journal).handoffs.keys
  let events ← takeEvents
  fence world events snapshot
  reconcileAll world events snapshot keys

end Service

end BarDaemon.Workspaces
