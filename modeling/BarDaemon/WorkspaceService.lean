import BarDaemon.WorkspaceHandoffs

/-!
# The workspace service

Creating, placing, releasing and closing, the retention of empty workspaces,
and the commands of the bar.
-/

namespace BarDaemon.Workspaces

open Std

/-! ### Changes of the journal -/

/-- The cue of a reservation is given to a workspace without one. -/
def Entry.cued (entry : Entry) (request : Option Create) : Entry :=
  if !entry.cueAssigned || entry.cueEmpty then
    { entry with
      origin := (request.map Create.origin).getD entry.origin
      icon := (request.map Create.icon).getD entry.icon
      cueAssigned := true }
  else entry

/-- A launch into a workspace that there is already makes none. -/
def Create.allowed (request : Create) (enabled : Bool) : Bool :=
  enabled || (request.purpose == .launch && request.workspaceId.isSome)

namespace Journal

def setEntry (journal : Journal) (entry : Entry) : Journal :=
  { journal with entries := journal.entries.insert entry.id entry }

def changeEntry (journal : Journal) (id : Int) (update : Entry → Entry) :
    Journal :=
  { journal with entries := journal.entries.modify id update }

def dropEntry (journal : Journal) (id : Int) : Journal :=
  { journal with entries := journal.entries.erase id }

def setReservation (journal : Journal) (reservation : Reservation) : Journal :=
  { journal with
    reservations := journal.reservations.insert
      reservation.request.requestId reservation }

def changeReservation (journal : Journal) (key : String)
    (update : Reservation → Reservation) : Journal :=
  { journal with reservations := journal.reservations.modify key update }

def setClose (journal : Journal) (record : CloseRecord) : Journal :=
  { journal with
    closes := journal.closes.insert record.request.requestId record }

def changeClose (journal : Journal) (key : String)
    (update : CloseRecord → CloseRecord) : Journal :=
  { journal with closes := journal.closes.modify key update }

/-- The entry of a fresh workspace. -/
def freshEntry (request : Create) (id : Int) (generation : String) : Entry where
  id := id
  generation := generation
  monitor := request.context.monitor
  occupied := false
  landingPad := request.purpose == .landingPad
  keepUntilClosed := request.purpose == .landingPad
  origin := request.origin
  icon := request.icon
  cueAssigned := request.purpose == .launch
  cueEmpty := true

def freshReservation (request : Create) (lease : Lease) (writer : String) :
    Reservation where
  request := request
  lease := lease
  writer := writer
  released := request.purpose == .landingPad
  placed := false
  placement := none
  status := .reserved

/-- Remember a reservation and the workspace that it may have made. -/
def reserve (journal : Journal) (request : Create) (lease : Lease)
    (writer : String) : Journal :=
  (if request.workspaceId.isNone then
    journal.setEntry (freshEntry request lease.workspaceId lease.generation)
  else journal).setReservation (freshReservation request lease writer)

/-- A placement is about to be tried. -/
def beginPlacement (journal : Journal) (request : Placement) : Journal :=
  journal.changeReservation request.lease.requestId fun reservation =>
    { reservation with status := .placing, placement := some request }

/-- The workspace of a verified placement is occupied. -/
def occupy (journal : Journal) (lease : Lease) : Journal :=
  journal.changeEntry lease.workspaceId fun entry =>
    { entry.cued (journal.reservations[lease.requestId]?.map
        Reservation.request) with
      occupied := true
      cueEmpty := false }

/-- What a verified or uncertain placement leaves. -/
def settlePlacement (journal : Journal) (lease : Lease)
    (verified : Bool) : Journal :=
  let settled := journal.changeReservation lease.requestId fun reservation =>
    { reservation with
      placed := verified
      status := if verified then .placed else .unknown }
  if verified then
    (settled.changeHandoff lease.requestId fun handoff =>
      { handoff with watching := true }).occupy lease
  else settled

/-- Release a lease.  An unknown outcome stays unknown. -/
def release (journal : Journal) (key : String) : Journal :=
  journal.changeReservation key fun reservation =>
    { reservation with
      released := true
      status := if reservation.status = .unknown then .unknown else .released }

/-- An admitted close stops the watches of its workspace, fences its pending
reservations and gives up its retention. -/
def fenceWorkspace (journal : Journal) (id : Int) : Journal :=
  { journal with
    handoffs := journal.handoffs.map fun _ handoff =>
      if handoff.window.workspaceId = id then
        { handoff with watching := false }
      else handoff
    reservations := journal.reservations.map fun _ reservation =>
      if reservation.lease.workspaceId = id ∧ !reservation.released then
        { reservation with released := true, status := .released }
      else reservation
    entries := journal.entries.modify id fun entry =>
      { entry with landingPad := false, keepUntilClosed := false } }

def acceptClose (journal : Journal) (request : Close)
    (targets : List Target) : Journal :=
  (journal.setClose ⟨request, targets, .dispatching, none⟩).fenceWorkspace
    request.context.workspaceId

/-- Note the active workspace of a monitor in its history. -/
def visit (history : List Int) (active : Int) : List Int :=
  if history.head? = some active then history
  else (active :: history.filter (· ≠ active)).take 128

def noteActive (journal : Journal) (monitor : Monitor) : Journal :=
  match monitor.activeWorkspace.filter (0 < ·) with
  | none => journal
  | some active =>
      { journal with
        history := journal.history.insert monitor.name
          (visit (journal.history[monitor.name]?.getD []) active) }

/-- Whether noting the active workspace changes anything. -/
def notesActive (journal : Journal) (monitor : Monitor) : Bool :=
  (monitor.activeWorkspace.filter (0 < ·)).any fun active =>
    (journal.history[monitor.name]?.getD []).head? != some active

end Journal

def validateContext (snapshot : Snapshot) (context : Context)
    (active : Bool) : Except String Unit :=
  if !(context.session == snapshot.session && 0 < context.workspaceId) then
    .error "stale or unsupported workspace context"
  else
    match snapshot.monitors.find? fun monitor =>
        monitor.name == context.monitor with
    | none => .error "monitor disappeared"
    | some monitor =>
        if active && monitor.activeWorkspace != some context.workspaceId then
          .error "workspace context changed"
        else .ok ()

/-- Whether a snapshot shows the workspace on the monitor. -/
def Snapshot.shows (snapshot : Snapshot) (monitor : String) (id : Int) : Bool :=
  snapshot.monitors.any fun other =>
    other.name == monitor && other.activeWorkspace == some id

/-- Whether a snapshot has the mapped window in the workspace. -/
def Snapshot.holds (snapshot : Snapshot) (window : WindowIdentity)
    (id : Int) : Bool :=
  snapshot.windows.any fun other =>
    other.mapped && other.address == window.address &&
      other.pid == window.pid && other.workspace == some id

/-- What a method returns. -/
inductive Reply
  | context (version : Nat) (context : Context) (requestId : String)
  | reservation (record : Reservation)
  | close (record : CloseRecord)
  | lease (status : ReservationStatus) (lease : Lease)
  | focus (moved : Bool) (id : Int)
deriving DecidableEq, Repr

namespace Service

variable (world : Surroundings) [Wire]

/-! ### Loading -/

def readFile (session : String) : Service (Option Journal) := do
  perform world "read workspace journal"
  return (← Attempt.read).files session

/-- `Journal::load`. -/
def load (session : String) : Service Journal := do
  match ← readFile world session with
  | none => pure (.empty session)
  | some file => checked (file.restore session)

def verify (session : String) : Service Unit := do
  let loaded := (← Attempt.read).loaded
  ensure (loaded.any fun loaded => !loaded.poisoned)
    "workspace journal unavailable"
  ensure (loaded.any fun loaded => loaded.journal.session == session)
    "compositor session changed"

/-- The service of one session. -/
def prepare (session : String) : Service Unit := do
  if (← Attempt.read).loaded.isNone then do
    let journal ← load world session
    Attempt.change fun state => { state with
      loaded := some ⟨journal, false, false, ∅⟩ }
    save world
    verify session
  else verify session

/-- Every method begins with a snapshot and the loaded journal. -/
def opened : Service Snapshot := do
  let snapshot ← snapshot world
  prepare world snapshot.session
  return snapshot

/-! ### Creating -/

def allocating (live : List Int) : Service Int := do
  let journal ← journal
  let (id, next) ← checked (journal.allocate live)
  edit fun _ => next
  note (.allocated journal.session id live journal.entries.keys)
  return id

/-- Whether a reservation may name an existing workspace. -/
def available (journal : Journal) (snapshot : Snapshot) (monitor : String)
    (id : Int) : Bool :=
  id ≤ 5 || snapshot.liveIds.contains id ||
    journal.entries[id]?.any fun entry =>
      entry.keepUntilClosed && entry.monitor == monitor

def destination (snapshot : Snapshot) (request : Create) : Service Int := do
  match request.workspaceId with
  | some id => do
      ensure (1 ≤ id && id ≤ Wire.maxWorkspaceId) "invalid workspace ID"
      ensure (available (← journal) snapshot request.context.monitor id)
        "destination disappeared"
      return id
  | none => allocating snapshot.liveIds

/-- Remember a reservation durably. -/
def reserve (request : Create) (lease : Lease) : Service Unit := do
  let writer := (← Attempt.read).writer
  edit fun journal => journal.reserve request lease writer
  note (.reserved lease)
  save world

/-- Focus the workspace of a manual request. -/
def focusFresh (context : Context) (id : Int) : Service Unit := do
  execute world (.focusLocal context.monitor context.workspaceId id true)
  let observed ← snapshot world
  ensure (observed.shows context.monitor id) "workspace focus was not observed"

def recorded (key : String) : Service Reservation := do
  required (← journal).reservations[key]? "reservation disappeared"

/-- A manual request ends with the focus on its workspace. -/
def settleFocus (request : Create) (id : Int) : Service Unit := do
  let result ← caught (focusFresh world request.context id)
  edit fun journal => journal.changeReservation request.requestId
    fun reservation => { reservation with
      status := if result.isOk then .focused else .unknown }
  save world
  checked result

/-- A request with a fresh key. -/
def createFresh (snapshot : Snapshot) (request : Create) :
    Service Reservation := do
  checked (validateContext snapshot request.context
    (request.purpose == .landingPad))
  ensure (byteLength request.origin ≤ 256 && byteLength request.icon ≤ 256)
    "origin exceeds limit"
  checked ((← journal).admission request.requestId)
  let id ← destination snapshot request
  ensure (!(← journal).closing id) "destination is closing"
  let fresh ← epoch world
  let generation :=
    (((← journal).entries[id]?).map Entry.generation).getD fresh
  reserve world request
    ⟨snapshot.session, request.requestId, id, generation⟩
  if request.purpose = .landingPad then do
    settleFocus world request id
    recorded request.requestId
  else recorded request.requestId

def create (snapshot : Snapshot) (request : Create) :
    Service Reservation := do
  let enabled ← enabled world
  ensure (request.allowed enabled) "temporary workspace creation disabled"
  match (← journal).reservations[request.requestId]? with
  | some existing => do
      ensure (existing.request == request)
        "request key reused with different parameters"
      return existing
  | none => createFresh world snapshot request

/-! ### Placing -/

def checkLease (lease : Lease) (effect : Bool) : Service Reservation := do
  let journal ← journal
  ensure (lease.session == journal.session) "stale lease session"
  let record ← required journal.reservations[lease.requestId]? "unknown lease"
  ensure (record.lease == lease) "stale lease identity"
  let writer := (← Attempt.read).writer
  ensure (!effect || (!record.released && record.writer == writer))
    "placement writer fenced"
  return record

/-- A new launch supersedes older handoffs of its process. -/
def supersede (pid : Nat) : Service Unit := do
  let superseded := ((← journal).handoffs.toList.filter fun pair =>
    pair.2.window.pid == pid).map Prod.fst
  Attempt.forEach (cancelHandoff world) superseded

/-- Make room for the handoff of a placement. -/
def watchPlacement (snapshot : Snapshot) (request : Placement) :
    Service (Option Handoff) := do
  let handoff ← prepareHandoff world request snapshot
  match handoff with
  | none => return none
  | some handoff => do
      preparePins world
      edit fun journal => journal.setHandoff request.lease.requestId handoff
      return some handoff

/-- Record the placement durably, then dispatch the move once. -/
def dispatchMove (snapshot : Snapshot) (request : Placement)
    (context : Context) (handoff : Option Handoff) :
    Service (Except String Unit) := do
  edit fun journal => journal.beginPlacement request
  save world
  let id := request.lease.workspaceId
  let monitor := ((snapshot.workspaces.find? fun workspace =>
    workspace.id == some id).map Workspace.monitor).getD context.monitor
  let expression := Expression.moveLocal request.lease request.window monitor
    (handoff.map Handoff.token)
  encode world expression
  caught (dispatch world expression)

/-- Follow a placed window, if its context is still there. -/
def follow (current : Snapshot) (request : Placement) (context : Context) :
    Service Unit :=
  if request.follow && (validateContext current context true).isOk &&
      current.monitors.any fun monitor =>
        monitor.focused && monitor.name == context.monitor then
    execute world (.followWindow request.window request.lease.workspaceId
      context.monitor context.workspaceId)
  else pure ()

/-- An uncertain placement ends its handoff and is an error. -/
def settlePlacement (current : Snapshot) (request : Placement)
    (context : Context) (result : Except String Unit) : Service Reply := do
  let verified := result.isOk &&
    current.holds request.window request.lease.workspaceId
  edit fun journal => journal.settlePlacement request.lease verified
  save world
  if verified then do
    follow world current request context
    return .lease .placed request.lease
  else do
    cancelHandoff world request.lease.requestId
    raise "placement not observed; launch must not be replayed"

/-- A placement that has not been tried. -/
def placeFresh (snapshot : Snapshot) (request : Placement)
    (record : Reservation) : Service Reply := do
  ensure (record.status == .reserved)
    "placement outcome requires reconciliation; never replay"
  ensure (snapshot.holds request.window request.window.workspaceId)
    "stale placement candidate"
  let context := record.request.context
  ensure (snapshot.monitors.any fun monitor =>
    monitor.name == context.monitor) "destination monitor disappeared"
  ensure (!(← journal).closing request.lease.workspaceId)
    "workspace is closing"
  supersede world request.window.pid
  let handoff ← watchPlacement world snapshot request
  let result ← dispatchMove world snapshot request context handoff
  let current ← Service.snapshot world
  settlePlacement world current request context result

def place (snapshot : Snapshot) (request : Placement) : Service Reply := do
  let record ← checkLease request.lease true
  if record.placed then do
    ensure (record.placement == some request) "placement parameters changed"
    return .lease .placed request.lease
  else placeFresh world snapshot request record

/-! ### Closing -/

def closePrefix (epoch : String) : String :=
  pinPrefix ++ "close-" ++ epoch

/-- The windows of the workspace, and the tokens that they are pinned by. -/
def targets (snapshot : Snapshot) (id : Int) (pinPrefix : String) :
    List Target :=
  (snapshot.mappedIn id).map fun window =>
    ⟨⟨window.address, window.pid, id⟩, pinPrefix ++ "-" ++ window.address,
      false⟩

/-- Admit a close: nothing pending can be placed in the workspace any more. -/
def acceptClose (request : Close) (targets : List Target) : Service Unit := do
  edit fun journal => journal.acceptClose request targets
  note (.closeAdmitted request.context.session request)
  save world

/-- Close one pinned window. -/
def closeTarget (key : String) (target : Target) (index : Nat) :
    Service Unit := do
  edit fun journal => journal.changeClose key fun record => { record with
    targets := record.targets.modify index fun target =>
      { target with attempted := true } }
  save world
  encode world (.releaseWindow target.token)
  encode world (.closePinned target.token target.window)
  match ← caught (dispatch world (.closePinned target.token target.window)) with
  | .ok _ => pure ()
  | .error text => edit fun journal => journal.changeClose key fun record =>
      { record with error := some text }
  let _ ← caught (dispatch world (.releaseWindow target.token))

/-- The record of a close that is in progress for the workspace. -/
def joining (journal : Journal) (id : Int) : Option CloseRecord :=
  journal.closes.values.find? fun record =>
    record.request.context.workspaceId == id && record.status.inProgress

/-- A close with a fresh key of a workspace that nobody is closing. -/
def closeFresh (request : Close) : Service CloseRecord := do
  checked ((← journal).admission request.requestId)
  let pinned := closePrefix (← epoch world)
  preparePins world
  let id := request.context.workspaceId
  let snapshot ← pinnedSnapshot world request.context.monitor id pinned
  let targets := targets snapshot id pinned
  ensure (targets.length ≤ 512) "workspace window limit exceeded"
  acceptClose world request targets
  Attempt.forEach (fun target : Target × Nat =>
    closeTarget world request.requestId target.1 target.2) targets.zipIdx
  edit fun journal => journal.changeClose request.requestId fun record =>
    { record with status := .waiting }
  save world
  Attempt.change fun state => { state with
    observers := state.observers ++ [(request.requestId, 0)] }
  required (← journal).closes[request.requestId]? "close disappeared"

def close (snapshot : Snapshot) (request : Close) : Service CloseRecord := do
  match (← journal).closes[request.requestId]? with
  | some record => do
      ensure (record.request == request)
        "request key reused with different parameters"
      return record
  | none => do
      checked (validateContext snapshot request.context true)
      match joining (← journal) request.context.workspaceId with
      | some record => return record
      | none => closeFresh world request

/-! ### Retention -/

/-- Note all active workspaces; whether that has changed anything. -/
def noteActivity : List Monitor → Service Bool
  | [] => pure false
  | monitor :: monitors => do
      let changed := (← journal).notesActive monitor
      edit fun journal => journal.noteActive monitor
      let rest ← noteActivity monitors
      return changed || rest

def forgetEmpty (id : Int) : Service Unit :=
  Attempt.change fun state => state.withLoaded fun loaded =>
    { loaded with emptySince := loaded.emptySince.erase id }

/-- Since when a workspace has been empty, which is remembered. -/
def emptySince (id : Int) : Service Nat := do
  let now ← instant world
  let since := ((← Attempt.read).loaded.bind fun loaded =>
    loaded.emptySince[id]?).getD now
  Attempt.change fun state => state.withLoaded fun loaded =>
    { loaded with emptySince := loaded.emptySince.insert id since }
  return since

/-- Whether a workspace that has held a window may still be handed on. -/
def inGrace (id : Int) (occupied : Bool) : Service Bool := do
  if occupied && !(← journal).everClosed id then do
    let since ← emptySince world id
    let now ← instant world
    let watched := (← journal).handoffs.values.any fun handoff =>
      handoff.watching && handoff.window.workspaceId == id
    return now - since < grace || watched
  else return false

/-- A fresh workspace to fall back to. -/
def freshFallback (snapshot : Snapshot) (monitor : String) : Service Int := do
  let id ← allocating snapshot.liveIds
  let generation ← epoch world
  edit fun journal => journal.setEntry
    ⟨id, generation, monitor, false, true, false, "Workspace", "workspace",
      false, true⟩
  save world
  return id

def fallbackFor (snapshot : Snapshot) (monitor : String) (id : Int) :
    Service Int := do
  match (← journal).fallback snapshot monitor id with
  | some destination => return destination
  | none => freshFallback world snapshot monitor

/-- Leave a workspace that is about to be retired. -/
def leave (snapshot : Snapshot) (id : Int) : Service Unit :=
  match snapshot.monitors.find? fun monitor =>
      monitor.activeWorkspace == some id with
  | none => pure ()
  | some monitor => do
      let destination ← fallbackFor world snapshot monitor.name id
      execute world (.focusLocal monitor.name id destination false)
      let observed ← Service.snapshot world
      ensure (observed.shows monitor.name destination)
        "fallback focus was not observed"

/-- Remove an entry. -/
def removeEntry (snapshot : Snapshot) (id : Int) : Service Unit := do
  note (.retired id snapshot (← journal))
  edit fun journal => journal.dropEntry id
  forgetEmpty id

/-- An empty workspace that nobody has reserved or is closing. -/
def retireUnclaimed (snapshot : Snapshot) (id : Int) (entry : Entry)
    (adoptable : Bool) : Service Bool := do
  if entry.keepUntilClosed || (entry.landingPad && adoptable) then
    return false
  else do
    let waits ← inGrace world id entry.occupied
    if waits then return false
    else do
      leave world snapshot id
      removeEntry snapshot id
      return true

/-- An empty workspace. -/
def retireEmpty (snapshot : Snapshot) (id : Int) (entry : Entry) :
    Service Bool := do
  let journal ← journal
  let active := snapshot.monitors.any fun monitor =>
    monitor.activeWorkspace == some id
  -- Only a destination that has never held a window can be adopted.
  let adoptable := !entry.occupied && active
  if journal.closing id || journal.leased id then
    if !journal.closing id && !entry.landingPad && adoptable then do
      edit fun journal => journal.changeEntry id fun entry =>
        { entry with landingPad := true }
      return true
    else return false
  else retireUnclaimed world snapshot id entry adoptable

/-- One entry of a pass; whether it has been changed. -/
def retire (snapshot : Snapshot) (id : Int) : Service Bool := do
  let icons ← reading world.icons
  let entry ← required (← journal).entries[id]? "workspace entry disappeared"
  let window := snapshot.firstMappedIn id
  let workspace := snapshot.workspaces.find? fun workspace =>
    workspace.id == some id
  let observed := entry.observe icons workspace window
  edit fun journal => journal.changeEntry id fun entry =>
    entry.observe icons workspace window
  if window.isSome then do
    forgetEmpty id
    return entry.observes workspace window
  else do
    let changed ← retireEmpty world snapshot id observed
    return entry.observes workspace window || changed

def retireAll (snapshot : Snapshot) : List Int → Service Bool
  | [] => pure false
  | id :: ids => do
      let changed ← retire world snapshot id
      let rest ← retireAll snapshot ids
      return changed || rest

/-- A replacement changes occupancy: never retire against an old snapshot. -/
def refreshed (snapshot : Snapshot) : Service Snapshot := do
  let moved ← reconcileHandoffs world snapshot
  if moved then Service.snapshot world else return snapshot

def cleanup (snapshot : Snapshot) : Service Unit := do
  let snapshot ← refreshed world snapshot
  let visited ← noteActivity snapshot.monitors
  let retired ← retireAll world snapshot (← journal).entries.keys
  if visited || retired then save world else pure ()

/-- The pass that every change of the compositor triggers. -/
def project : Service Unit := do
  let snapshot ← opened world
  cleanup world snapshot

/-! ### Observing closes -/

/-- Whether a window of the close is still mapped. -/
def remains (record : CloseRecord) (snapshot : Snapshot) : Bool :=
  snapshot.windows.any fun window => window.mapped &&
    record.targets.any fun target =>
      target.window.address == window.address && target.window.pid == window.pid

def observedStatus (record : CloseRecord) (snapshot : Except String Snapshot) :
    CloseStatus :=
  match snapshot with
  | .error _ => .unknown
  | .ok snapshot => if remains record snapshot then .stillOpen else .closed

def stopObserving (key : String) (attempt : Nat) : Service Unit :=
  Attempt.change fun state => { state with
    observers := state.observers.erase (key, attempt) }

/-- The end of an observation is saved, and the workspace may be retired. -/
def settleClose (key : String) (record : CloseRecord)
    (snapshot : Except String Snapshot) : Service Unit := do
  edit fun journal => journal.changeClose key fun other =>
    { other with status := observedStatus record snapshot }
  match ← caught (save world), snapshot with
  | .ok _, .ok snapshot => do
      let _ ← caught (cleanup world snapshot)
  | _, _ => pure ()

/-- One look of `observe_close`, which comes again after 200 ms. -/
def observeClose (key : String) (attempt : Nat) : Service Unit := do
  let snapshot ← caught (Service.snapshot world)
  stopObserving key attempt
  match (← journal).closes[key]? with
  | none => pure ()
  | some record =>
      if observedStatus record snapshot != .stillOpen || attempt == 25 then
        settleClose world key record snapshot
      else Attempt.change fun state => { state with
        observers := state.observers ++ [(key, attempt + 1)] }

end Service

end BarDaemon.Workspaces
