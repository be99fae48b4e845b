import BarDaemon.OrderedMaps
import BarDaemon.UnicodeText
import Mathlib.Data.List.Dedup
import Mathlib.Data.List.Sort

/-!
# The workspace journal

Requests on the wire, snapshots of the compositor, and the journal of
workspaces, reservations, closes and handoffs that survives a restart.
-/

namespace BarDaemon.Workspaces

open Std

/-- What the wire protocol fixes. -/
class Wire where
  version : Nat
  maxWorkspaceId : Int
  validRequestId : String → Bool

/-! ### Requests -/

structure Context where
  session : String
  monitor : String
  workspaceId : Int
deriving DecidableEq, Repr

inductive Purpose
  | launch
  | landingPad
deriving DecidableEq, Repr

structure Create where
  requestId : String
  context : Context
  purpose : Purpose
  workspaceId : Option Int
  origin : String
  icon : String
deriving DecidableEq, Repr

structure Lease where
  session : String
  requestId : String
  workspaceId : Int
  generation : String
deriving DecidableEq, Repr

structure WindowIdentity where
  address : String
  pid : Nat
  workspaceId : Int
deriving DecidableEq, Repr

structure Placement where
  lease : Lease
  window : WindowIdentity
  follow : Bool
deriving DecidableEq, Repr

structure Close where
  requestId : String
  context : Context
deriving DecidableEq, Repr

structure Lookup where
  session : String
  requestId : String
deriving DecidableEq, Repr

/-! ### Snapshots -/

structure Monitor where
  name : String
  focused : Bool
  activeWorkspace : Option Int
deriving DecidableEq, Repr

/-- A workspace of the compositor.  Named ones have no number. -/
structure Workspace where
  id : Option Int
  monitor : String
deriving DecidableEq, Repr

structure Window where
  address : String
  pid : Nat
  mapped : Bool
  workspace : Option Int
  className : String
  initialClass : String
deriving DecidableEq, Repr

structure Snapshot where
  session : String
  monitors : List Monitor
  workspaces : List Workspace
  windows : List Window
deriving DecidableEq, Repr

namespace Snapshot

def liveIds (snapshot : Snapshot) : List Int :=
  snapshot.workspaces.filterMap Workspace.id

/-- The mapped windows of a workspace. -/
def mappedIn (snapshot : Snapshot) (id : Int) : List Window :=
  snapshot.windows.filter fun window =>
    window.mapped && window.workspace == some id

/-- The mapped window with the least address. -/
def firstMappedIn (snapshot : Snapshot) (id : Int) : Option Window :=
  (snapshot.mappedIn id).foldl (fun first window =>
    match first with
    | none => some window
    | some kept =>
        some (if window.address < kept.address then window else kept)) none

end Snapshot

/-! ### Entries -/

structure Entry where
  id : Int
  generation : String
  monitor : String
  occupied : Bool
  landingPad : Bool
  keepUntilClosed : Bool
  origin : String
  icon : String
  cueAssigned : Bool
  /-- The last observed occupancy, for the icon. -/
  cueEmpty : Bool
deriving DecidableEq, Repr

/-- `char::is_control`. -/
def isControl (char : Char) : Bool :=
  char.toNat ≤ 0x1F || (0x7F ≤ char.toNat && char.toNat ≤ 0x9F)

namespace Entry

/-- The origin that a window gives its workspace. -/
def originOf (window : Window) : String :=
  let origin :=
    if window.className.isEmpty then window.initialClass
    else window.className
  if origin.isEmpty || 256 < byteLength origin ||
      origin.toList.any isControl then
    "Workspace"
  else origin

/-- A workspace without a window, or with one. -/
def observeWindow (entry : Entry) (icons : String → String → Option String)
    (window : Option Window) : Entry :=
  match window with
  | none => { entry with cueEmpty := true }
  | some window =>
      if entry.cueEmpty || !entry.cueAssigned then
        { entry with
          cueEmpty := false
          occupied := true
          icon := (icons window.className window.initialClass).getD "workspace"
          origin := originOf window
          cueAssigned := true }
      else
        { entry with cueEmpty := false, occupied := true }

/-- `Entry::observe`: ownership and cues, without a change of the retention
policy. -/
def observe (entry : Entry) (icons : String → String → Option String)
    (workspace : Option Workspace) (window : Option Window) : Entry :=
  let moved :=
    match workspace with
    | some workspace => { entry with monitor := workspace.monitor }
    | none => entry
  moved.observeWindow icons window

/-- What `Entry::observe` returns: whether it has to be saved. -/
def observes (entry : Entry) (workspace : Option Workspace)
    (window : Option Window) : Bool :=
  (workspace.any fun workspace => entry.monitor != workspace.monitor) ||
    entry.cueEmpty != window.isNone ||
    (window.isSome &&
      (!entry.occupied || entry.cueEmpty || !entry.cueAssigned))

end Entry

/-! ### Records -/

inductive ReservationStatus
  | reserved
  | focused
  | placing
  | placed
  | released
  | unknown
deriving DecidableEq, Repr

structure Reservation where
  request : Create
  lease : Lease
  writer : String
  released : Bool
  placed : Bool
  placement : Option Placement
  status : ReservationStatus
deriving DecidableEq, Repr

structure Target where
  window : WindowIdentity
  token : String
  attempted : Bool
deriving DecidableEq, Repr

inductive CloseStatus
  | dispatching
  | waiting
  | closed
  | stillOpen
  | unknown
deriving DecidableEq, Repr

def CloseStatus.inProgress (status : CloseStatus) : Bool :=
  status == .dispatching || status == .waiting

structure CloseRecord where
  request : Close
  targets : List Target
  status : CloseStatus
  error : Option String
deriving DecidableEq, Repr

/-- A watch for the window that replaces a launched one. -/
structure Handoff where
  window : WindowIdentity
  token : String
  processStart : Nat
  excluded : List String
  replacements : Nat
  watching : Bool
  /-- Not written to the file. -/
  missingSince : Option Nat
deriving DecidableEq, Repr

structure Journal where
  version : Nat
  session : String
  high : Int
  entries : ExtTreeMap Int Entry
  reservations : ExtTreeMap String Reservation
  closes : ExtTreeMap String CloseRecord
  history : ExtTreeMap String (List Int)
  handoffs : ExtTreeMap String Handoff

def maxRecords : Nat :=
  4096

namespace Journal

variable [Wire]

def empty (session : String) : Journal where
  version := Wire.version
  session := session
  high := 5
  entries := ∅
  reservations := ∅
  closes := ∅
  history := ∅
  handoffs := ∅

/-- What the file keeps of a journal. -/
def serialized (journal : Journal) : Journal :=
  { journal with
    handoffs := journal.handoffs.map fun _ handoff =>
      { handoff with missingSince := none } }

def admission (journal : Journal) (key : String) : Except String Unit :=
  if !Wire.validRequestId key then
    .error "invalid request key"
  else if maxRecords ≤ journal.reservations.size + journal.closes.size then
    .error "workspace session request limit reached"
  else if journal.reservations.contains key || journal.closes.contains key then
    .error "request key already used"
  else .ok ()

/-- The number above all that are live or have been used. -/
def highest (journal : Journal) (live : List Int) : Int :=
  max (max (live.max?.getD 5) journal.high) 5

def allocate (journal : Journal) (live : List Int) :
    Except String (Int × Journal) :=
  if journal.highest live < Wire.maxWorkspaceId then
    .ok (journal.highest live + 1,
      { journal with high := journal.highest live + 1 })
  else .error "workspace ID space exhausted"

/-- Whether a close of the workspace is in progress. -/
def closing (journal : Journal) (id : Int) : Bool :=
  journal.closes.values.any fun record =>
    record.request.context.workspaceId == id && record.status.inProgress

/-- Whether a close of the workspace has ever been admitted. -/
def everClosed (journal : Journal) (id : Int) : Bool :=
  journal.closes.values.any fun record =>
    record.request.context.workspaceId == id

/-- Whether an unreleased reservation is for the workspace. -/
def leased (journal : Journal) (id : Int) : Bool :=
  journal.reservations.values.any fun reservation =>
    reservation.lease.workspaceId == id && !reservation.released

/-! #### Loading -/

/-- A manual workspace of an older journal, which is kept until it is
closed. -/
def manual (journal : Journal) (entry : Entry) : Bool :=
  !journal.everClosed entry.id &&
    journal.reservations.values.any fun reservation =>
      reservation.request.purpose == .landingPad &&
        reservation.request.workspaceId.isNone &&
        reservation.lease.workspaceId == entry.id &&
        reservation.lease.generation == entry.generation

def keepManual (journal : Journal) : Journal :=
  { journal with
    entries := journal.entries.map fun _ entry =>
      if journal.manual entry then { entry with keepUntilClosed := true }
      else entry }

/-- A restarted owner fences every earlier writer. -/
def fence (reservation : Reservation) : Reservation :=
  if reservation.released then reservation
  else { reservation with released := true, status := .unknown }

def abandon (record : CloseRecord) : CloseRecord :=
  if record.status.inProgress then { record with status := .unknown }
  else record

/-- No old effect is resumed. -/
def fenced (journal : Journal) : Journal :=
  { journal with
    reservations := journal.reservations.map fun _ => fence
    closes := journal.closes.map fun _ => abandon
    handoffs := journal.handoffs.map fun _ handoff =>
      { handoff with watching := false } }

def checkReservation (session key : String) (reservation : Reservation) :
    Bool :=
  Wire.validRequestId key && key == reservation.request.requestId &&
    key == reservation.lease.requestId &&
    reservation.lease.session == session &&
    reservation.request.context.session == session &&
    1 ≤ reservation.lease.workspaceId &&
    reservation.lease.workspaceId ≤ Wire.maxWorkspaceId

def checkHandoff (journal : Journal) (key : String) (handoff : Handoff) :
    Except String Unit :=
  match journal.reservations[key]? with
  | none => .error "orphan launch handoff"
  | some reservation =>
      if handoff.window.workspaceId == reservation.lease.workspaceId &&
          handoff.excluded.length ≤ 512 &&
          Wire.validRequestId handoff.token then
        .ok ()
      else .error "invalid launch handoff"

/-- The checks of a file, and what a restart makes of it. -/
def restore (file : Journal) (session : String) : Except String Journal :=
  if !(file.version == Wire.version && file.session == session) then
    .error "workspace journal session/version mismatch"
  else if !(5 ≤ file.high && file.high ≤ Wire.maxWorkspaceId) then
    .error "invalid workspace high watermark"
  else if maxRecords < file.reservations.size + file.closes.size then
    .error "workspace journal exceeds admission limit"
  else if !file.entries.toList.all fun pair =>
      5 < pair.1 && pair.1 ≤ file.high && pair.2.id == pair.1 then
    .error "invalid workspace entries"
  else if !file.reservations.toList.all fun pair =>
      checkReservation session pair.1 pair.2 then
    .error "invalid reservation identity"
  else if 128 < file.handoffs.size then
    .error "too many launch handoffs"
  else do
    file.handoffs.toList.forM fun pair => file.checkHandoff pair.1 pair.2
    return file.keepManual.fenced

/-! #### Presentation -/

/-- The numbers of the bar, with the workspaces that are live on a monitor and
the retained ones. -/
def workspaceIds (journal : Journal) (monitor : String)
    (workspaces : List (Int × String)) : List Int :=
  let live : ExtTreeMap Int String := ExtTreeMap.ofList workspaces
  let extra := (live.toList.filter fun pair =>
    5 < pair.1 && pair.2 == monitor).map Prod.fst
  let retained := (journal.entries.values.filter fun entry =>
    (live[entry.id]?).getD entry.monitor == monitor).map Entry.id
  (([1, 2, 3, 4, 5] ++ extra ++ retained).insertionSort
    (· ≤ ·)).dedup

/-- Whether a monitor may fall back to a workspace. -/
def usableFallback (journal : Journal) (snapshot : Snapshot)
    (monitor : String) (retiring id : Int) : Bool :=
  id != retiring && 0 < id && !journal.closing id &&
    snapshot.workspaces.any fun workspace =>
      workspace.id == some id && workspace.monitor == monitor

def fallback (journal : Journal) (snapshot : Snapshot) (monitor : String)
    (retiring : Int) : Option Int :=
  let usable := journal.usableFallback snapshot monitor retiring
  ((journal.history[monitor]?.getD []).find? usable)
    <|> snapshot.liveIds.find? usable
    <|> [1, 2, 3, 4, 5].find? fun id =>
      !journal.closing id && !snapshot.liveIds.contains id

end Journal

end BarDaemon.Workspaces
