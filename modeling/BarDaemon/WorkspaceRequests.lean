import BarDaemon.TransitionRuns
import BarDaemon.WorkspaceService

/-!
# Requests and runs of the workspace service

The methods of the service, the commands of the bar, and a run of requests,
compositor events, observations and restarts.  Requests are serialized: the
journal is locked for the whole of a method.
-/

namespace BarDaemon.Workspaces

open Std TransitionRuns

/-! ### Commands -/

inductive CommandKind
  | create
  | close
  | next
  | previous
  | focus
  | move
deriving DecidableEq, Repr

structure Command where
  command : CommandKind
  workspaceId : Option Int
  workspacePosition : Option Int
  monitor : Option String
  requestId : Option String
deriving DecidableEq, Repr

namespace Command

/-- Focus and move name their destination once, the others never. -/
def wellFormed (command : Command) : Bool :=
  if command.command == .focus || command.command == .move then
    command.workspaceId.isSome != command.workspacePosition.isSome
  else command.workspaceId.isNone && command.workspacePosition.isNone

/-- Whether a command is the one that a record was made for. -/
def repeats (command : Command) (kind : CommandKind) (context : Context) :
    Bool :=
  command.command == kind && command.monitor.all (· == context.monitor)

end Command

/-- The monitor that is named, or the focused one. -/
def Snapshot.invoking (snapshot : Snapshot) (name : Option String) :
    Option Monitor :=
  snapshot.monitors.find? fun monitor =>
    match name with
    | none => monitor.focused
    | some name => monitor.name == name

/-- Where a command is given. -/
def Snapshot.context (snapshot : Snapshot) (name : Option String) :
    Except String Context :=
  match snapshot.invoking name with
  | none => .error "invoking monitor unavailable"
  | some monitor =>
      match monitor.activeWorkspace.filter (0 < ·) with
      | none => .error "ordinary workspace required"
      | some id => .ok ⟨snapshot.session, monitor.name, id⟩

/-- The numbered workspaces with their monitors. -/
def Snapshot.numbered (snapshot : Snapshot) : List (Int × String) :=
  snapshot.workspaces.filterMap fun workspace =>
    workspace.id.map fun id => (id, workspace.monitor)

/-- Whether the workspace is on another monitor. -/
def Snapshot.elsewhere (snapshot : Snapshot) (monitor : String) (id : Int) :
    Bool :=
  snapshot.workspaces.any fun workspace =>
    workspace.id == some id && workspace.monitor != monitor

/-- The number before or after the present one. -/
def neighbour (ids : List Int) (present : Int) (forward : Bool) : Option Int :=
  let position := (ids.idxOf? present).getD 0
  ids[if forward then (position + 1) % ids.length
    else (position + ids.length - 1) % ids.length]?

/-- The index of a bar position, which counts from one. -/
def barIndex (position : Int) : Option Nat :=
  if 0 < position then some (position.toNat - 1) else none

namespace Service

variable (world : Surroundings) [Wire]

/-- The record of a command that is given again. -/
def replayed (command : Command) : Service (Option Reply) := do
  match command.requestId with
  | none => return none
  | some key =>
      match (← journal).reservations[key]? with
      | some record => do
          ensure (command.repeats .create record.request.context &&
              record.request.purpose == .landingPad)
            "request key reused with different command"
          return some (.reservation record)
      | none =>
          match (← journal).closes[key]? with
          | some record => do
              ensure (command.repeats .close record.request.context)
                "request key reused with different command"
              return some (.close record)
          | none => return none

/-- The destination of a focus or a move. -/
def selected (snapshot : Snapshot) (context : Context) (command : Command) :
    Service Int :=
  match command.workspacePosition with
  | some position => do
      let index ← required (barIndex position) "invalid workspace bar position"
      required ((← journal).workspaceIds context.monitor
          snapshot.numbered)[index]?
        "workspace bar position does not exist on this monitor"
  -- A well-formed command without a position has a number.
  | none => pure (command.workspaceId.getD 0)

/-- Preserve the empty transition of a workspace that a window moves to. -/
def noteMove (snapshot : Snapshot) (id : Int) (move : Bool) :
    Service Unit := do
  if move && (snapshot.mappedIn id).isEmpty &&
      (← journal).entries.contains id then do
    edit fun journal => journal.changeEntry id fun entry =>
      { entry with cueEmpty := true }
    save world
  else pure ()

def select (snapshot : Snapshot) (context : Context) (command : Command)
    (move : Bool) : Service Reply := do
  let id ← selected snapshot context command
  ensure (1 ≤ id && id ≤ Wire.maxWorkspaceId) "invalid workspace ID"
  let journal ← journal
  ensure (!journal.closing id) "workspace is closing"
  ensure (!snapshot.elsewhere context.monitor id)
    "workspace belongs to another monitor"
  let retained := journal.entries[id]?.any fun entry =>
    entry.keepUntilClosed && entry.monitor == context.monitor
  let materialize := id ≤ 5 || retained
  ensure (materialize || snapshot.numbered.contains (id, context.monitor))
    "workspace does not exist on this monitor"
  execute world (.selectLocal context.monitor context.workspaceId id move
    materialize)
  noteMove world snapshot id move
  return .focus move id

def cycle (snapshot : Snapshot) (context : Context) (forward : Bool) :
    Service Reply := do
  let ids := ((← journal).workspaceIds context.monitor
    snapshot.numbered).filter fun id => !snapshot.elsewhere context.monitor id
  let id ← required (neighbour ids context.workspaceId forward)
    "no local workspace"
  execute world (.focusLocal context.monitor context.workspaceId id true)
  return .focus false id

/-- The key of a command, or a fresh one. -/
def commandKey (command : Command) : Service String := do
  match command.requestId with
  | some key => return key
  | none => epoch world

def commandFresh (snapshot : Snapshot) (command : Command) :
    Service Reply := do
  let context ← checked (snapshot.context command.monitor)
  let key ← commandKey world command
  match command.command with
  | .focus => select world snapshot context command false
  | .move => select world snapshot context command true
  | .create => do
      let record ← create world snapshot
        ⟨key, context, .landingPad, none, "Workspace", "workspace"⟩
      return .reservation record
  | .close => do
      let record ← close world snapshot ⟨key, context⟩
      return .close record
  | .next => cycle world snapshot context true
  | .previous => cycle world snapshot context false

def command (snapshot : Snapshot) (command : Command) : Service Reply := do
  ensure command.wellFormed ("only focus and move require exactly one " ++
    "workspace ID or bar position")
  match ← replayed command with
  | some reply => return reply
  | none => commandFresh world snapshot command

/-! ### Methods -/

def giveUp (lease : Lease) : Service Unit := do
  edit fun journal => journal.release lease.requestId
  note (.released lease)

def release (snapshot : Snapshot) (lease : Lease) : Service Reply := do
  let _ ← checkLease lease false
  giveUp lease
  save world
  cleanup world snapshot
  return .lease .released lease

def get (snapshot : Snapshot) (query : Lookup) : Service Reply := do
  ensure (query.session == snapshot.session) "stale session"
  match (← journal).reservations[query.requestId]? with
  | some record => return .reservation record
  | none =>
      match (← journal).closes[query.requestId]? with
      | some record => return .close record
      | none => raise "workspace operation not found"

def context (snapshot : Snapshot) (monitor : Option String) :
    Service Reply := do
  let context ← checked (snapshot.context monitor)
  let fresh ← epoch world
  return .context Wire.version context fresh

end Service

inductive Method
  | command (command : Command)
  | context (monitor : Option String)
  | create (request : Create)
  | place (request : Placement)
  | release (lease : Lease)
  | get (query : Lookup)
  | close (request : Close)
  /-- An unknown method, or parameters that cannot be read. -/
  | unsupported
deriving DecidableEq, Repr

namespace Service

variable (world : Surroundings) [Wire]

def answer (snapshot : Snapshot) : Method → Service Reply
  | .command request => command world snapshot request
  | .context monitor => context world snapshot monitor
  | .create request => do
      let record ← create world snapshot request
      return .reservation record
  | .place request => place world snapshot request
  | .release lease => release world snapshot lease
  | .get query => get snapshot query
  | .close request => do
      let record ← close world snapshot request
      return .close record
  | .unsupported => raise "unsupported workspace method"

/-- `Service::call`. -/
def call (method : Method) : Service Reply := do
  let snapshot ← opened world
  answer world snapshot method

end Service

/-! ### Runs -/

inductive Request
  | call (method : Method)
  | project
  | observe (key : String) (attempt : Nat)
  | event (event : CompositorEvent)
  | restart
deriving DecidableEq, Repr

namespace State

/-- A daemon that has just been started for the first time. -/
def initial (writer : String) : State where
  calls := 0
  files := fun _ => none
  loaded := none
  writer := writer
  handoffEvents := .none
  observers := []
  trace := []

/-- A new daemon knows the files only. -/
def restarted (world : Surroundings) (state : State) : State :=
  { (state.called.traced .started) with
    loaded := none
    writer := world.epoch state.calls
    handoffEvents := .none
    observers := [] }

def received (state : State) (event : CompositorEvent) : State :=
  { state with handoffEvents := state.handoffEvents.receive event }

/-- A daemon that has ended is started again. -/
def settled {Value : Type} (world : Surroundings) :
    Except Failure Value × State → State
  | (.error .crashed, state) => state.restarted world
  | (_, state) => state

variable (world : Surroundings) [Wire]

def step (state : State) : Request → State
  | .call method => settled world (Service.call world method state)
  | .project => settled world (Service.project world state)
  | .observe key attempt =>
      if (key, attempt) ∈ state.observers then
        settled world (Service.observeClose world key attempt state)
      else state
  | .event event => state.received event
  | .restart => state.restarted world

/-- The state after a run of requests, with no files at its start. -/
def after (writer : String) (requests : List Request) : State :=
  run (step world) (initial writer) requests

end State

end BarDaemon.Workspaces
