import BarDaemon.SleepPolicies
import BarDaemon.Traces
import BarDaemon.TransitionRuns
import Mathlib.Algebra.Group.Nat.Defs

/-!
# The lid controller

The controller owns the lid switch while the policy asks for it.  It observes
the lid, starts one action for each close, and retries an action that has
failed before anything was sent.
-/

namespace BarDaemon.SleepPolicies

open TransitionRuns

/-- What the service publishes of the lid. -/
structure LidState where
  available : Bool
  managed : Bool
  error : Option String
deriving DecidableEq, Repr

/-! ### Edges -/

structure LidEdge where
  previous : Option Bool
  eligible : Bool
deriving DecidableEq, Repr

namespace LidEdge

def default : LidEdge :=
  ⟨none, false⟩

/-- Whether the lid has just been closed, and what is remembered. -/
def observe (edge : LidEdge) (closed eligible : Bool) : Bool × LidEdge :=
  (eligible && edge.eligible && edge.previous == some false && closed,
    ⟨some closed, eligible⟩)

end LidEdge

/-! ### Retries -/

/-- How an action fails.  It may carry the proof that it is to be retried, or
that it is not. -/
structure ActionFailure where
  text : String
  /-- `RetryCancelled` -/
  cancelled : Bool
  /-- `RetryablePreflight` -/
  preflight : Option Nat
deriving DecidableEq, Repr

structure LidRetry where
  policy : Option SleepPolicy
  deadline : Option Nat
  operation : Nat
  attempts : Nat
deriving DecidableEq, Repr

namespace LidRetry

/-- Instants are counted in nanoseconds. -/
def second : Nat :=
  1000000000

def cleared : LidRetry :=
  ⟨none, none, 0, 0⟩

def start (policy : SleepPolicy) : LidRetry :=
  { cleared with policy := some policy }

def reconcile (retry : LidRetry) (policy : SleepPolicy) (eligible : Bool) :
    LidRetry :=
  if !eligible || retry.policy.any (· != policy) then cleared else retry

/-- The pause before the next attempt, in seconds. -/
def pause (attempts : Nat) : Nat :=
  min (2 * 2 ^ min attempts 4) 30

/-- Whether a retry is pending after the failure. -/
def failed (retry : LidRetry) (now : Nat) (failure : ActionFailure) :
    Bool × LidRetry :=
  if failure.cancelled then (false, cleared)
  else match failure.preflight with
    | none => (false, cleared)
    | some operation =>
        if retry.policy.isNone then (false, retry)
        else
          let attempts := min (retry.attempts + 1) (2 ^ 32 - 1)
          (true, { retry with
            operation := operation
            attempts := attempts
            deadline := some (now + pause attempts * second) })

/-- Whether the retry is to be made now. -/
def due (retry : LidRetry) (now operation : Nat) : Bool × LidRetry :=
  let current :=
    if retry.deadline.isSome && operation != retry.operation then cleared
    else retry
  if current.deadline.any (· ≤ now) then
    (true, { current with deadline := none })
  else (false, current)

end LidRetry

/-! ### The controller -/

/-- What a lid action is started with. -/
structure LidRequest where
  policy : SleepPolicy
  operation : Nat
deriving DecidableEq, Repr

/-- What the calls of one observation return. -/
structure LidReading where
  policy : Except String SleepPolicy
  /-- Whether the session is active, local and graphical. -/
  active : Except String Bool
  /-- The reply to taking ownership of the switch. -/
  inhibit : Except String Unit
  closed : Except String Bool
  docked : Except String Bool
  /-- The number of the last sleep operation. -/
  operation : Nat
  now : Nat

/-- What one observation of the lid has established. -/
structure LidView where
  policy : SleepPolicy
  managed : Bool
  closed : Bool
  eligible : Bool

/-- How an action ends: it returns, it fails, or its worker ends. -/
inductive LidCompletion
  | finished
  | failed (failure : ActionFailure)
  | ended (text : String)
deriving DecidableEq, Repr

structure LidController where
  /-- The actions that run. -/
  actions : List LidRequest
  inhibitor : Bool
  edge : LidEdge
  retry : LidRetry
  status : LidState
deriving DecidableEq, Repr

namespace LidController

/-- The controller of a new connection. -/
def connected : LidController where
  actions := []
  inhibitor := false
  edge := .default
  retry := .cleared
  status := ⟨true, false, none⟩

/-- The readings of an observation.  The switch is owned before the lid is
read. -/
def look (controller : LidController) (reading : LidReading) :
    Except String LidView := do
  let policy ← SleepPolicy.load reading.policy
  let active ← reading.active
  let managed := policy.lidAction != .system && active
  if managed && !controller.inhibitor then reading.inhibit
  let closed ← reading.closed
  let docked ← reading.docked
  return ⟨policy, managed, closed, managed && !docked⟩

/-- The action that an observation starts. -/
def request (controller : LidController) (view : LidView) (triggered : Bool)
    (now operation : Nat) : Option LidRequest × LidRetry :=
  let retry := controller.retry.reconcile view.policy
    (view.closed && view.eligible)
  if controller.actions.isEmpty then
    if triggered then
      (some ⟨view.policy, operation⟩, .start view.policy)
    else
      let due := retry.due now operation
      (if due.1 then some ⟨view.policy, due.2.operation⟩ else none, due.2)
  else (none, retry)

/-- `LidController::observe`, after its readings. -/
def observe (controller : LidController) (view : LidView)
    (now operation : Nat) : Option LidRequest × LidController :=
  let edge := controller.edge.observe view.closed view.eligible
  let started := controller.request view edge.1 now operation
  (started.1,
    { actions := controller.actions ++ started.1.toList
      inhibitor := view.managed
      edge := edge.2
      retry := started.2
      status := { controller.status with managed := view.managed } })

def withError (controller : LidController) (error : Option String) :
    LidController :=
  { controller with status := { controller.status with error := error } }

def completed (controller : LidController) (now : Nat) :
    LidCompletion → LidController
  | .finished => { controller.withError none with retry := .cleared }
  | .failed failure =>
      let failed := controller.retry.failed now failure
      let pending := if failed.1 then
        "; retrying preparation while lid remains closed" else ""
      { controller.withError
          (some ("Lid action failed" ++ pending ++ ": " ++ failure.text)) with
        retry := failed.2 }
  | .ended text =>
      { controller.withError (some ("Lid action worker failed: " ++ text)) with
        retry := .cleared }

end LidController

/-! ### Runs -/

/-- What has happened to the lid, in order. -/
inductive LidMark
  | observed (policy : SleepPolicy) (closed eligible : Bool)
  | started (request : LidRequest)
  | completed
  | disconnected
deriving DecidableEq, Repr

structure LidSession where
  controller : LidController
  /-- For the statements only. -/
  trace : List LidMark

inductive LidEvent
  | observe (reading : LidReading)
  /-- One of the running actions ends. -/
  | complete (index now : Nat) (completion : LidCompletion)
  /-- The connection ends, and its actions with it. -/
  | disconnect

namespace LidSession

def initial : LidSession :=
  ⟨.connected, []⟩

def disconnected (session : LidSession) : LidSession :=
  ⟨.connected, session.trace ++ [.disconnected]⟩

def step (session : LidSession) : LidEvent → LidSession
  | .observe reading =>
      match session.controller.look reading with
      -- A failed reading ends the connection.
      | .error _ => session.disconnected
      | .ok view =>
          let seen := session.controller.observe view reading.now
            reading.operation
          ⟨seen.2, session.trace ++
            .observed view.policy view.closed view.eligible ::
              seen.1.toList.map .started⟩
  | .complete index now completion =>
      if index < session.controller.actions.length then
        ⟨{ session.controller.completed now completion with
            actions := session.controller.actions.eraseIdx index },
          session.trace ++ [.completed]⟩
      else session
  | .disconnect => session.disconnected

def after (events : List LidEvent) : LidSession :=
  run step initial events

end LidSession

end BarDaemon.SleepPolicies
