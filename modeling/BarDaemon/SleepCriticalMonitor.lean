import BarDaemon.SleepCriticalEngine
import BarDaemon.TransitionRuns

/-!
# The critical-battery monitor

The monitor refreshes the engine, delivers its warning, and keeps a recovery
record so that a restart does not repeat an episode.  Cancellations, changes
of the settings and restarts come between any two of its steps.
-/

namespace BarDaemon.SleepPolicies

open TransitionRuns

/-- What is kept in `critical-battery.json`. -/
structure Recovery where
  policy : CriticalPolicy
  attempted : Bool
deriving DecidableEq, Repr

def Recovery.default : Recovery :=
  ⟨.default, false⟩

/-- How the atomic replacement of a file ends.  A failure may come after the
new file is in place. -/
inductive Saving
  | saved
  | failed (written : Bool) (text : String)
deriving DecidableEq, Repr

/-- A refresh that has observed the battery. -/
structure Refresh where
  policy : CriticalPolicy
  token : Nat
  fire : Bool
  sampleError : Option String
deriving DecidableEq, Repr

/-- What the monitor is waiting for. -/
inductive CriticalStage
  | waiting
  | reading (policy : CriticalPolicy)
  | warning (refresh : Refresh)
  | persisting (refresh : Refresh)
  | publishing
  /-- The recovery record could not be read. -/
  | stopped
deriving DecidableEq, Repr

/-- How far a cancellation has come. -/
inductive Cancellation
  | granted
  | counted (token : Nat)
  | loaded (token : Nat) (policy : CriticalPolicy)
  | confirmed
deriving DecidableEq, Repr

/-- A hibernation request in the hands of the worker. -/
structure CriticalRequest where
  policy : CriticalPolicy
  token : Nat
deriving DecidableEq, Repr

/-- What has happened, in order. -/
inductive CriticalMark
  | started
  | configured (previous policy : CriticalPolicy)
  | observed (policy : CriticalPolicy) (sample : Option Sample)
      (token now : Nat)
  | warned (now : Nat)
  | cancelled (token : Nat)
  | confirmed (token : Nat)
  | requested (request : CriticalRequest)
deriving DecidableEq, Repr

structure CriticalMonitor where
  engine : CriticalEngine
  saved : Recovery
  stage : CriticalStage
  /-- The policy that is configured. -/
  settings : CriticalPolicy
  file : Recovery
  /-- `CANCELLATION` -/
  token : Nat
  published : CriticalState
  cancels : List Cancellation
  actions : List CriticalRequest
  /-- For the statements only. -/
  trace : List CriticalMark

/-- The monotonic clock of a daemon, in seconds. -/
abbrev Elapsed : Type :=
  Fin (2 ^ 63)

inductive CriticalEvent
  /-- The timer or the battery wakes the monitor, which reads its policy. -/
  | refresh (loaded : Except String Unit)
  | sampled (read : Except String BatteryReading) (now : Elapsed)
  | delivered (result : Except String Unit) (now : Elapsed)
  | persisted (saving : Saving)
  | published
  /-- A hibernation attempt ends. -/
  | ended (index : Nat) (result : Except String Unit)
  | cancel
  | count (index : Nat)
  | load (index : Nat) (loaded : Bool)
  | confirm (index : Nat) (saving : Saving)
  | announce (index : Nat)
  | configure (policy : CriticalPolicy)
  | restart (readable : Bool)

namespace CriticalMonitor

/-- A cancellation is granted while there is something to cancel. -/
def cancellable (state : CriticalState) : Bool :=
  state.phase == "countdown" || state.phase == "acting"

def cancellationState : CriticalState :=
  ⟨"cancelled", 0, some ("Cancellation requested. " ++
    "An already dispatched sleep request cannot be undone.")⟩

def mark (monitor : CriticalMonitor) (mark : CriticalMark) :
    CriticalMonitor :=
  { monitor with trace := monitor.trace ++ [mark] }

def stop (monitor : CriticalMonitor) (phase : String)
    (error : Option String) : CriticalMonitor :=
  { monitor with
    engine := monitor.engine.stop phase error
    stage := .publishing }

/-- Hand a request to a new worker.  The worker refuses it at once when it
has been cancelled. -/
def spawn (monitor : CriticalMonitor) (request : CriticalRequest) :
    CriticalMonitor :=
  let spawned := { monitor with actions := monitor.actions ++ [request] }
  if request.token = monitor.token then spawned.mark (.requested request)
  else spawned

/-- A refresh has returned. -/
def finish (monitor : CriticalMonitor) (refresh : Refresh) :
    CriticalMonitor :=
  let done := { monitor with stage := .publishing }
  if refresh.fire && monitor.actions.isEmpty then
    done.spawn ⟨refresh.policy, monitor.engine.token⟩
  else done

/-- Keep the recovery record when it has changed. -/
def record (monitor : CriticalMonitor) (refresh : Refresh) :
    CriticalMonitor :=
  let engine := match refresh.sampleError with
    | some error => { monitor.engine with
        state := { monitor.engine.state with error := some error } }
    | none => monitor.engine
  let kept := { monitor with engine := engine }
  if (⟨refresh.policy, engine.latched⟩ : Recovery) = monitor.saved then
    kept.finish refresh
  else { kept with stage := .persisting refresh }

def sampled (monitor : CriticalMonitor) (policy : CriticalPolicy)
    (read : Except String BatteryReading) (now : Nat) : CriticalMonitor :=
  let evidence := if policy.enabled then (sample read).map some else .ok none
  let seen := evidence.toOption.join
  let sampleError := match evidence with
    | .error text => some text
    | .ok _ => none
  let observed := monitor.engine.observe policy seen now monitor.token
  let refresh := ⟨policy, monitor.token, observed.1.2, sampleError⟩
  let marked := { monitor with engine := observed.2 }.mark
    (.observed policy seen monitor.token now)
  if observed.1.1 then { marked with stage := .warning refresh }
  else marked.record refresh

def delivered (monitor : CriticalMonitor) (refresh : Refresh)
    (result : Except String Unit) (now : Nat) : CriticalMonitor :=
  let warned := { monitor with
    engine := monitor.engine.warningDelivered refresh.policy now result }
  match result with
  | .ok () => (warned.mark (.warned now)).record refresh
  | .error _ => warned.record refresh

/-- The record that is written; a cancellation that has come in between is
kept. -/
def recovery (monitor : CriticalMonitor) (refresh : Refresh) : Recovery :=
  ⟨refresh.policy, monitor.engine.latched || monitor.token != refresh.token⟩

def persisted (monitor : CriticalMonitor) (refresh : Refresh) :
    Saving → CriticalMonitor
  | .saved =>
      { monitor with
        file := monitor.recovery refresh
        saved := monitor.recovery refresh }.finish refresh
  | .failed written text =>
      { monitor with
        file := if written then monitor.recovery refresh
          else monitor.file }.stop "blocked"
            (some ("Cannot durably record critical battery intent: " ++ text))

def ended (monitor : CriticalMonitor) (index : Nat) :
    Except String Unit → CriticalMonitor
  | .ok () =>
      { monitor with actions := monitor.actions.eraseIdx index }.stop
        "accepted" none
  | .error text =>
      { monitor with actions := monitor.actions.eraseIdx index }.stop
        "failed" (some text)

/-- A step of a cancellation. -/
def count (monitor : CriticalMonitor) (index : Nat) : CriticalMonitor :=
  { monitor with
    token := monitor.token + 1
    cancels := monitor.cancels.set index (.counted (monitor.token + 1)) }.mark
      (.cancelled (monitor.token + 1))

def confirm (monitor : CriticalMonitor) (index token : Nat)
    (policy : CriticalPolicy) : Saving → CriticalMonitor
  | .saved =>
      { monitor with
        file := ⟨policy, true⟩
        cancels := monitor.cancels.set index .confirmed }.mark
          (.confirmed token)
  | .failed written _ =>
      { monitor with
        file := if written then ⟨policy, true⟩ else monitor.file
        cancels := monitor.cancels.eraseIdx index }

/-- The engine of a new daemon. -/
def recovered (file : Recovery) : CriticalEngine where
  policy := some file.policy
  deadline := none
  token := 0
  latched := file.attempted
  state := .inPhase (if file.attempted then "latched" else "disabled")

/-- A new daemon knows the files only. -/
def restarted (monitor : CriticalMonitor) (readable : Bool) :
    CriticalMonitor where
  engine := recovered monitor.file
  saved := monitor.file
  stage := if readable then .waiting else .stopped
  settings := monitor.settings
  file := monitor.file
  token := 0
  published := if readable then .default else .inPhase "blocked"
  cancels := []
  actions := []
  trace := monitor.trace ++ [.started]

def initial : CriticalMonitor where
  engine := recovered .default
  saved := .default
  stage := .waiting
  settings := .default
  file := .default
  token := 0
  published := .default
  cancels := []
  actions := []
  trace := [.started]

def step (monitor : CriticalMonitor) : CriticalEvent → CriticalMonitor
  | .refresh loaded =>
      match monitor.stage, loaded with
      | .waiting, .ok () => { monitor with stage := .reading monitor.settings }
      | .waiting, .error text => monitor.stop "blocked" (some text)
      | _, _ => monitor
  | .sampled read now =>
      match monitor.stage with
      | .reading policy => monitor.sampled policy read now
      | _ => monitor
  | .delivered result now =>
      match monitor.stage with
      | .warning refresh => monitor.delivered refresh result now
      | _ => monitor
  | .persisted saving =>
      match monitor.stage with
      | .persisting refresh => monitor.persisted refresh saving
      | _ => monitor
  | .published =>
      match monitor.stage with
      | .publishing => { monitor with
          stage := .waiting
          published := monitor.engine.state }
      | _ => monitor
  | .ended index result =>
      if monitor.stage = .waiting ∧ index < monitor.actions.length then
        monitor.ended index result
      else monitor
  | .cancel =>
      if cancellable monitor.published then
        { monitor with cancels := monitor.cancels ++ [.granted] }
      else monitor
  | .count index =>
      match monitor.cancels[index]? with
      | some .granted => monitor.count index
      | _ => monitor
  | .load index loaded =>
      match monitor.cancels[index]? with
      | some (.counted token) => { monitor with
          cancels := if loaded then
            monitor.cancels.set index (.loaded token monitor.settings)
          else monitor.cancels.eraseIdx index }
      | _ => monitor
  | .confirm index saving =>
      match monitor.cancels[index]? with
      | some (.loaded token policy) =>
          monitor.confirm index token policy saving
      | _ => monitor
  | .announce index =>
      match monitor.cancels[index]? with
      | some .confirmed => { monitor with
          published := cancellationState
          cancels := monitor.cancels.eraseIdx index }
      | _ => monitor
  | .configure policy =>
      match policy.validate with
      | .ok () =>
          { monitor with settings := policy }.mark
            (.configured monitor.settings policy)
      | .error _ => monitor
  | .restart readable => monitor.restarted readable

def after (events : List CriticalEvent) : CriticalMonitor :=
  run step initial events

end CriticalMonitor

end BarDaemon.SleepPolicies
