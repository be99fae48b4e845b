import BarDaemon.MachineIntegers
import BarDaemon.TransitionRuns

/-!
# Outcomes of sleep requests

The tracker follows one request for sleep, from its admission through the reply
of the login manager to the result of the sleep service.  A reply alone never
completes a request.
-/

namespace BarDaemon.SleepOutcomes

open TransitionRuns

/-! ### Operations -/

inductive Action
  | suspend
  | hibernate
  | suspendThenHibernate
deriving DecidableEq, Repr

namespace Action

def method : Action → String
  | .suspend => "Suspend"
  | .hibernate => "Hibernate"
  | .suspendThenHibernate => "SuspendThenHibernate"

def service : Action → String
  | .suspend => "systemd-suspend.service"
  | .hibernate => "systemd-hibernate.service"
  | .suspendThenHibernate => "systemd-suspend-then-hibernate.service"

end Action

inductive Phase
  /-- Nothing has been requested. -/
  | idle
  | requested
  | dispatching
  | accepted
  | preparing
  | returned
  | completed
  | failed
  | unknown
deriving DecidableEq, Repr

namespace Phase

def dispatched : Phase → Bool
  | .dispatching | .accepted | .preparing | .returned => true
  | _ => false

def unfinished (phase : Phase) : Bool :=
  phase.dispatched || phase = .requested || phase = .unknown

/-- The lease is released there. -/
def terminal : Phase → Bool
  | .failed | .completed | .unknown => true
  | _ => false

def pending (phase : Phase) : Bool :=
  phase = .requested || phase.dispatched

end Phase

structure SleepOperation where
  id : Nat
  action : Option Action
  phase : Phase
  job : Option String
  error : Option String
deriving DecidableEq, Repr

def SleepOperation.default : SleepOperation :=
  ⟨0, none, .idle, none, none⟩

/-- The service of nothing is no unit. -/
def SleepOperation.service (operation : SleepOperation) : String :=
  (operation.action.map Action.service).getD ""

/-! ### The tracker -/

/-- The settings that are leased for a request. -/
structure Lease where
  fd : Nat
  /-- For the statements only: the request that has obtained the lease. -/
  owner : Nat
deriving DecidableEq, Repr

structure Tracked where
  operation : SleepOperation
  started : Nat
  lease : Option Lease
deriving DecidableEq, Repr

namespace Tracked

def modify (tracked : Tracked) (update : SleepOperation → SleepOperation) :
    Tracked :=
  let operation := update tracked.operation
  { tracked with
    operation := operation
    lease := if operation.phase.terminal then none else tracked.lease }

def retainLease (tracked : Tracked) (lease : Lease) : Tracked :=
  if tracked.operation.phase = .requested ∧ tracked.lease = none then
    { tracked with lease := some lease }
  else tracked

def readyForNewRequest (tracked : Tracked) : Bool :=
  tracked.operation.phase != .requested &&
    !tracked.operation.phase.dispatched

theorem readyForNewRequest_eq (tracked : Tracked) :
    tracked.readyForNewRequest = !tracked.operation.phase.pending := by
  cases phase : tracked.operation.phase <;>
    simp [readyForNewRequest, Phase.pending, phase, Phase.dispatched]

def start (tracked : Tracked) (action : Action) (now : Nat) : Tracked :=
  ⟨⟨saturatingAdd tracked.operation.id 1, some action, .requested, none, none⟩,
    now, none⟩

def dispatching (tracked : Tracked) : Tracked :=
  tracked.modify fun operation => { operation with phase := .dispatching }

def accepted (tracked : Tracked) : Tracked :=
  tracked.modify fun operation =>
    if operation.phase = .requested ∨ operation.phase = .dispatching then
      { operation with phase := .accepted }
    else operation

/-- The result of a job outranks a lost reply. -/
def fail (tracked : Tracked) (error : String) (ambiguous : Bool) : Tracked :=
  tracked.modify fun operation =>
    if ambiguous ∧
        (operation.phase = .completed ∨ operation.phase = .failed) then
      operation
    else { operation with
      phase := if ambiguous then .unknown else .failed
      error := some error }

def finishPreflightError (tracked : Tracked) (error : String) : Tracked :=
  if tracked.operation.phase = .requested then tracked.fail error false
  else tracked

def prepared (tracked : Tracked) (preparing : Bool) : Tracked :=
  tracked.modify fun operation =>
    if operation.phase.dispatched then
      { operation with phase := if preparing then .preparing else .returned }
    else operation

def jobNew (tracked : Tracked) (path unit : String) : Tracked :=
  tracked.modify fun operation =>
    if operation.phase.dispatched ∧ operation.job = none ∧
        operation.service = unit then
      { operation with job := some path }
    else operation

def jobRemoved (tracked : Tracked) (path unit result : String) : Tracked :=
  tracked.modify fun operation =>
    if operation.job = some path ∧ operation.service = unit ∧
        operation.phase.unfinished then
      if result = "done" then
        { operation with phase := .completed, error := none }
      else { operation with
        phase := .failed
        error := some
          s!"{unit}: {result}. Inspect this unit's journal for the sleep failure." }
    else operation

def lostMonitor (tracked : Tracked) (reason : String) : Tracked :=
  tracked.modify fun operation =>
    if operation.phase.dispatched then
      { operation with phase := .unknown, error := some reason }
    else operation

def expiry : Nat :=
  120000

def expire (tracked : Tracked) (now : Nat) : Tracked :=
  if tracked.started + expiry ≤ now then
    tracked.lostMonitor
      ("No correlated sleep-job result was received. Outcome unknown; " ++
        "inspect the session before another request.")
  else tracked

theorem expire_cases (tracked : Tracked) (now : Nat) :
    tracked.expire now = tracked ∨
      ∃ reason, tracked.expire now = tracked.lostMonitor reason := by
  unfold expire
  split
  · exact .inr ⟨_, rfl⟩
  · exact .inl rfl

/-- The drop of a `CancellationGuard`. -/
def cancelled (tracked : Tracked) (id : Nat) : Tracked :=
  tracked.modify fun operation =>
    if operation.id = id then
      match operation.phase with
      | .requested => { operation with
          phase := .failed
          error := some "Sleep request cancelled before dispatch" }
      | .dispatching => { operation with
          phase := .unknown
          error := some "Sleep dispatch was interrupted; outcome unknown" }
      | _ => operation
    else operation

end Tracked

/-! ### Requests -/

/-- The error of a call to the login manager, with its name if the manager has
answered. -/
structure CallError where
  name : Option String
  text : String
deriving DecidableEq, Repr

/-- The request may have been accepted nevertheless. -/
def CallError.ambiguous (error : CallError) : Bool :=
  match error.name with
  | some name =>
      name = "org.freedesktop.DBus.Error.NoReply" ||
        name = "org.freedesktop.DBus.Error.Timeout" ||
        name = "org.freedesktop.DBus.Error.Disconnected"
  | none => true

inductive Stage
  | preflight
  | dispatched
  | answered
deriving DecidableEq, Repr

/-- Who holds the lock of the sleep actions. -/
inductive Performing
  /-- The screen is locked, or the inhibitor toggled. -/
  | other
  | sleep (serial guardId : Nat) (action : Action) (stage : Stage)
deriving DecidableEq, Repr

structure Session where
  tracked : Tracked
  now : Nat
  performing : Option Performing
  /-- For the statements only: the number of admitted requests. -/
  serial : Nat
deriving DecidableEq, Repr

inductive Event
  | lock
  | unlock
  | request (action : Action)
  | retain (fd : Nat)
  /-- The request fails before it is dispatched. -/
  | refuse (error : String)
  | dispatch
  /-- The reply of the login manager. -/
  | answer (error : Option CallError)
  /-- The request ends or is cancelled. -/
  | finish
  /-- The guard of any admitted request is dropped. -/
  | release (serial : Nat)
  | prepared (preparing : Bool)
  | jobNew (path unit : String)
  | jobRemoved (path unit result : String)
  | lostMonitor (reason : String)
  | elapse (time : Nat)
  | expire
deriving DecidableEq, Repr

namespace Session

def initial : Session :=
  ⟨⟨.default, 0, none⟩, 0, none, 0⟩

def tracking (session : Session) (tracked : Tracked) : Session :=
  { session with tracked := tracked }

def request (session : Session) (action : Action) : Session :=
  if session.performing = none ∧ session.tracked.readyForNewRequest then
    let tracked := session.tracked.start action session.now
    { session with
      tracked := tracked
      performing := some
        (.sleep (session.serial + 1) tracked.operation.id action .preflight)
      serial := session.serial + 1 }
  else session

def retain (session : Session) (fd : Nat) : Session :=
  match session.performing with
  | some (.sleep serial _ _ .preflight) =>
      session.tracking (session.tracked.retainLease ⟨fd, serial⟩)
  | _ => session

def refuse (session : Session) (error : String) : Session :=
  match session.performing with
  | some (.sleep serial guardId action .preflight) => { session with
      tracked := session.tracked.finishPreflightError error
      performing := some (.sleep serial guardId action .answered) }
  | _ => session

def dispatch (session : Session) : Session :=
  match session.performing with
  | some (.sleep serial guardId action .preflight) => { session with
      tracked := session.tracked.dispatching
      performing := some (.sleep serial guardId action .dispatched) }
  | _ => session

def answer (session : Session) (error : Option CallError) : Session :=
  match session.performing with
  | some (.sleep serial guardId action .dispatched) => { session with
      tracked := match error with
        | none => session.tracked.accepted
        | some error => session.tracked.fail
            s!"{action.method}: {error.text}" error.ambiguous
      performing := some (.sleep serial guardId action .answered) }
  | _ => session

def finish (session : Session) : Session :=
  match session.performing with
  | some (.sleep _ guardId _ _) => { session with
      tracked := session.tracked.cancelled guardId
      performing := none }
  | _ => session

/-- The number of the request is its id, as long as ids can be counted. -/
def idOf (serial : Nat) : Nat :=
  min serial u64Max

/-- The guard of a request that is under way goes with it. -/
def release (session : Session) (serial : Nat) : Session :=
  match session.performing with
  | some (.sleep current _ _ _) =>
      if current = serial then session.finish
      else if serial ≤ session.serial then
        session.tracking (session.tracked.cancelled (idOf serial))
      else session
  | _ =>
      if serial ≤ session.serial then
        session.tracking (session.tracked.cancelled (idOf serial))
      else session

def step (session : Session) : Event → Session
  | .lock =>
      if session.performing = none then
        { session with performing := some .other }
      else session
  | .unlock =>
      if session.performing = some .other then
        { session with performing := none }
      else session
  | .request action => session.request action
  | .retain fd => session.retain fd
  | .refuse error => session.refuse error
  | .dispatch => session.dispatch
  | .answer error => session.answer error
  | .finish => session.finish
  | .release serial => session.release serial
  | .prepared preparing =>
      session.tracking (session.tracked.prepared preparing)
  | .jobNew path unit => session.tracking (session.tracked.jobNew path unit)
  | .jobRemoved path unit result =>
      session.tracking (session.tracked.jobRemoved path unit result)
  | .lostMonitor reason =>
      session.tracking (session.tracked.lostMonitor reason)
  | .elapse time => { session with now := session.now + time }
  | .expire => session.tracking (session.tracked.expire session.now)

/-! ### What a request does to the tracker -/

def operation (session : Session) : SleepOperation :=
  session.tracked.operation

/-- The current request is under way. -/
def Performs (session : Session) : Prop :=
  ∃ guardId action stage,
    session.performing = some (.sleep session.serial guardId action stage)

/-- What holds between the events. -/
structure Sound (session : Session) : Prop where
  id : session.operation.id = idOf session.serial
  performing : ∀ serial guardId action stage,
    session.performing = some (.sleep serial guardId action stage) →
      serial = session.serial ∧ guardId = session.operation.id ∧
        (stage = .preflight → session.operation.phase = .requested)
  fresh : session.operation.phase = .requested → session.operation.job = none
  lease : ∀ lease, session.tracked.lease = some lease →
    lease.owner = session.serial ∧ session.operation.phase.pending = true

end Session

/-- The ways in which an event alters the operation of the current request. -/
inductive Alters (session : Session) : Event → SleepOperation → Prop
  | refused (error : String) (performs : session.Performs)
      (phase : session.operation.phase = .requested) :
      Alters session (.refuse error) { session.operation with
        phase := .failed, error := some error }
  | dispatched (performs : session.Performs)
      (phase : session.operation.phase = .requested) :
      Alters session .dispatch
        { session.operation with phase := .dispatching }
  | accepted (performs : session.Performs)
      (phase : session.operation.phase = .requested ∨
        session.operation.phase = .dispatching) :
      Alters session (.answer none)
        { session.operation with phase := .accepted }
  | failed (error : CallError) (text : String) (performs : session.Performs) :
      Alters session (.answer (some error)) { session.operation with
        phase := .failed, error := some text }
  | lost (error : CallError) (text : String) (performs : session.Performs)
      (phase : session.operation.phase ≠ .completed ∧
        session.operation.phase ≠ .failed) :
      Alters session (.answer (some error)) { session.operation with
        phase := .unknown, error := some text }
  | cancelled (event : Event) (own : event = .finish ∧ session.Performs ∨
        event = .release session.serial) (text : String)
      (phase : session.operation.phase = .requested) :
      Alters session event { session.operation with
        phase := .failed, error := some text }
  | interrupted (event : Event) (own : event = .finish ∧ session.Performs ∨
        event = .release session.serial) (text : String)
      (phase : session.operation.phase = .dispatching) :
      Alters session event { session.operation with
        phase := .unknown, error := some text }
  | prepared (preparing : Bool)
      (phase : session.operation.phase.dispatched = true) :
      Alters session (.prepared preparing) { session.operation with
        phase := if preparing then .preparing else .returned }
  | created (path : String)
      (phase : session.operation.phase.dispatched = true)
      (free : session.operation.job = none) :
      Alters session (.jobNew path session.operation.service)
        { session.operation with job := some path }
  | done (path : String) (job : session.operation.job = some path)
      (phase : session.operation.phase.unfinished = true) :
      Alters session (.jobRemoved path session.operation.service "done")
        { session.operation with phase := .completed, error := none }
  | removed (path result text : String)
      (job : session.operation.job = some path)
      (phase : session.operation.phase.unfinished = true) :
      Alters session (.jobRemoved path session.operation.service result)
        { session.operation with phase := .failed, error := some text }
  | unwatched (event : Event)
      (own : event = .expire ∨ ∃ reason, event = .lostMonitor reason)
      (text : String) (phase : session.operation.phase.dispatched = true) :
      Alters session event { session.operation with
        phase := .unknown, error := some text }

namespace Session

variable {session : Session}

@[simp]
theorem tracking_operation (tracked : Tracked) :
    (session.tracking tracked).operation = tracked.operation :=
  rfl

/-- A guard alters the operation with its id only. -/
theorem alters_cancelled {event : Event} {id : Nat}
    (own : session.operation.id = id → event = .finish ∧ session.Performs ∨
      event = .release session.serial) :
    (session.tracked.cancelled id).operation = session.operation ∨
      Alters session event (session.tracked.cancelled id).operation := by
  change (if session.operation.id = id then _ else session.operation) = _ ∨
    Alters session event (if session.operation.id = id then _
      else session.operation)
  by_cases same : session.operation.id = id
  · simp only [if_pos same]
    split
    · next phase => exact .inr (.cancelled event (own same) _ phase)
    · next phase => exact .inr (.interrupted event (own same) _ phase)
    · exact .inl rfl
  · simp only [if_neg same]
    exact .inl trivial

theorem alters_finish (sound : session.Sound) {event : Event}
    (own : session.Performs → event = .finish ∧ session.Performs ∨
      event = .release session.serial) :
    session.finish.operation = session.operation ∨
      Alters session event session.finish.operation := by
  unfold finish
  split
  · next serial guardId action stage performing =>
      obtain ⟨rfl, -⟩ := sound.performing _ _ _ _ performing
      exact alters_cancelled fun _ => own ⟨guardId, action, stage, performing⟩
  · exact .inl rfl

theorem idOf_eq {serial : Nat} (few : serial ≤ u64Max) :
    idOf serial = serial :=
  Nat.min_eq_left few

/-- A guard of another request has another id. -/
theorem alters_release (sound : session.Sound)
    (few : session.serial ≤ u64Max) (serial : Nat) :
    (session.release serial).operation = session.operation ∨
      Alters session (.release serial)
        (session.release serial).operation := by
  have guard : serial ≤ session.serial →
      (session.tracked.cancelled (idOf serial)).operation =
          session.operation ∨
        Alters session (.release serial)
          (session.tracked.cancelled (idOf serial)).operation := by
    intro admitted
    apply alters_cancelled
    intro same
    rw [sound.id, idOf_eq few, idOf_eq (Nat.le_trans admitted few)] at same
    exact .inr (congrArg Event.release same.symm)
  unfold release
  split
  · next current guardId action stage performing =>
      split
      · next same =>
          obtain ⟨rfl, -⟩ := sound.performing _ _ _ _ performing
          exact alters_finish sound fun _ =>
            .inr (congrArg Event.release same.symm)
      · split
        · next admitted => exact guard admitted
        · exact .inl rfl
  · split
    · next admitted => exact guard admitted
    · exact .inl rfl

theorem alters_answer (sound : session.Sound) (error : Option CallError) :
    (session.answer error).operation = session.operation ∨
      Alters session (.answer error) (session.answer error).operation := by
  unfold answer
  split
  · next serial guardId action performing =>
      obtain ⟨rfl, -⟩ := sound.performing _ _ _ _ performing
      have performs : session.Performs :=
        ⟨guardId, action, .dispatched, performing⟩
      cases error with
      | none =>
          change (if _ then _ else session.operation) = _ ∨
            Alters session _ (if _ then _ else session.operation)
          split
          · next phase => exact .inr (.accepted performs phase)
          · exact .inl rfl
      | some error =>
          change (if _ then session.operation else _) = _ ∨
            Alters session _ (if _ then session.operation else _)
          split
          · exact .inl rfl
          · next settled =>
              cases ambiguous : error.ambiguous with
              | false => exact .inr (.failed error _ performs)
              | true =>
                  rw [ambiguous] at settled
                  exact .inr (.lost error _ performs
                    (not_or.mp fun phase => settled ⟨rfl, phase⟩))
  · exact .inl rfl

theorem alters_lostMonitor {event : Event}
    (own : event = .expire ∨ ∃ reason, event = .lostMonitor reason)
    (reason : String) :
    (session.tracked.lostMonitor reason).operation = session.operation ∨
      Alters session event
        (session.tracked.lostMonitor reason).operation := by
  change (if _ then _ else session.operation) = _ ∨
    Alters session _ (if _ then _ else session.operation)
  split
  · next phase => exact .inr (.unwatched event own reason phase)
  · exact .inl rfl

/-- Whatever does not admit a request leaves the operation alone, or alters it
in one of the ways that are its own. -/
theorem step_alters (sound : session.Sound) (few : session.serial ≤ u64Max)
    {event : Event} (admits : ∀ action, event ≠ .request action) :
    (session.step event).operation = session.operation ∨
      Alters session event (session.step event).operation := by
  cases event with
  | request action => exact absurd rfl (admits action)
  | lock =>
      left
      simp only [step]
      split <;> rfl
  | unlock =>
      left
      simp only [step]
      split <;> rfl
  | retain fd =>
      left
      simp only [step, retain]
      split
      · simp only [tracking_operation, Tracked.retainLease]
        split <;> rfl
      · rfl
  | refuse error =>
      simp only [step, refuse]
      split
      · next serial guardId action performing =>
          obtain ⟨rfl, -, preflight⟩ := sound.performing _ _ _ _ performing
          have phase := preflight rfl
          have performs : session.Performs :=
            ⟨guardId, action, .preflight, performing⟩
          right
          have failing : (session.tracked.finishPreflightError
              error).operation = { session.operation with
                phase := .failed, error := some error } := by
            have requested : session.tracked.operation.phase = .requested :=
              phase
            simp [Tracked.finishPreflightError, requested, Tracked.fail,
              Tracked.modify, operation]
          have refused := Alters.refused error performs phase
          rw [← failing] at refused
          exact refused
      · exact .inl rfl
  | dispatch =>
      simp only [step, dispatch]
      split
      · next serial guardId action performing =>
          obtain ⟨rfl, -, preflight⟩ := sound.performing _ _ _ _ performing
          exact .inr (.dispatched ⟨guardId, action, .preflight, performing⟩
            (preflight rfl))
      · exact .inl rfl
  | answer error => exact alters_answer sound error
  | finish => exact alters_finish sound fun performs => .inl ⟨rfl, performs⟩
  | release serial => exact alters_release sound few serial
  | prepared preparing =>
      change (if _ then _ else session.operation) = _ ∨
        Alters session _ (if _ then _ else session.operation)
      split
      · next phase => exact .inr (.prepared preparing phase)
      · exact .inl rfl
  | jobNew path unit =>
      change (if _ then _ else session.operation) = _ ∨
        Alters session _ (if _ then _ else session.operation)
      split
      · next created =>
          obtain ⟨phase, free, rfl⟩ := created
          exact .inr (.created path phase free)
      · exact .inl rfl
  | jobRemoved path unit result =>
      change (if _ then (if _ then _ else _) else session.operation) = _ ∨
        Alters session _
          (if _ then (if _ then _ else _) else session.operation)
      split
      · next removed =>
          obtain ⟨job, rfl, phase⟩ := removed
          split
          · next done =>
              subst done
              exact .inr (.done path job phase)
          · exact .inr (.removed path result _ job phase)
      · exact .inl rfl
  | lostMonitor reason =>
      exact alters_lostMonitor (.inr ⟨reason, rfl⟩) reason
  | elapse time => exact .inl rfl
  | expire =>
      have stepped : session.step .expire =
          session.tracking (session.tracked.expire session.now) := rfl
      rw [stepped]
      rcases session.tracked.expire_cases session.now with
        same | ⟨reason, lost⟩
      · rw [same]
        exact .inl rfl
      · rw [lost]
        exact alters_lostMonitor (.inl rfl) reason

/-! ### What alters an operation -/

theorem alters_id {event : Event} {operation : SleepOperation}
    (alters : Alters session event operation) :
    operation.id = session.operation.id ∧
      operation.service = session.operation.service := by
  cases alters <;> exact ⟨rfl, rfl⟩

/-- A completed or failed operation is at most failed again. -/
theorem alters_settled {event : Event} {operation : SleepOperation}
    (alters : Alters session event operation)
    (settled : session.operation.phase = .completed ∨
      session.operation.phase = .failed) : operation.phase = .failed := by
  cases alters with
  | failed error text performs => rfl
  | lost error text performs phase =>
      exact (settled.elim phase.1 phase.2).elim
  | accepted performs phase =>
      rcases settled with settled | settled <;> simp [settled] at phase
  | refused error performs phase =>
      rcases settled with settled | settled <;> simp [settled] at phase
  | dispatched performs phase =>
      rcases settled with settled | settled <;> simp [settled] at phase
  | cancelled event own text phase =>
      rcases settled with settled | settled <;> simp [settled] at phase
  | interrupted event own text phase =>
      rcases settled with settled | settled <;> simp [settled] at phase
  | prepared preparing phase =>
      rcases settled with settled | settled <;>
        simp [settled, Phase.dispatched] at phase
  | created path phase free =>
      rcases settled with settled | settled <;>
        simp [settled, Phase.dispatched] at phase
  | done path job phase =>
      rcases settled with settled | settled <;>
        simp [settled, Phase.unfinished, Phase.dispatched] at phase
  | removed path result text job phase =>
      rcases settled with settled | settled <;>
        simp [settled, Phase.unfinished, Phase.dispatched] at phase
  | unwatched event own text phase =>
      rcases settled with settled | settled <;>
        simp [settled, Phase.dispatched] at phase

theorem alters_completed {event : Event} {operation : SleepOperation}
    (alters : Alters session event operation)
    (completed : operation.phase = .completed) :
    ∃ path, event = .jobRemoved path session.operation.service "done" ∧
      session.operation.job = some path := by
  cases alters with
  | done path job phase => exact ⟨path, rfl, job⟩
  | created path phase free =>
      have completed : session.operation.phase = .completed := completed
      simp [completed, Phase.dispatched] at phase
  | prepared preparing phase => cases preparing <;> cases completed
  | _ => cases completed

theorem alters_pending {event : Event} {operation : SleepOperation}
    (alters : Alters session event operation)
    (open' : operation.phase.terminal = false) :
    operation.phase.pending = true := by
  cases alters with
  | dispatched performs phase => rfl
  | accepted performs phase => rfl
  | prepared preparing phase => cases preparing <;> rfl
  | created path phase free => simp [Phase.pending, phase]
  | _ => cases open'

theorem alters_job {event : Event} {operation : SleepOperation}
    (alters : Alters session event operation) :
    operation.job = session.operation.job ∨
      session.operation.phase.dispatched = true ∧
        ∃ path, event = .jobNew path session.operation.service ∧
          operation.job = some path := by
  cases alters with
  | created path phase free => exact .inr ⟨phase, path, rfl, rfl⟩
  | _ => exact .inl rfl

theorem alters_requested {event : Event} {operation : SleepOperation}
    (alters : Alters session event operation) :
    operation.phase ≠ .requested := by
  cases alters with
  | created path phase free =>
      intro requested
      have requested : session.operation.phase = .requested := requested
      simp [requested, Phase.dispatched] at phase
  | prepared preparing phase => cases preparing <;> nofun
  | _ => nofun

end Session

end BarDaemon.SleepOutcomes
