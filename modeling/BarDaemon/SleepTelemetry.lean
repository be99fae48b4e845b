import BarDaemon.SleepOutcomes

/-!
# Sleep telemetry

The published sleep state has several writers.  Signals and the clock change it
at once, a refresh commits what it has read only where nothing has changed
since, and the replies of requests are published as they are.
-/

namespace BarDaemon.SleepTelemetry

open TransitionRuns SleepOutcomes

structure SleepInhibitor where
  what : String
  who : String
  why : String
  mode : String
  uid : Nat
  pid : Nat
deriving DecidableEq, Repr

/-- The diagnostics of the machine are a value of any type. -/
structure PowerSleepState (Diagnostics : Type) where
  available : Bool
  canSuspend : String
  canHibernate : String
  preparingForSleep : Bool
  resumeGeneration : Nat
  operation : SleepOperation
  lockBeforeSleep : Bool
  keepAwake : Bool
  inhibitors : List SleepInhibitor
  diagnostics : Diagnostics
  error : Option String
deriving DecidableEq, Repr

namespace PowerSleepState

variable {Diagnostics : Type} [Inhabited Diagnostics]

def empty : PowerSleepState Diagnostics :=
  ⟨false, "", "", false, 0, .default, false, false, [], default, none⟩

/-- A refresh that has failed. -/
def unavailable (error : String) (preparing : Bool) :
    PowerSleepState Diagnostics :=
  { (empty : PowerSleepState Diagnostics) with
    preparingForSleep := preparing
    lockBeforeSleep := true
    error := some error }

end PowerSleepState

section Commit

variable {Diagnostics : Type}

/-- The state that `commit_power_sleep` makes out of the current one. -/
def PowerSleepState.next (current : PowerSleepState Diagnostics)
    (value : Option (PowerSleepState Diagnostics)) (resumed : Bool)
    (preparing : Option Bool) : PowerSleepState Diagnostics :=
  let next := value.getD current
  { next with
    resumeGeneration := saturatingAdd current.resumeGeneration resumed.toNat
    operation := current.operation
    preparingForSleep := preparing.getD next.preparingForSleep }

@[simp]
theorem PowerSleepState.next_resumeGeneration
    (current : PowerSleepState Diagnostics)
    (value : Option (PowerSleepState Diagnostics)) (resumed : Bool)
    (preparing : Option Bool) :
    (current.next value resumed preparing).resumeGeneration =
      saturatingAdd current.resumeGeneration resumed.toNat :=
  rfl

@[simp]
theorem PowerSleepState.next_preparingForSleep
    (current : PowerSleepState Diagnostics)
    (value : Option (PowerSleepState Diagnostics)) (resumed : Bool)
    (preparing : Option Bool) :
    (current.next value resumed preparing).preparingForSleep =
      preparing.getD (value.getD current).preparingForSleep :=
  rfl

variable [DecidableEq Diagnostics]

/-- `commit_power_sleep`, or nothing where another state is expected. -/
def commitPowerSleep (current : PowerSleepState Diagnostics)
    (value : Option (PowerSleepState Diagnostics)) (resumed : Bool)
    (preparing : Option Bool)
    (expected : Option (PowerSleepState Diagnostics)) :
    Option (PowerSleepState Diagnostics) :=
  if expected.any (· ≠ current) then none
  else some (current.next value resumed preparing)

theorem commitPowerSleep_none (current : PowerSleepState Diagnostics)
    (value : Option (PowerSleepState Diagnostics)) (resumed : Bool)
    (preparing : Option Bool) :
    commitPowerSleep current value resumed preparing none =
      some (current.next value resumed preparing) :=
  rfl

theorem commitPowerSleep_some (current : PowerSleepState Diagnostics)
    (value : Option (PowerSleepState Diagnostics)) (resumed : Bool)
    (preparing : Option Bool) (expected : PowerSleepState Diagnostics) :
    commitPowerSleep current value resumed preparing (some expected) =
      if expected = current then some (current.next value resumed preparing)
      else none := by
  by_cases same : expected = current <;> simp [commitPowerSleep, same]

end Commit

/-! ### Writers -/

/-- What a status query has read so far. -/
structure Query where
  /-- For the statements only: how many signals and resumes had been recorded
  when the query began, and when it has read the property. -/
  started : Nat
  seen : Option (Bool × Nat)
deriving DecidableEq, Repr

namespace Query

/-- The property, or what is taken for it where it cannot be read. -/
def preparing (query : Query) (assumed : Bool) : Bool :=
  (query.seen.map Prod.fst).getD assumed

def asOf (query : Query) : Nat :=
  (query.seen.map Prod.snd).getD query.started

end Query

structure Refresh (Diagnostics : Type) where
  before : PowerSleepState Diagnostics
  query : Query
deriving DecidableEq, Repr

structure Session (Diagnostics : Type) where
  powerSleep : PowerSleepState Diagnostics
  requested : Bool
  refresh : Option (Refresh Diagnostics)
  /-- The status queries of requests that are not answered yet. -/
  queries : List Query
  /-- For the statements only: how many signals and resumes, and how many
  resumes have been recorded. -/
  records : Nat
  resumes : Nat
  recorded : SleepOperation
  /-- For the statements only: the preparation has been replaced by a value
  that was read before the last record. -/
  rolledBack : Bool
deriving DecidableEq, Repr

inductive Event (Diagnostics : Type)
  /-- A `PrepareForSleep` signal, and whether it ends a sleep that the clock has
  not shown. -/
  | prepare (preparing resumes : Bool)
  /-- The clock shows a resume. -/
  | clock
  /-- A refresh is requested for another reason. -/
  | request
  | begin
  | see (preparing : Bool)
  | refreshed (result : Except String (PowerSleepState Diagnostics))
  | ask
  | read (index : Nat) (preparing : Bool)
  /-- The reply of a request that has succeeded. -/
  | publish (index : Nat) (state : PowerSleepState Diagnostics)
  | forget (index : Nat)
  /-- The tracker records an operation. -/
  | record (operation : SleepOperation)

namespace Session

variable {Diagnostics : Type} [DecidableEq Diagnostics]

def initial [Inhabited Diagnostics] : Session Diagnostics :=
  ⟨.empty, false, none, [], 0, 0, .default, false⟩

/-- Publish a state that has been read. -/
def replace (session : Session Diagnostics)
    (value : PowerSleepState Diagnostics)
    (expected : Option (PowerSleepState Diagnostics)) (asOf : Nat) :
    Session Diagnostics :=
  match commitPowerSleep session.powerSleep (some value) false none
      expected with
  | none => { session with requested := true }
  | some state => { session with
      powerSleep := state
      rolledBack := session.rolledBack ||
        (decide (asOf < session.records) &&
          state.preparingForSleep != session.powerSleep.preparingForSleep) }

/-- `record_resume` and `record_sleep_preparation` -/
def note (session : Session Diagnostics) (resumed preparing : Bool) :
    Session Diagnostics :=
  { session with
    powerSleep := (commitPowerSleep session.powerSleep none resumed
      (some preparing) none).getD session.powerSleep
    requested := true
    records := session.records + 1
    resumes := session.resumes + resumed.toNat }

def begin (session : Session Diagnostics) : Session Diagnostics :=
  if session.requested ∧ session.refresh.isNone then { session with
    requested := false
    refresh := some ⟨session.powerSleep, ⟨session.records, none⟩⟩ }
  else session

def see (session : Session Diagnostics) (preparing : Bool) :
    Session Diagnostics :=
  { session with refresh := session.refresh.map fun refresh =>
      { refresh with query := { refresh.query with
        seen := some (preparing, session.records) } } }

/-- The state that a refresh has read. -/
def Refresh.next [Inhabited Diagnostics] (refresh : Refresh Diagnostics) :
    Except String (PowerSleepState Diagnostics) → PowerSleepState Diagnostics
  | .ok state => { state with
      preparingForSleep :=
        refresh.query.preparing refresh.before.preparingForSleep }
  | .error error => .unavailable error refresh.before.preparingForSleep

/-- After a failure the preparation is the one from the start. -/
def Refresh.asOf (refresh : Refresh Diagnostics) :
    Except String (PowerSleepState Diagnostics) → Nat
  | .ok _ => refresh.query.asOf
  | .error _ => refresh.query.started

def refreshed [Inhabited Diagnostics] (session : Session Diagnostics)
    (result : Except String (PowerSleepState Diagnostics)) :
    Session Diagnostics :=
  match session.refresh with
  | none => session
  | some refresh =>
      ({ session with refresh := none }).replace
        (Refresh.next refresh result) (some refresh.before)
        (Refresh.asOf refresh result)

def publish (session : Session Diagnostics) (index : Nat)
    (state : PowerSleepState Diagnostics) : Session Diagnostics :=
  match session.queries[index]? with
  | none => session
  | some query =>
      ({ session with queries := session.queries.eraseIdx index }).replace
        { state with
          preparingForSleep := query.preparing state.preparingForSleep }
        none query.asOf

def step [Inhabited Diagnostics] (session : Session Diagnostics) :
    Event Diagnostics → Session Diagnostics
  | .prepare preparing resumes =>
      if !preparing && resumes then session.note true false
      else session.note false preparing
  | .clock => session.note true false
  | .request => { session with requested := true }
  | .begin => session.begin
  | .see preparing => session.see preparing
  | .refreshed result => session.refreshed result
  | .ask => { session with
      queries := session.queries ++ [⟨session.records, none⟩] }
  | .read index preparing => { session with
      queries := session.queries.modify index fun query =>
        { query with seen := some (preparing, session.records) } }
  | .publish index state => session.publish index state
  | .forget index => { session with
      queries := session.queries.eraseIdx index }
  | .record operation => { session with
      powerSleep := { session.powerSleep with operation := operation }
      recorded := operation }

/-! ### What is never rolled back -/

/-- What the published state has kept of the signals, the resumes and the
tracker. -/
structure Kept (session : Session Diagnostics) : Prop where
  generation : session.powerSleep.resumeGeneration = session.resumes
  operation : session.powerSleep.operation = session.recorded
  preparing : session.rolledBack = false
  fits : session.resumes ≤ u64Max

/-- No signal or resume has been recorded between the reading of a value and
its publication, or the value is the published one. -/
def Timely (session : Session Diagnostics) : Event Diagnostics → Prop
  | .prepare preparing resumes => preparing = false → resumes = true →
      session.powerSleep.resumeGeneration < u64Max
  | .clock => session.powerSleep.resumeGeneration < u64Max
  | .refreshed (.ok _) => ∀ refresh, session.refresh = some refresh →
      refresh.before = session.powerSleep →
      ∀ preparing stamp, refresh.query.seen = some (preparing, stamp) →
        stamp = session.records ∨
          preparing = session.powerSleep.preparingForSleep
  | .publish index state => ∀ query, session.queries[index]? = some query →
      query.asOf = session.records ∨
        query.preparing state.preparingForSleep =
          session.powerSleep.preparingForSleep
  | _ => True

theorem Kept.note {session : Session Diagnostics} (kept : Kept session)
    (resumed preparing : Bool)
    (counted : resumed = true →
      session.powerSleep.resumeGeneration < u64Max) :
    Kept (session.note resumed preparing) := by
  have fits : session.resumes + resumed.toNat ≤ u64Max := by
    cases resumed with
    | false => exact kept.fits
    | true => exact kept.generation ▸ counted rfl
  constructor
  · simp only [Session.note, commitPowerSleep_none, Option.getD_some,
      PowerSleepState.next_resumeGeneration]
    rw [kept.generation]
    exact saturatingAdd_eq fits
  · exact kept.operation
  · exact kept.preparing
  · exact fits

/-- A published value is kept where it is new enough or changes nothing. -/
theorem Kept.replace {session : Session Diagnostics} (kept : Kept session)
    (value : PowerSleepState Diagnostics)
    (expected : Option (PowerSleepState Diagnostics)) (asOf : Nat)
    (new : (∀ other, expected = some other →
        other = session.powerSleep) →
      session.records ≤ asOf ∨
        value.preparingForSleep = session.powerSleep.preparingForSleep) :
    Kept (session.replace value expected asOf) := by
  have generation : (session.powerSleep.next (some value) false
      none).resumeGeneration = session.resumes := by
    rw [PowerSleepState.next_resumeGeneration, kept.generation]
    exact saturatingAdd_eq kept.fits
  have held (met : ∀ other, expected = some other →
      other = session.powerSleep) :
      (session.rolledBack || (decide (asOf < session.records) &&
        (session.powerSleep.next (some value) false
          none).preparingForSleep !=
            session.powerSleep.preparingForSleep)) = false := by
    rcases new met with new | same
    · simp [kept.preparing, Nat.not_lt.mpr new]
    · simp [kept.preparing, same]
  unfold Session.replace
  cases expected with
  | none =>
      rw [commitPowerSleep_none]
      have held := held (fun _ never => nomatch never)
      exact ⟨generation, kept.operation, held, kept.fits⟩
  | some other =>
      rw [commitPowerSleep_some]
      by_cases same : other = session.powerSleep
      · rw [if_pos same]
        exact ⟨generation, kept.operation,
          held fun _ equal => (Option.some.inj equal).symm.trans same,
          kept.fits⟩
      · rw [if_neg same]
        exact ⟨kept.generation, kept.operation, kept.preparing, kept.fits⟩

theorem Kept.publish {session : Session Diagnostics} (kept : Kept session)
    (index : Nat) (state : PowerSleepState Diagnostics)
    (timely : session.Timely (.publish index state)) :
    Kept (session.publish index state) := by
  unfold Session.publish
  cases found : session.queries[index]? with
  | none => exact kept
  | some query =>
      have unanswered : Kept { session with
          queries := session.queries.eraseIdx index } :=
        ⟨kept.generation, kept.operation, kept.preparing, kept.fits⟩
      exact unanswered.replace _ none _ fun _ =>
        (timely query found).imp_left fun new => Nat.le_of_eq new.symm

theorem Kept.refreshed [Inhabited Diagnostics]
    {session : Session Diagnostics} (kept : Kept session)
    (result : Except String (PowerSleepState Diagnostics))
    (timely : session.Timely (.refreshed result)) :
    Kept (session.refreshed result) := by
  unfold Session.refreshed
  cases found : session.refresh with
  | none => exact kept
  | some refresh =>
      have ended : Kept { session with refresh := none } :=
        ⟨kept.generation, kept.operation, kept.preparing, kept.fits⟩
      apply ended.replace
      intro met
      have same : refresh.before = session.powerSleep := met _ rfl
      cases result with
      | error error =>
          right
          simp [Refresh.next, PowerSleepState.unavailable, same]
      | ok state =>
          cases seen : refresh.query.seen with
          | none =>
              right
              simp [Refresh.next, Query.preparing, seen, same]
          | some value =>
              rcases timely refresh found same value.1 value.2 seen with
                new | equal
              · left
                simp [Refresh.asOf, Query.asOf, seen, new]
              · right
                simp [Refresh.next, Query.preparing, seen, equal]

theorem Kept.step [Inhabited Diagnostics] {session : Session Diagnostics}
    (kept : Kept session) (event : Event Diagnostics)
    (timely : session.Timely event) : Kept (session.step event) := by
  cases event with
  | prepare preparing resumes =>
      by_cases ends : (!preparing && resumes) = true
      · rw [Session.step, if_pos ends]
        simp only [Bool.and_eq_true, Bool.not_eq_true'] at ends
        exact kept.note true false fun _ => timely ends.1 ends.2
      · rw [Session.step, if_neg ends]
        exact kept.note false preparing nofun
  | clock => exact kept.note true false fun _ => timely
  | begin =>
      simp only [Session.step, Session.begin]
      split
      · exact ⟨kept.generation, kept.operation, kept.preparing, kept.fits⟩
      · exact kept
  | refreshed result => exact kept.refreshed result timely
  | publish index state => exact kept.publish index state timely
  | record operation =>
      exact ⟨kept.generation, rfl, kept.preparing, kept.fits⟩
  | request | see | ask | read | forget =>
      exact ⟨kept.generation, kept.operation, kept.preparing, kept.fits⟩

/-- Nothing is rolled back in a run whose replies are timely. -/
theorem telemetry_kept [Inhabited Diagnostics]
    (events : List (Event Diagnostics))
    (timely : StepsMeet Session.step Timely initial events) :
    Kept (run Session.step (initial : Session Diagnostics) events) :=
  invariant_run (fun _ event kept timely => kept.step event timely)
    ⟨rfl, rfl, rfl, Nat.zero_le _⟩ timely

/-- The status of a sleep request is read while the system prepares, and its
answer is published after the resume. -/
def lateReply : List (Event Unit) :=
  [.prepare true false, .ask, .read 0 true, .prepare false true,
    .publish 0 .empty]

/-- A resumed system is marked as preparing for sleep. -/
theorem resume_rolled_back :
    (run Session.step initial lateReply).rolledBack = true ∧
      (run Session.step initial lateReply).powerSleep.preparingForSleep =
        true ∧
      (run Session.step initial lateReply).resumes = 1 := by
  decide +kernel

/-- The same answer, published before the resume. -/
theorem telemetry_kept_early :
    Kept (run Session.step (initial : Session Unit)
      [.prepare true false, .ask, .read 0 true, .publish 0 .empty,
        .prepare false true]) := by
  apply telemetry_kept
  refine ⟨nofun, trivial, trivial, ?_, ?_, trivial⟩
  · intro query found
    cases found
    exact .inl rfl
  · intro _ _
    decide +kernel

end Session

end BarDaemon.SleepTelemetry
