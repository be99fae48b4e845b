import BarDaemon.MachineIntegers
import BarDaemon.Signals
import BarDaemon.TransitionRuns

/-!
# The work area monitor

The monitor fetches the work area while somebody observes it, after every
invalidation and at its deadline.  An idle work area stays published until it
is invalidated.  A notification that comes during a fetch is kept for the next
one.
-/

namespace BarDaemon.WorkAreas

open TransitionRuns

/-- `RECOVERY_INTERVAL`, in milliseconds. -/
def recoveryInterval : Nat :=
  1000

/-- `RECONCILE_INTERVAL`, in milliseconds. -/
def reconcileInterval : Nat :=
  30000

/-! ### The refresh policy -/

inductive CacheAction
  | fetch
  | clear
  | wait
deriving DecidableEq, Repr

structure RefreshPolicy where
  dirty : Bool
  failed : Bool
  nextRefresh : Nat
deriving DecidableEq, Repr

namespace RefreshPolicy

def new (now : Nat) : RefreshPolicy :=
  ⟨true, false, now⟩

def action (policy : RefreshPolicy) (observed connected : Bool) (now : Nat) :
    CacheAction × RefreshPolicy :=
  if observed then
    (if policy.dirty ∨ policy.nextRefresh ≤ now then .fetch else .wait, policy)
  else
    -- Without events an idle work area cannot stay fresh.
    let dirty := policy.dirty || (policy.failed || !connected)
    (if dirty then .clear else .wait, { policy with dirty := dirty })

@[simp]
theorem action_nextRefresh (policy : RefreshPolicy)
    (observed connected : Bool) (now : Nat) :
    (policy.action observed connected now).2.nextRefresh =
      policy.nextRefresh := by
  cases observed with
  | true => rfl
  | false => rfl

def interval (failed connected : Bool) : Nat :=
  if failed || !connected then recoveryInterval else reconcileInterval

def completed (available connected : Bool) (now : Nat) : RefreshPolicy :=
  ⟨false, !available, now + interval (!available) connected⟩

def invalidated (policy : RefreshPolicy) : RefreshPolicy :=
  { policy with dirty := true }

end RefreshPolicy

/-! ### The monitor -/

/-- The work areas of the monitors are a value of any type. -/
structure WorkAreaState (Insets : Type) where
  available : Bool
  revision : Nat
  monitors : Insets
  error : Option String
deriving DecidableEq, Repr

namespace WorkAreaState

variable {Insets : Type} [Inhabited Insets]

def unavailable : WorkAreaState Insets :=
  ⟨false, 0, default, none⟩

/-- `observed_state` -/
def ofResult : Except String Insets → WorkAreaState Insets
  | .ok monitors => ⟨true, 0, monitors, none⟩
  | .error error => ⟨false, 0, default, some error⟩

end WorkAreaState

inductive Stage (Insets : Type)
  | looking
  /-- The demand has been read. -/
  | deciding (observed : Bool)
  /-- A fetch is due, and earlier invalidations are to be taken. -/
  | preparing
  /-- Which invalidations were there when the fetch began, and whether a permit
  was taken for it. -/
  | fetching (began : Nat) (took : Bool)
  | fetched (began : Nat) (result : Except String Insets)
  | publishing (began : Nat) (state : WorkAreaState Insets) (observed : Bool)
  | waiting (observed : Bool)
deriving DecidableEq

/-- The end of a fetch, and whether it failed or was disconnected. -/
structure Completion where
  time : Nat
  recovering : Bool
deriving DecidableEq, Repr

/-- How long a work area may stay after the end of its fetch. -/
def Completion.interval (completion : Completion) : Nat :=
  if completion.recovering then recoveryInterval else reconcileInterval

structure Monitor (Insets : Type) where
  now : Nat
  /-- The number of observers, and whether a change of it is unseen. -/
  demand : Nat
  unseen : Bool
  connected : Bool
  changes : Signal
  policy : RefreshPolicy
  stage : Stage Insets
  workarea : WorkAreaState Insets
  /-- For the statements only: which invalidations were there when the fetch of
  the published work area began. -/
  source : Nat
  /-- For the statements only: the last fetch that was not given up. -/
  completion : Option Completion
deriving DecidableEq

inductive Event (Insets : Type)
  | observe
  | leave
  | invalidate
  /-- Others may come between a transition and its notification, which is an
  invalidation. -/
  | connect (connected : Bool)
  | elapse (time : Nat)
  /-- The demand is read at the head of the loop. -/
  | look
  | decide
  | begin
  | answer (result : Except String Insets)
  /-- A change of the demand is seen during the fetch. -/
  | glance
  | complete
  | publish
  /-- Any of the branches that are ready ends the wait. -/
  | changed
  | timer
  | demanded

namespace Monitor

variable {Insets : Type} [Inhabited Insets] [DecidableEq Insets]

def initial (now : Nat) : Monitor Insets :=
  ⟨now, 0, false, false, .quiet, .new now, .looking, .unavailable, 0, none⟩

/-- `update_work_area` -/
def updateWorkArea (monitor : Monitor Insets) (began : Nat)
    (state : WorkAreaState Insets) : Monitor Insets :=
  let value := { state with revision := monitor.workarea.revision }
  { monitor with
    source := began
    workarea := if value = monitor.workarea then monitor.workarea
      else { value with
        revision := saturatingAdd value.revision 1 } }

def look (monitor : Monitor Insets) : Monitor Insets :=
  match monitor.stage with
  | .looking => { monitor with
      unseen := false
      stage := .deciding (decide (0 < monitor.demand)) }
  | _ => monitor

def act (monitor : Monitor Insets) : Monitor Insets :=
  match monitor.stage with
  | .deciding observed =>
      let (action, policy) :=
        monitor.policy.action observed monitor.connected monitor.now
      { monitor with
        policy := policy
        stage := match action with
          | .fetch => .preparing
          | .clear => .publishing 0 .unavailable observed
          | .wait => .waiting observed }
  | _ => monitor

def prepare (monitor : Monitor Insets) : Monitor Insets :=
  match monitor.stage with
  | .preparing => { monitor with
      changes := monitor.changes.take
      stage := .fetching monitor.changes.raised monitor.changes.pending }
  | _ => monitor

def answer (monitor : Monitor Insets) (result : Except String Insets) :
    Monitor Insets :=
  match monitor.stage with
  | .fetching began _ => { monitor with stage := .fetched began result }
  | _ => monitor

/-- Nobody observes any more, and the fetch is given up. -/
def glance (monitor : Monitor Insets) : Monitor Insets :=
  match monitor.stage with
  | .fetching _ _ =>
      if monitor.unseen then { monitor with
        unseen := false
        stage := if monitor.demand = 0 then .looking else monitor.stage }
      else monitor
  | _ => monitor

def complete (monitor : Monitor Insets) : Monitor Insets :=
  match monitor.stage with
  | .fetched began result =>
      let state := WorkAreaState.ofResult result
      { monitor with
        policy := .completed state.available monitor.connected monitor.now
        stage := .publishing began state true
        completion := some
          ⟨monitor.now, !state.available || !monitor.connected⟩ }
  | _ => monitor

def publish (monitor : Monitor Insets) : Monitor Insets :=
  match monitor.stage with
  | .publishing began state observed =>
      { monitor.updateWorkArea began state with stage := .waiting observed }
  | _ => monitor

def notified (monitor : Monitor Insets) : Monitor Insets :=
  match monitor.stage with
  | .waiting _ =>
      if monitor.changes.pending then { monitor with
        changes := monitor.changes.take
        policy := monitor.policy.invalidated
        stage := .looking }
      else monitor
  | _ => monitor

def expire (monitor : Monitor Insets) : Monitor Insets :=
  match monitor.stage with
  | .waiting true =>
      if monitor.policy.nextRefresh ≤ monitor.now then { monitor with
        policy := monitor.policy.invalidated
        stage := .looking }
      else monitor
  | _ => monitor

def demanded (monitor : Monitor Insets) : Monitor Insets :=
  match monitor.stage with
  | .waiting _ =>
      if monitor.unseen then
        { monitor with unseen := false, stage := .looking }
      else monitor
  | _ => monitor

def step (monitor : Monitor Insets) : Event Insets → Monitor Insets
  | .observe =>
      { monitor with demand := monitor.demand + 1, unseen := true }
  | .leave =>
      { monitor with demand := monitor.demand - 1, unseen := true }
  | .invalidate => { monitor with changes := monitor.changes.raise }
  | .connect connected => { monitor with connected := connected }
  | .elapse time => { monitor with now := monitor.now + time }
  | .look => monitor.look
  | .decide => monitor.act
  | .begin => monitor.prepare
  | .answer result => monitor.answer result
  | .glance => monitor.glance
  | .complete => monitor.complete
  | .publish => monitor.publish
  | .changed => monitor.notified
  | .timer => monitor.expire
  | .demanded => monitor.demanded

end Monitor

/-! ### Freshness -/

namespace Monitor

variable {Insets : Type}

/-- The published work area has been fetched after every invalidation that has
been consumed. -/
def Fresh (monitor : Monitor Insets) : Prop :=
  monitor.workarea.available = true →
    monitor.changes.taken ≤ monitor.source

/-- An old work area is to be replaced. -/
def Tracked (monitor : Monitor Insets) : Prop :=
  monitor.policy.dirty = true ∨ monitor.Fresh

/-- What is known of the invalidations at each place. -/
def Current (monitor : Monitor Insets) : Prop :=
  match monitor.stage with
  | .looking | .deciding _ | .preparing => monitor.Tracked
  | .fetching began took =>
      monitor.changes.taken ≤ began ∧ (took = true ∨ monitor.Tracked)
  | .fetched began _ => monitor.changes.taken ≤ began
  | .publishing began state _ =>
      state.available = true → monitor.changes.taken ≤ began
  | .waiting _ => monitor.Fresh

/-- A fetch is not given up after it alone has taken an invalidation. -/
def Keeps (monitor : Monitor Insets) : Event Insets → Prop
  | .glance => match monitor.stage with
      | .fetching _ took => monitor.unseen = true → monitor.demand = 0 →
          monitor.policy.dirty = true ∨ took = false
      | _ => True
  | _ => True

variable {monitor : Monitor Insets}

@[simp]
theorem updateWorkArea_available [DecidableEq Insets] (began : Nat)
    (state : WorkAreaState Insets) :
    (monitor.updateWorkArea began state).workarea.available =
      state.available := by
  simp only [updateWorkArea]
  split
  · next same => rw [← same]
  · rfl

theorem Current.act [Inhabited Insets] (current : monitor.Current) :
    monitor.act.Current := by
  unfold Monitor.act
  split
  · next observed deciding =>
      simp only [Current, deciding] at current
      cases observed with
      | true =>
          simp only [RefreshPolicy.action, if_true]
          by_cases due : monitor.policy.dirty = true ∨
              monitor.policy.nextRefresh ≤ monitor.now
          · simp only [if_pos due]
            exact current
          · simp only [if_neg due]
            exact current.resolve_left fun dirty => due (.inl dirty)
      | false =>
          simp only [RefreshPolicy.action, if_false, Bool.false_eq_true]
          by_cases dirty : (monitor.policy.dirty ||
              (monitor.policy.failed || !monitor.connected)) = true
          · simp only [dirty, if_true]
            exact nofun
          · simp only [if_neg dirty]
            refine current.resolve_left fun marked => dirty ?_
            simp [marked]
  · exact current

theorem Current.prepare (current : monitor.Current) :
    monitor.prepare.Current := by
  unfold Monitor.prepare
  split
  · next preparing =>
      simp only [Current, preparing] at current
      refine ⟨Nat.le_refl _, ?_⟩
      cases pending : monitor.changes.pending with
      | true => exact .inl rfl
      | false =>
          refine .inr (current.imp id fun fresh available => ?_)
          simpa [← Signal.taken_eq_raised pending] using fresh available
  · exact current

theorem Current.glance (current : monitor.Current)
    (keeps : monitor.Keeps .glance) : monitor.glance.Current := by
  unfold Monitor.glance
  split
  · next began took fetching =>
      simp only [Keeps, fetching] at keeps
      split
      · next unseen =>
          by_cases alone : monitor.demand = 0
          · simp only [Current, fetching, alone, if_true] at current ⊢
            rcases keeps unseen alone with dirty | untaken
            · exact .inl dirty
            · exact current.2.resolve_left (by simp [untaken])
          · simp only [if_neg alone, fetching]
            simp only [Current, fetching] at current
            exact current
      · exact current
  · exact current

theorem Current.publish [DecidableEq Insets] (current : monitor.Current) :
    monitor.publish.Current := by
  unfold Monitor.publish
  split
  · next began state observed publishing =>
      simp only [Current, publishing] at current
      intro available
      apply current
      rw [← updateWorkArea_available began state]
      exact available
  · exact current

/-- The step lemma. -/
theorem Current.step [Inhabited Insets] [DecidableEq Insets]
    (current : monitor.Current) {event : Event Insets}
    (keeps : monitor.Keeps event) : (monitor.step event).Current := by
  cases event with
  | observe => exact current
  | leave => exact current
  | invalidate => exact current
  | connect connected => exact current
  | elapse time => exact current
  | look =>
      simp only [Monitor.step, Monitor.look]
      split
      · next looking =>
          simp only [Current, looking] at current
          exact current
      · exact current
  | decide => exact current.act
  | begin => exact current.prepare
  | answer result =>
      simp only [Monitor.step, Monitor.answer]
      split
      · next began took fetching =>
          simp only [Current, fetching] at current
          exact current.1
      · exact current
  | glance => exact current.glance keeps
  | complete =>
      simp only [Monitor.step, Monitor.complete]
      split
      · next began result fetched =>
          simp only [Current, fetched] at current
          exact fun _ => current
      · exact current
  | publish => exact current.publish
  | changed =>
      simp only [Monitor.step, Monitor.notified]
      split
      · split
        · exact .inl rfl
        · exact current
      · exact current
  | timer =>
      simp only [Monitor.step, Monitor.expire]
      split
      · split
        · exact .inl rfl
        · exact current
      · exact current
  | demanded =>
      simp only [Monitor.step, Monitor.demanded]
      split
      · next observed waiting =>
          split
          · simp only [Current, waiting] at current
            exact .inr current
          · exact current
      · exact current

/-! ### Deadlines -/

/-- The deadline after the last fetch, which is the start before the first. -/
def Timed (monitor : Monitor Insets) : Prop :=
  match monitor.completion with
  | none => monitor.policy.nextRefresh ≤ monitor.now
  | some completion =>
      monitor.policy.nextRefresh = completion.time + completion.interval

/-- A change of the demand is known or unseen, and an observed work area has
been fetched. -/
def Watches (monitor : Monitor Insets) : Prop :=
  match monitor.stage with
  | .looking => True
  | .deciding observed =>
      monitor.unseen = true ∨ observed = decide (0 < monitor.demand)
  | .preparing | .fetching _ _ | .fetched _ _ =>
      monitor.unseen = true ∨ 0 < monitor.demand
  | .publishing _ _ observed | .waiting observed =>
      (monitor.unseen = true ∨ observed = decide (0 < monitor.demand)) ∧
        (observed = true → monitor.completion.isSome = true)

theorem Timed.step [Inhabited Insets] [DecidableEq Insets]
    (timed : monitor.Timed) (event : Event Insets) :
    (monitor.step event).Timed := by
  cases event with
  | observe => exact timed
  | leave => exact timed
  | invalidate => exact timed
  | connect connected => exact timed
  | elapse time =>
      simp only [Timed, Monitor.step] at timed ⊢
      cases completed : monitor.completion with
      | none =>
          simp only [completed] at timed
          exact Nat.le_trans timed (Nat.le_add_right _ _)
      | some completion =>
          simp only [completed] at timed
          exact timed
  | look =>
      simp only [Monitor.step, Monitor.look]
      split <;> exact timed
  | decide =>
      simp only [Monitor.step, Monitor.act]
      split
      · simpa only [Timed, RefreshPolicy.action_nextRefresh] using timed
      · exact timed
  | begin =>
      simp only [Monitor.step, Monitor.prepare]
      split <;> exact timed
  | answer result =>
      simp only [Monitor.step, Monitor.answer]
      split <;> exact timed
  | glance =>
      simp only [Monitor.step, Monitor.glance]
      split
      · split <;> exact timed
      · exact timed
  | complete =>
      simp only [Monitor.step, Monitor.complete]
      split
      · exact rfl
      · exact timed
  | publish =>
      simp only [Monitor.step, Monitor.publish]
      split <;> exact timed
  | changed =>
      simp only [Monitor.step, Monitor.notified]
      split
      · split <;> exact timed
      · exact timed
  | timer =>
      simp only [Monitor.step, Monitor.expire]
      split
      · split <;> exact timed
      · exact timed
  | demanded =>
      simp only [Monitor.step, Monitor.demanded]
      split
      · split <;> exact timed
      · exact timed

theorem Watches.act [Inhabited Insets] (watches : monitor.Watches)
    (timed : monitor.Timed) : monitor.act.Watches := by
  unfold Monitor.act
  split
  · next observed deciding =>
      simp only [Watches, deciding] at watches
      cases observed with
      | true =>
          have demanded : monitor.unseen = true ∨ 0 < monitor.demand :=
            watches.imp id fun same => of_decide_eq_true same.symm
          simp only [RefreshPolicy.action, if_true]
          by_cases due : monitor.policy.dirty = true ∨
              monitor.policy.nextRefresh ≤ monitor.now
          · simp only [if_pos due]
            exact demanded
          · simp only [if_neg due]
            refine ⟨watches, fun _ => ?_⟩
            -- Before the first fetch the deadline has passed.
            cases completed : monitor.completion with
            | some completion => rfl
            | none =>
                simp only [Timed, completed] at timed
                exact absurd timed fun passed => due (.inr passed)
      | false =>
          simp only [RefreshPolicy.action, if_false, Bool.false_eq_true]
          by_cases dirty : (monitor.policy.dirty ||
              (monitor.policy.failed || !monitor.connected)) = true
          · simp only [dirty, if_true]
            exact ⟨watches, nofun⟩
          · simp only [if_neg dirty]
            exact ⟨watches, nofun⟩
  · exact watches

/-- A change of the demand is unseen at first. -/
theorem Watches.changed (watches : monitor.Watches) (demand : Nat) :
    ({ monitor with demand := demand, unseen := true } :
      Monitor Insets).Watches := by
  simp only [Watches] at watches ⊢
  split <;> simp_all

theorem Watches.glance (watches : monitor.Watches) :
    monitor.glance.Watches := by
  unfold Monitor.glance
  split
  · next began took fetching =>
      split
      · by_cases alone : monitor.demand = 0
        · simp only [Watches, alone, if_true]
        · simp only [Watches, if_neg alone, fetching]
          exact .inr (Nat.pos_of_ne_zero alone)
      · exact watches
  · exact watches

theorem Watches.step [Inhabited Insets] [DecidableEq Insets]
    (watches : monitor.Watches) (timed : monitor.Timed)
    (event : Event Insets) : (monitor.step event).Watches := by
  cases event with
  | observe => exact watches.changed _
  | leave => exact watches.changed _
  | invalidate => exact watches
  | connect connected => exact watches
  | elapse time => exact watches
  | look =>
      simp only [Monitor.step, Monitor.look]
      split
      · exact .inr rfl
      · exact watches
  | decide => exact watches.act timed
  | begin =>
      simp only [Monitor.step, Monitor.prepare]
      split
      · next preparing =>
          simp only [Watches, preparing] at watches
          exact watches
      · exact watches
  | answer result =>
      simp only [Monitor.step, Monitor.answer]
      split
      · next began took fetching =>
          simp only [Watches, fetching] at watches
          exact watches
      · exact watches
  | glance => exact watches.glance
  | complete =>
      simp only [Monitor.step, Monitor.complete]
      split
      · next began result fetched =>
          simp only [Watches, fetched] at watches
          exact ⟨watches.imp id fun demanded => (decide_eq_true demanded).symm,
            fun _ => rfl⟩
      · exact watches
  | publish =>
      simp only [Monitor.step, Monitor.publish]
      split
      · next began state observed publishing =>
          simp only [Watches, publishing] at watches
          exact watches
      · exact watches
  | changed =>
      simp only [Monitor.step, Monitor.notified]
      split
      · split
        · exact trivial
        · exact watches
      · exact watches
  | timer =>
      simp only [Monitor.step, Monitor.expire]
      split
      · split
        · exact trivial
        · exact watches
      · exact watches
  | demanded =>
      simp only [Monitor.step, Monitor.demanded]
      split
      · split
        · exact trivial
        · exact watches
      · exact watches

/-! ### Runs -/

/-- A fetch follows within the deadline, unless the monitor is to look at the
demand again at once. -/
def Scheduled [Inhabited Insets] [DecidableEq Insets]
    (monitor : Monitor Insets) : Prop :=
  monitor.unseen = true ∨
    (∃ completion, monitor.completion = some completion ∧
      monitor.policy.nextRefresh ≤ completion.time + completion.interval) ∧
    ∀ time, monitor.policy.nextRefresh ≤ monitor.now + time →
      (run step monitor [.elapse time, .timer, .look, .decide]).stage =
        .preparing

theorem Watches.scheduled [Inhabited Insets] [DecidableEq Insets]
    (watches : monitor.Watches) (timed : monitor.Timed) {observed : Bool}
    (waiting : monitor.stage = .waiting observed)
    (demanded : 0 < monitor.demand) : monitor.Scheduled := by
  simp only [Watches, waiting] at watches
  obtain ⟨unseen | same, completed⟩ := watches
  · exact .inl unseen
  have observing : observed = true := same.trans (decide_eq_true demanded)
  subst observing
  obtain ⟨completion, known⟩ := Option.isSome_iff_exists.mp (completed rfl)
  refine .inr ⟨⟨completion, known, ?_⟩, ?_⟩
  · simp only [Timed, known] at timed
    exact Nat.le_of_eq timed
  · intro time due
    simp only [run_cons, run_nil, Monitor.step, expire, waiting, due, if_true,
      look, demanded, decide_true]
    unfold Monitor.act
    simp [RefreshPolicy.action, RefreshPolicy.invalidated]

theorem current_initial [Inhabited Insets] (now : Nat) :
    (initial now : Monitor Insets).Current :=
  .inl rfl

/-- A fetch that an observer waits for takes an invalidation and is given up,
after which nobody knows that the published work area is old. -/
theorem invalidation_lost :
    ∃ monitor : Monitor Nat,
      monitor = run step (initial 0)
        [.connect true, .invalidate, .observe, .look, .decide, .begin,
          .answer (.ok 1), .complete, .publish, .leave, .demanded, .look,
          .decide, .elapse 30000, .observe, .demanded, .invalidate, .look,
          .decide, .begin, .leave, .glance, .look, .decide] ∧
      monitor.stage = .waiting false ∧ monitor.connected = true ∧
      monitor.changes.pending = false ∧
      monitor.workarea = ⟨true, 1, 1, none⟩ ∧
      monitor.source < monitor.changes.taken :=
  ⟨_, rfl, by decide⟩

/-- Whenever the monitor waits, the published work area has been fetched after
every invalidation that has been consumed, if every fetch that is given up
leaves the mark of an invalidation.  While observed it always fetches in
time. -/
theorem waits_fresh [Inhabited Insets] [DecidableEq Insets] (now : Nat)
    (events : List (Event Insets)) {observed : Bool}
    (waiting : (run step (initial now) events).stage = .waiting observed) :
    (StepsMeet step Keeps (initial now) events →
      (run step (initial now) events).Fresh) ∧
    (0 < (run step (initial now) events).demand →
      (run step (initial now) events).Scheduled) := by
  have timed : (run step (initial now) events).Timed ∧
      (run step (initial now) events).Watches := by
    have always : StepsMeet step (fun _ _ => True)
        (initial now : Monitor Insets) events :=
      stepsMeet_of_forall (fun _ _ => trivial) _ _
    exact @invariant_run _ _ _ _ (fun monitor => monitor.Timed ∧
      monitor.Watches) (fun _ event known _ => ⟨known.1.step event,
        known.2.step known.1 event⟩) _ ⟨Nat.le_refl now, trivial⟩ _ always
  constructor
  · intro keeps
    have current : (run step (initial now) events).Current :=
      @invariant_run _ _ _ _ Current (fun _ _ current keeps =>
        current.step keeps) _ (current_initial now) _ keeps
    simpa only [Current, waiting] using current
  · exact fun demanded => timed.2.scheduled timed.1 waiting demanded

/-- The first fetch of an observer. -/
theorem waits_fresh_first :
    (run step (initial 0 : Monitor Nat)
      [.connect true, .invalidate, .observe, .look, .decide, .begin,
        .answer (.ok 1), .complete, .publish]).Fresh ∧
    (run step (initial 0 : Monitor Nat)
      [.connect true, .invalidate, .observe, .look, .decide, .begin,
        .answer (.ok 1), .complete, .publish]).Scheduled := by
  have fresh := waits_fresh 0
    [.connect true, .invalidate, .observe, .look, .decide, .begin,
      .answer (.ok 1), .complete, .publish]
    (rfl : (run step (initial 0 : Monitor Nat) _).stage = .waiting true)
  exact ⟨fresh.1 (by simp [StepsMeet, Keeps]), fresh.2 (by decide)⟩

end Monitor

end BarDaemon.WorkAreas
