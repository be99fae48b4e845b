import BarDaemon.SleepOutcomes
import Mathlib.Data.List.Induction

/-!
# Runs of sleep requests

Every event is lawful in every state that is reached: it alters the operation
that it belongs to, in the ways that are open to it.
-/

namespace BarDaemon.SleepOutcomes

open TransitionRuns

namespace Session

variable {session : Session}

/-! ### Admission -/

/-- What the admission of a request needs, and what it makes. -/
structure Admits (session after : Session) (action : Action) : Prop where
  free : session.performing = none
  ready : session.operation.phase.pending = false
  tracked : after.tracked = session.tracked.start action session.now
  performing : after.performing = some (.sleep (session.serial + 1)
    (saturatingAdd session.operation.id 1) action .preflight)
  serial : after.serial = session.serial + 1

theorem request_cases (session : Session) (action : Action) :
    session.request action = session ∨
      session.Admits (session.request action) action := by
  unfold request
  split
  · next admitted =>
      refine .inr ⟨admitted.1, ?_, rfl, rfl, rfl⟩
      have ready := admitted.2
      rw [Tracked.readyForNewRequest_eq, Bool.not_eq_true'] at ready
      exact ready
  · exact .inl rfl

theorem tracking_serial (tracked : Tracked) :
    (session.tracking tracked).serial = session.serial :=
  rfl

theorem tracking_performing (tracked : Tracked) :
    (session.tracking tracked).performing = session.performing :=
  rfl

/-- Nothing else counts as a request. -/
theorem step_serial (session : Session) {event : Event}
    (admits : ∀ action, event ≠ .request action) :
    (session.step event).serial = session.serial := by
  cases event with
  | request action => exact absurd rfl (admits action)
  | lock => simp only [step]; split <;> rfl
  | unlock => simp only [step]; split <;> rfl
  | retain fd => simp only [step, retain]; split <;> rfl
  | refuse error => simp only [step, refuse]; split <;> rfl
  | dispatch => simp only [step, dispatch]; split <;> rfl
  | answer error => simp only [step, answer]; split <;> rfl
  | finish => simp only [step, finish]; split <;> rfl
  | release serial =>
      simp only [step, release, finish]
      repeat' split
      all_goals rfl
  | expire => exact tracking_serial _
  | _ => rfl

/-! ### Steps -/

/-- The events that end the preflight of the current request. -/
def Ends (session : Session) (event : Event) : Prop :=
  (∃ error, event = .refuse error) ∨ event = .dispatch ∨
    (∃ error, event = .answer error) ∨ event = .finish ∨
      event = .release session.serial

/-- Before it is dispatched, only the request itself alters its operation. -/
theorem alters_ends {event : Event} {operation : SleepOperation}
    (alters : Alters session event operation)
    (requested : session.operation.phase = .requested)
    (fresh : session.operation.job = none) : session.Ends event := by
  cases alters with
  | refused error performs phase => exact .inl ⟨error, rfl⟩
  | dispatched performs phase => exact .inr (.inl rfl)
  | accepted performs phase => exact .inr (.inr (.inl ⟨none, rfl⟩))
  | failed error text performs => exact .inr (.inr (.inl ⟨some error, rfl⟩))
  | lost error text performs phase =>
      exact .inr (.inr (.inl ⟨some error, rfl⟩))
  | cancelled event own text phase =>
      exact .inr (.inr (.inr (own.imp And.left id)))
  | interrupted event own text phase =>
      exact .inr (.inr (.inr (own.imp And.left id)))
  | prepared preparing phase => simp [requested, Phase.dispatched] at phase
  | created path phase free => simp [requested, Phase.dispatched] at phase
  | done path job phase => simp [fresh] at job
  | removed path result text job phase => simp [fresh] at job
  | unwatched event own text phase =>
      simp [requested, Phase.dispatched] at phase

/-- A request that is under way afterwards was under way before, and in its
preflight only if nothing has ended that. -/
theorem step_performing {event : Event}
    (admits : ∀ action, event ≠ .request action)
    {serial guardId : Nat} {action : Action} {stage : Stage}
    (sound : session.Sound)
    (performing : (session.step event).performing =
      some (.sleep serial guardId action stage)) :
    ∃ earlier, session.performing =
        some (.sleep serial guardId action earlier) ∧
      (stage = .preflight → earlier = .preflight ∧
        ((session.step event).operation = session.operation ∨
          ¬ session.Ends event)) := by
  cases event with
  | request action => exact absurd rfl (admits action)
  | lock =>
      simp only [step] at performing ⊢
      split at performing
      · cases performing
      · next held =>
          rw [if_neg held]
          exact ⟨stage, performing, fun same => ⟨same, .inl rfl⟩⟩
  | unlock =>
      simp only [step] at performing ⊢
      split at performing
      · cases performing
      · next held =>
          rw [if_neg held]
          exact ⟨stage, performing, fun same => ⟨same, .inl rfl⟩⟩
  | retain fd =>
      simp only [step, retain] at performing
      refine ⟨stage, ?_, fun same => ⟨same, .inr (by simp [Ends])⟩⟩
      split at performing <;> exact performing
  | refuse error =>
      simp only [step, refuse] at performing ⊢
      split at performing
      · next before =>
          cases performing
          exact ⟨.preflight, before, fun never => by cases never⟩
      · next unprepared =>
          refine ⟨stage, performing, fun same => ?_⟩
          subst same
          exact absurd performing (unprepared _ _ _)
  | dispatch =>
      simp only [step, dispatch] at performing ⊢
      split at performing
      · next before =>
          cases performing
          exact ⟨.preflight, before, fun never => by cases never⟩
      · next unprepared =>
          refine ⟨stage, performing, fun same => ?_⟩
          subst same
          exact absurd performing (unprepared _ _ _)
  | answer error =>
      simp only [step, answer] at performing ⊢
      split at performing
      · next before =>
          cases performing
          exact ⟨.dispatched, before, fun never => by cases never⟩
      · next undispatched =>
          exact ⟨stage, performing, fun same => ⟨same, .inl rfl⟩⟩
  | finish =>
      simp only [step, finish] at performing
      split at performing
      · cases performing
      · next idle => exact absurd performing (idle _ _ _ _)
  | release other =>
      simp only [step, release, finish] at performing
      split at performing
      · next current id' action' stage' before =>
          split at performing
          · cases performing
          · next different =>
              have same : session.performing =
                  some (.sleep serial guardId action stage) := by
                split at performing
                · exact performing
                · exact performing
              refine ⟨stage, same, fun preflight => ⟨preflight, .inr ?_⟩⟩
              obtain ⟨rfl, -⟩ := sound.performing _ _ _ _ before
              simpa [Ends] using fun same => different same.symm
      · next idle =>
          split at performing
          · exact absurd performing (idle _ _ _ _)
          · exact absurd performing (idle _ _ _ _)
  | expire =>
      have kept : (session.step .expire).performing = session.performing :=
        tracking_performing _
      exact ⟨stage, kept.symm.trans performing, fun same =>
        ⟨same, .inr (by simp [Ends])⟩⟩
  | _ => exact ⟨stage, performing, fun same =>
      ⟨same, .inr (by simp [Ends])⟩⟩

theorem modify_lease {tracked : Tracked}
    {update : SleepOperation → SleepOperation} {lease : Lease}
    (held : (tracked.modify update).lease = some lease) :
    tracked.lease = some lease ∧
      (tracked.modify update).operation.phase.terminal = false := by
  simp only [Tracked.modify] at held ⊢
  split at held
  · cases held
  · next going => exact ⟨held, by simpa using going⟩

theorem retainLease_operation (tracked : Tracked) (lease : Lease) :
    (tracked.retainLease lease).operation = tracked.operation := by
  simp only [Tracked.retainLease]
  split <;> rfl

/-- A step of the tracker takes no lease. -/
def Spares (session : Session) (tracked : Tracked) : Prop :=
  ∀ lease, tracked.lease = some lease →
    session.tracked.lease = some lease ∧
      (tracked.operation = session.operation ∨
        tracked.operation.phase.terminal = false)

theorem spares_same : session.Spares session.tracked :=
  fun _ held => ⟨held, .inl rfl⟩

theorem spares_modify (update : SleepOperation → SleepOperation) :
    session.Spares (session.tracked.modify update) :=
  fun _ held => ⟨(modify_lease held).1, .inr (modify_lease held).2⟩

theorem spares_ite {condition : Prop} [Decidable condition]
    {first second : Tracked} (yes : session.Spares first)
    (no : session.Spares second) :
    session.Spares (if condition then first else second) := by
  split
  · exact yes
  · exact no

theorem spares_finish : session.Spares session.finish.tracked := by
  simp only [finish]
  split
  · exact spares_modify _
  · exact spares_same

/-- A lease that is held afterwards was held before, unless the request has
just obtained it. -/
theorem step_lease {event : Event}
    (admits : ∀ action, event ≠ .request action)
    (retains : ∀ fd, event ≠ .retain fd) :
    session.Spares (session.step event).tracked := by
  cases event with
  | request action => exact absurd rfl (admits action)
  | retain fd => exact absurd rfl (retains fd)
  | lock =>
      simp only [step]
      split <;> exact spares_same
  | unlock =>
      simp only [step]
      split <;> exact spares_same
  | refuse error =>
      simp only [step, refuse]
      split
      · exact spares_ite (spares_modify _) spares_same
      · exact spares_same
  | dispatch =>
      simp only [step, dispatch]
      split
      · exact spares_modify _
      · exact spares_same
  | answer error =>
      simp only [step, answer]
      split
      · cases error with
        | none => exact spares_modify _
        | some error => exact spares_modify _
      · exact spares_same
  | finish => exact spares_finish
  | release serial =>
      simp only [step, release]
      split
      · split
        · exact spares_finish
        · split
          · exact spares_modify _
          · exact spares_same
      · split
        · exact spares_modify _
        · exact spares_same
  | prepared preparing => exact spares_modify _
  | jobNew path unit => exact spares_modify _
  | jobRemoved path unit result => exact spares_modify _
  | lostMonitor reason => exact spares_modify _
  | elapse time => exact spares_same
  | expire =>
      have stepped : session.step .expire =
          session.tracking (session.tracked.expire session.now) := rfl
      rw [stepped]
      rcases session.tracked.expire_cases session.now with
        same | ⟨reason, lost⟩
      · rw [same]
        exact spares_same
      · rw [lost]
        exact spares_modify _

/-- A lease is obtained by the request that is under way. -/
theorem Sound.retain (sound : session.Sound) {fd : Nat} {lease : Lease}
    (held : (session.retain fd).tracked.lease = some lease) :
    lease.owner = session.serial ∧
      (session.retain fd).operation.phase.pending = true := by
  simp only [Session.retain] at held ⊢
  split at held
  · next serial guardId action performing =>
      obtain ⟨rfl, -, requested⟩ := sound.performing _ _ _ _ performing
      simp only [tracking_operation, retainLease_operation]
      refine ⟨?_, by
        have requested : session.tracked.operation.phase = .requested :=
          requested rfl
        simp [Phase.pending, requested]⟩
      simp only [tracking, Tracked.retainLease] at held
      split at held
      · cases held
        rfl
      · exact (sound.lease lease held).1
  · exact sound.lease lease held

theorem Admits.sound {after : Session} {action : Action}
    (admits : session.Admits after action) (sound : session.Sound) :
    after.Sound := by
  have requested : after.operation = ⟨saturatingAdd session.operation.id 1,
      some action, .requested, none, none⟩ := by
    rw [operation, admits.tracked]
    rfl
  constructor
  · rw [requested, admits.serial, sound.id]
    simp only [idOf, saturatingAdd]
    omega
  · intro serial guardId action stage performing
    rw [admits.performing] at performing
    cases performing
    rw [requested, admits.serial]
    exact ⟨rfl, rfl, fun _ => rfl⟩
  · rw [requested]
    exact fun _ => rfl
  · rw [admits.tracked]
    intro fd never
    cases never

/-- The step lemma. -/
theorem Sound.step (sound : session.Sound) (few : session.serial ≤ u64Max)
    (event : Event) : (session.step event).Sound := by
  by_cases admits : ∀ action, event ≠ .request action
  · have alters := step_alters sound few admits
    have serial := step_serial session admits
    constructor
    · rw [serial, ← sound.id]
      rcases alters with same | alters
      · rw [same]
      · exact (alters_id alters).1
    · intro other guardId action stage performing
      obtain ⟨earlier, before, preflight⟩ :=
        step_performing admits sound performing
      obtain ⟨rfl, rfl, requested⟩ := sound.performing _ _ _ _ before
      refine ⟨serial.symm, ?_, fun same => ?_⟩
      · rcases alters with same | alters
        · rw [same]
        · exact (alters_id alters).1.symm
      · obtain ⟨rfl, unended⟩ := preflight same
        have requested := requested rfl
        rcases alters with same | alters
        · rw [same]
          exact requested
        · rcases unended with same | unended
          · rw [same]
            exact requested
          · exact absurd (alters_ends alters requested (sound.fresh requested))
              unended
    · intro requested
      rcases alters with same | alters
      · rw [same] at requested ⊢
        exact sound.fresh requested
      · exact absurd requested (alters_requested alters)
    · intro lease held
      rw [serial]
      by_cases retains : ∀ fd, event ≠ .retain fd
      · obtain ⟨before, open'⟩ := step_lease admits retains lease held
        obtain ⟨owner, pending⟩ := sound.lease lease before
        refine ⟨owner, ?_⟩
        rcases alters with same | alters
        · rw [same]
          exact pending
        · rcases open' with same | open'
          · have same : (session.step event).operation = session.operation :=
              same
            rw [same]
            exact pending
          · exact alters_pending alters open'
      · simp only [not_forall, not_not] at retains
        obtain ⟨fd, rfl⟩ := retains
        exact sound.retain held
  · simp only [not_forall, not_not] at admits
    obtain ⟨action, rfl⟩ := admits
    rcases request_cases session action with same | admits
    · rw [Session.step, same]
      exact sound
    · exact admits.sound sound

/-! ### Runs -/

theorem sound_initial : initial.Sound :=
  ⟨rfl, nofun, nofun, nofun⟩

theorem serial_le_step (event : Event) :
    session.serial ≤ (session.step event).serial := by
  by_cases admits : ∀ action, event ≠ .request action
  · exact Nat.le_of_eq (step_serial session admits).symm
  · simp only [not_forall, not_not] at admits
    obtain ⟨action, rfl⟩ := admits
    rcases request_cases session action with same | admits
    · exact Nat.le_of_eq (congrArg Session.serial same).symm
    · exact admits.serial ▸ Nat.le_succ session.serial

/-- As long as ids can be counted, every state that is reached is sound. -/
theorem sound_run (events : List Event)
    (few : (run step initial events).serial ≤ u64Max) :
    (run step initial events).Sound := by
  induction events using List.reverseRecOn with
  | nil => exact sound_initial
  | append_singleton events event ih =>
      rw [run_append, run_cons, run_nil] at few ⊢
      have earlier := Nat.le_trans (serial_le_step event) few
      exact (ih earlier).step earlier event

/-- The job was created while the current request was dispatched. -/
def Created (events : List Event) (path : String) : Prop :=
  ∃ earlier later, events =
      earlier ++ .jobNew path (run step initial events).operation.service ::
        later ∧
    (run step initial earlier).serial = (run step initial events).serial ∧
    (run step initial earlier).operation.phase.dispatched = true

theorem job_created (events : List Event)
    (few : (run step initial events).serial ≤ u64Max) {path : String}
    (job : (run step initial events).operation.job = some path) :
    Created events path := by
  induction events using List.reverseRecOn with
  | nil => cases job
  | append_singleton events event ih =>
      rw [run_append, run_cons, run_nil] at few job
      have before := Nat.le_trans (serial_le_step event) few
      have sound := sound_run events before
      rw [Created, run_append, run_cons, run_nil]
      by_cases admits : ∀ action, event ≠ .request action
      · have serial := step_serial (run step initial events) admits
        have kept : (run step initial events).operation.job = some path →
            ((run step initial events).step event).operation.service =
              (run step initial events).operation.service →
            ∃ earlier later, events ++ [event] =
              earlier ++ .jobNew path
                ((run step initial events).step event).operation.service ::
                  later ∧
              (run step initial earlier).serial =
                ((run step initial events).step event).serial ∧
              (run step initial earlier).operation.phase.dispatched =
                true := by
          intro job service
          obtain ⟨earlier, later, split, same, dispatched⟩ := ih before job
          refine ⟨earlier, later ++ [event], ?_, same.trans serial.symm,
            dispatched⟩
          rw [service]
          conv_lhs => rw [split]
          simp
        rcases step_alters sound before admits with same | alters
        · rw [same] at job
          exact kept job (by rw [same])
        · obtain ⟨-, service⟩ := alters_id alters
          rcases alters_job alters with same | ⟨dispatched, created⟩
          · exact kept (same ▸ job) service
          · obtain ⟨other, rfl, named⟩ := created
            cases named.symm.trans job
            exact ⟨events, [], by rw [service], serial.symm, dispatched⟩
      · simp only [not_forall, not_not] at admits
        obtain ⟨action, rfl⟩ := admits
        rcases request_cases (run step initial events) action
          with same | admits
        · rw [step, same] at job ⊢
          obtain ⟨earlier, later, split, serial, dispatched⟩ := ih before job
          refine ⟨earlier, later ++ [.request action], ?_, serial, dispatched⟩
          conv_lhs => rw [split]
          simp
        · rw [operation, step, admits.tracked] at job
          cases job

/-- The event belongs to the current request. -/
def Own (events : List Event) : Event → Prop
  | .refuse _ | .dispatch | .answer _ | .finish =>
      (run step initial events).Performs
  | .release serial => serial = (run step initial events).serial
  | .jobNew _ unit =>
      unit = (run step initial events).operation.service ∧
        (run step initial events).operation.phase.dispatched = true
  | .jobRemoved path unit _ =>
      unit = (run step initial events).operation.service ∧
        Created events path
  | .prepared _ | .lostMonitor _ | .expire =>
      (run step initial events).operation.phase.dispatched = true
  | _ => False

theorem own_of_alters {events : List Event} {event : Event}
    {operation : SleepOperation}
    (few : (run step initial events).serial ≤ u64Max)
    (alters : Alters (run step initial events) event operation) :
    Own events event := by
  cases alters with
  | refused error performs phase => exact performs
  | dispatched performs phase => exact performs
  | accepted performs phase => exact performs
  | failed error text performs => exact performs
  | lost error text performs phase => exact performs
  | cancelled event own text phase =>
      rcases own with ⟨rfl, performs⟩ | rfl
      · exact performs
      · exact rfl
  | interrupted event own text phase =>
      rcases own with ⟨rfl, performs⟩ | rfl
      · exact performs
      · exact rfl
  | prepared preparing phase => exact phase
  | created path phase free => exact ⟨rfl, phase⟩
  | done path job phase => exact ⟨rfl, job_created events few job⟩
  | removed path result text job phase =>
      exact ⟨rfl, job_created events few job⟩
  | unwatched event own text phase =>
      rcases own with rfl | ⟨reason, rfl⟩
      · exact phase
      · exact phase

/-- What an event may do to a state that is reached. -/
structure Lawful (events : List Event) (event : Event)
    (before after : Session) : Prop where
  /-- Only the removal of its own job, with the result done, completes an
  operation. -/
  completes : after.operation.phase = .completed →
    before.operation.phase ≠ .completed →
      ∃ path, event = .jobRemoved path before.operation.service "done" ∧
        Created events path
  settles : after.serial = before.serial →
    before.operation.phase = .completed ∨ before.operation.phase = .failed →
      after.operation.phase = .completed ∨ after.operation.phase = .failed
  own : after.serial = before.serial →
    after.operation = before.operation ∨ Own events event
  id : after.serial = before.serial →
    after.operation.id = before.operation.id
  admitted : after.serial ≠ before.serial →
    before.operation.phase.pending = false ∧
      before.operation.id < after.operation.id
  lease : ∀ lease, after.tracked.lease = some lease →
    lease.owner = after.serial ∧ after.operation.phase.pending = true

/-- After as many requests as there are ids. -/
def cycles (count : Nat) : List Event :=
  (List.replicate count [.request .suspend, .finish]).flatten

theorem run_cycles (count : Nat) (session : Session)
    (free : session.performing = none)
    (ready : session.operation.phase.pending = false) :
    (run step session (cycles count)).serial = session.serial + count ∧
      (run step session (cycles count)).performing = none ∧
      (run step session (cycles count)).operation.phase.pending = false := by
  induction count generalizing session with
  | zero => exact ⟨rfl, free, ready⟩
  | succ count ih =>
      have unready : session.tracked.readyForNewRequest = true := by
        rw [Tracked.readyForNewRequest_eq, Bool.not_eq_true']
        exact ready
      have cycled : cycles (count + 1) =
          [.request .suspend, .finish] ++ cycles count := by
        simp [cycles, List.replicate_succ]
      have next : run step session [.request .suspend, .finish] =
          { session with
            tracked := (session.tracked.start .suspend session.now).cancelled
              (saturatingAdd session.tracked.operation.id 1)
            performing := none
            serial := session.serial + 1 } := by
        simp [step, request, free, unready, finish, Tracked.start]
      rw [cycled, run_append, next]
      have again := ih { session with
          tracked := (session.tracked.start .suspend session.now).cancelled
            (saturatingAdd session.tracked.operation.id 1)
          performing := none
          serial := session.serial + 1 } rfl (by
            simp [operation, Tracked.cancelled, Tracked.modify, Tracked.start,
              Phase.pending, Phase.dispatched])
      refine ⟨?_, again.2⟩
      rw [again.1]
      simp only
      omega

theorem id_repeated {count : Nat} (last : count = u64Max) :
    (run step initial (cycles count ++ [.request .suspend])).serial =
        (run step initial (cycles count)).serial + 1 ∧
      (run step initial (cycles count ++ [.request .suspend])).operation.id =
        (run step initial (cycles count)).operation.id := by
  obtain ⟨serial, free, ready⟩ := run_cycles count initial rfl rfl
  have counted : (run step initial (cycles count)).serial = count :=
    serial.trans (Nat.zero_add _)
  have sound := sound_run (cycles count) (Nat.le_of_eq (counted.trans last))
  have id := sound.id
  rw [counted] at id
  rw [run_append, run_cons, run_nil]
  generalize run step initial (cycles count) = session at free ready id ⊢
  have unready : session.tracked.readyForNewRequest = true := by
    rw [Tracked.readyForNewRequest_eq, Bool.not_eq_true']
    exact ready
  have full : session.tracked.operation.id = u64Max := by
    rw [last] at id
    exact id.trans (Nat.min_self _)
  simp [step, request, free, unready, operation, Tracked.start, full,
    saturatingAdd]

/-- The last id is given again. -/
theorem last_id_repeated : ∃ events : List Event,
    (run step initial (events ++ [.request .suspend])).serial =
        (run step initial events).serial + 1 ∧
      (run step initial (events ++ [.request .suspend])).operation.id =
        (run step initial events).operation.id :=
  ⟨cycles u64Max, id_repeated rfl⟩

/-- As long as ids can be counted, every event is lawful in every state that is
reached. -/
theorem outcomes_lawful (events : List Event) (event : Event)
    (few : (run step initial (events ++ [event])).serial ≤ u64Max) :
    Lawful events event (run step initial events)
      (run step initial (events ++ [event])) := by
  rw [run_append, run_cons, run_nil] at few ⊢
  have before := Nat.le_trans (serial_le_step event) few
  have sound := sound_run events before
  have after := sound.step before event
  by_cases admits : ∀ action, event ≠ .request action
  · have alters := step_alters sound before admits
    have serial := step_serial (run step initial events) admits
    constructor
    · intro completed incomplete
      rcases alters with same | alters
      · exact absurd (same ▸ completed) incomplete
      · obtain ⟨path, removed, job⟩ := alters_completed alters completed
        exact ⟨path, removed, job_created events before job⟩
    · intro same settled
      rcases alters with same | alters
      · rwa [same]
      · exact .inr (alters_settled alters settled)
    · exact fun _ => alters.imp id fun alters => own_of_alters before alters
    · intro same
      rcases alters with same | alters
      · rw [same]
      · exact (alters_id alters).1
    · exact fun different => absurd serial different
    · exact after.lease
  · simp only [not_forall, not_not] at admits
    obtain ⟨action, rfl⟩ := admits
    rcases request_cases (run step initial events) action
      with same | admits
    · rw [step, same] at few after ⊢
      exact ⟨fun completed incomplete => absurd completed incomplete,
        fun _ settled => settled, fun _ => .inl rfl, fun _ => rfl,
        fun different => absurd rfl different, after.lease⟩
    · have requested : ((run step initial events).step
          (.request action)).operation.phase = .requested := by
        rw [operation, step, admits.tracked]
        rfl
      have counted : ((run step initial events).step
          (.request action)).serial =
            (run step initial events).serial + 1 := admits.serial
      constructor
      · intro completed
        rw [requested] at completed
        cases completed
      · intro same
        omega
      · intro same
        omega
      · intro same
        omega
      · intro different
        refine ⟨admits.ready, ?_⟩
        rw [sound.id, after.id, counted]
        simp only [idOf]
        omega
      · exact after.lease

/-- The job of a request that the login manager has not answered yet. -/
theorem outcomes_lawful_done :
    Lawful
      [.request .suspend, .dispatch,
        .jobNew "/job/1" "systemd-suspend.service"]
      (.jobRemoved "/job/1" "systemd-suspend.service" "done")
      (run step initial [.request .suspend, .dispatch,
        .jobNew "/job/1" "systemd-suspend.service"])
      (run step initial [.request .suspend, .dispatch,
        .jobNew "/job/1" "systemd-suspend.service",
        .jobRemoved "/job/1" "systemd-suspend.service" "done"]) :=
  outcomes_lawful _ _ (by decide +kernel)

end Session

end BarDaemon.SleepOutcomes
