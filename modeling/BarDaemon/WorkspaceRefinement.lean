import BarDaemon.WorkspacePlacement
import BarDaemon.WorkspaceRetention

/-!
# The service makes only the single changes

A step of a run is a sequence of them.
-/

namespace BarDaemon.Workspaces

open Std Relation

namespace Service

variable (world : Surroundings) [Wire]

/-! ### Loading -/

omit [Wire] in
theorem verify_leads (session : String) {relation : State → State → Prop}
    [Std.Refl relation] [IsTrans State relation] :
    Attempt.Leads relation (fun _ => True) (verify session)
      (fun _ state => state.Sound ∧ state.Open session) := by
  apply Attempt.leads_read_bind
  intro seen
  apply ensure_then
  intro unpoisoned
  apply Attempt.leads_ensure
  rintro state ⟨rfl, -⟩ same
  cases present : state.loaded with
  | none => simp [present] at same
  | some loaded =>
      constructor
      · exact ⟨loaded, present, by simpa [present] using unpoisoned⟩
      · exact ⟨loaded, present, by simpa [present] using same⟩

theorem load_leads (session : String) {relation : State → State → Prop}
    [Std.Refl relation] [IsTrans State relation]
    (called : ∀ state, relation state state.called) :
    Attempt.Leads relation (fun state => state.loaded = none)
      (load world session)
      (fun journal state => state.loaded = none ∧
        state.Offers session journal) := by
  have read : Attempt.Leads relation (fun state => state.loaded = none)
      (readFile world session)
      (fun file state => state.loaded = none ∧
        state.files session = file) := by
    apply Attempt.leads_of_forall
    intro state absent
    rcases fate : world.fate state.calls with _ | _ | _
    · have answered : readFile world session state =
          (.ok (state.files session), state.called) := by
        simp [readFile, perform, fate, Attempt.bind_apply, Attempt.read]
      rw [answered]
      exact ⟨called state, absent, rfl⟩
    · simp only [readFile, perform, fate, Attempt.bind_apply]
      exact called state
    · simp only [readFile, perform, fate, Attempt.bind_apply]
      exact called state
  apply Attempt.Leads.bind read
  intro file
  cases file with
  | none =>
      apply Attempt.leads_pure
      rintro state ⟨absent, missing⟩
      refine ⟨absent, ?_⟩
      simp [State.Offers, missing]
  | some file =>
      apply Attempt.leads_lift
      rintro state journal ⟨absent, found⟩ restored
      refine ⟨absent, ?_⟩
      simp [State.Offers, found, restored]

theorem prepare_leads (session : String) :
    Attempt.Leads (Changes world) (fun _ => True) (prepare world session)
      (fun _ state => state.Sound ∧ state.Open session) := by
  apply Attempt.leads_read_bind
  intro seen
  apply Attempt.leads_ite
  · intro absent
    have called : ∀ state : State, Changes world state state.called :=
      fun _ => Quiet.called.quietly.effects.changes
    have started : Attempt.Leads (Changes world)
        (fun state => state = seen ∧ True) (load world session)
        (fun journal state => state.loaded = none ∧
          state.Offers session journal) :=
      (load_leads world session called).weaken
        (fun state same => by rw [same.1]; simpa using absent)
        fun _ _ holds => holds
    apply Attempt.Leads.bind started
    intro journal
    have filled : Attempt.Leads (Changes world)
        (fun state => state.loaded = none ∧ state.Offers session journal)
        (Attempt.change fun state => { state with
          loaded := some ⟨journal, false, false, ∅⟩ } : Service Unit)
        (fun _ _ => True) :=
      Attempt.leads_change (fun state holds =>
        (Change.loaded session journal holds.1 holds.2).changes)
        fun _ _ => trivial
    apply Attempt.Leads.bind filled
    intro _
    have saved : Attempt.Within (Changes world) (save world) :=
      (save_quiet world).mono fun _ _ quietly => quietly.effects.changes
    apply Attempt.Leads.bind saved.leads_true
    intro _
    exact verify_leads session
  · intro _
    exact (verify_leads session).weaken (fun _ _ => trivial)
      fun _ _ holds => holds

theorem opened_leads :
    Attempt.Leads (Changes world) (fun _ => True) (opened world)
      (fun snapshot state => state.Sound ∧ state.Open snapshot.session) := by
  have read : Attempt.Within (Changes world) (snapshot world) :=
    (snapshot_quiet world).mono fun _ _ quietly => quietly.effects.changes
  apply Attempt.Leads.bind read.leads_true
  intro snapshot
  apply Attempt.Leads.bind (prepare_leads world snapshot.session)
  intro _
  exact Attempt.leads_pure fun _ holds => holds

/-! ### Methods -/

/-- The service has been opened on a snapshot. -/
def Opened (snapshot : Snapshot) (state : State) : Prop :=
  state.Sound ∧ state.Open snapshot.session

theorem replayed_leads (snapshot : Snapshot) (command : Command) :
    Attempt.Leads Effects (Opened snapshot) (replayed command)
      (fun _ state => Opened snapshot state) := by
  unfold replayed
  cases command.requestId with
  | none => exact Attempt.leads_pure fun _ opened => opened
  | some key =>
      apply journal_then (fun _ opened => opened.2)
      intro journal _
      cases journal.reservations[key]? with
      | some record =>
          apply ensure_then
          intro _
          exact Attempt.leads_pure fun _ opened => opened.2
      | none =>
          apply journal_then (fun _ opened => opened.1)
          intro journal _
          cases journal.closes[key]? with
          | some record =>
              apply ensure_then
              intro _
              exact Attempt.leads_pure fun _ opened => opened.2.2
          | none => exact Attempt.leads_pure fun _ opened => opened.2.2

theorem selected_quiet (snapshot : Snapshot) (context : Context)
    (command : Command) :
    Attempt.Within Quietly (selected snapshot context command) := by
  unfold selected
  cases command.workspacePosition with
  | none => exact Attempt.within_pure _
  | some position =>
      exact (required_quiet _ _).bind fun _ => journal_quiet.bind
        fun _ => required_quiet _ _

theorem noteMove_within (snapshot : Snapshot) (id : Int) (move : Bool) :
    Attempt.Within Effects (noteMove world snapshot id move) := by
  refine (effects_of_quiet journal_quiet).bind fun journal => ?_
  apply Attempt.Within.ite
  · have emptied : Attempt.Within Effects (edit fun journal =>
        journal.changeEntry id fun entry => { entry with cueEmpty := true }) :=
      fun state => (Effect.observed id (fun _ entry => { entry with
        cueEmpty := true }) fun _ _ => ⟨rfl, rfl, rfl⟩).effects
    exact emptied.bind fun _ => effects_of_quiet (save_quiet world)
  · exact Attempt.within_pure _

theorem select_within (snapshot : Snapshot) (context : Context)
    (command : Command) (move : Bool) :
    Attempt.Within Effects (select world snapshot context command move) := by
  have quietly : ∀ {Value : Type} {service : Service Value},
      Attempt.Within Quietly service → Attempt.Within Effects service :=
    fun quiet => effects_of_quiet quiet
  refine (quietly (selected_quiet snapshot context command)).bind fun id => ?_
  refine (quietly (ensure_quiet _ _)).bind fun _ => ?_
  refine (quietly journal_quiet).bind fun journal => ?_
  refine (quietly (ensure_quiet _ _)).bind fun _ => ?_
  refine (quietly (ensure_quiet _ _)).bind fun _ => ?_
  dsimp only
  refine (quietly (ensure_quiet _ _)).bind fun _ => ?_
  refine (quietly (execute_quiet world rfl)).bind fun _ => ?_
  exact (noteMove_within world snapshot id move).bind
    fun _ => Attempt.within_pure _

theorem cycle_quiet (snapshot : Snapshot) (context : Context)
    (forward : Bool) :
    Attempt.Within Quietly (cycle world snapshot context forward) := by
  refine journal_quiet.bind fun journal => ?_
  refine (required_quiet _ _).bind fun id => ?_
  exact (execute_quiet world rfl).bind fun _ => Attempt.within_pure _

theorem commandKey_leads (snapshot : Snapshot) (command : Command) :
    Attempt.Leads Effects (Opened snapshot) (commandKey world command)
      (fun _ state => Opened snapshot state) := by
  unfold commandKey
  cases command.requestId with
  | none =>
      apply Attempt.leads_of_forall
      exact fun state opened => ⟨Quiet.called.quietly.effects, opened⟩
  | some key => exact Attempt.leads_pure fun _ opened => opened

theorem createCommand_leads (snapshot : Snapshot) (request : Create) :
    Attempt.Leads Effects (Opened snapshot) (do
      let record ← create world snapshot request
      return .reservation record) (fun (_ : Reply) _ => True) := by
  apply Attempt.Leads.bind (create_leads world snapshot request)
  intro record
  exact Attempt.leads_pure fun _ _ => trivial

theorem closeCommand_leads (snapshot : Snapshot) (request : Close) :
    Attempt.Leads Effects (Opened snapshot) (do
      let record ← close world snapshot request
      return .close record) (fun (_ : Reply) _ => True) := by
  have closed : Attempt.Leads Effects (Opened snapshot)
      (close world snapshot request) (fun _ _ => True) :=
    (close_leads world snapshot request).weaken
      (fun state opened => ⟨opened.1, opened.2.imp fun loaded holds =>
        ⟨holds.1, holds.2, fun _ _ => trivial⟩⟩) fun _ _ _ => trivial
  apply Attempt.Leads.bind closed
  intro record
  exact Attempt.leads_pure fun _ _ => trivial

theorem commandFresh_leads (snapshot : Snapshot) (command : Command) :
    Attempt.Leads Effects (Opened snapshot)
      (commandFresh world snapshot command) (fun _ _ => True) := by
  apply checked_then
  intro context _
  apply Attempt.Leads.bind (commandKey_leads world snapshot command)
  intro key
  have cycled : ∀ forward, Attempt.Leads Effects (Opened snapshot)
      (cycle world snapshot context forward) (fun _ _ => True) :=
    fun forward => (effects_of_quiet (cycle_quiet world snapshot context
      forward)).leads_true
  have chosen : ∀ move, Attempt.Leads Effects (Opened snapshot)
      (select world snapshot context command move) (fun _ _ => True) :=
    fun move => (select_within world snapshot context command move).leads_true
  have created := createCommand_leads world snapshot
    ⟨key, context, .landingPad, none, "Workspace", "workspace"⟩
  have closed := closeCommand_leads world snapshot ⟨key, context⟩
  cases command.command with
  | focus => exact chosen false
  | move => exact chosen true
  | create => exact created
  | close => exact closed
  | next => exact cycled true
  | previous => exact cycled false

theorem command_leads (snapshot : Snapshot) (request : Command) :
    Attempt.Leads Effects (Opened snapshot) (command world snapshot request)
      (fun _ _ => True) := by
  apply ensure_then
  intro _
  apply Attempt.Leads.bind (replayed_leads snapshot request)
  intro reply
  cases reply with
  | some reply => exact Attempt.leads_pure fun _ _ => trivial
  | none => exact commandFresh_leads world snapshot request

theorem release_leads (snapshot : Snapshot) (lease : Lease) :
    Attempt.Leads Effects (Opened snapshot) (release world snapshot lease)
      (fun _ _ => True) := by
  have released : Attempt.Leads Effects
      (fun state => (state.Holds fun journal =>
        lease.session = journal.session ∧ ∃ record,
          journal.reservations[lease.requestId]? = some record ∧
            record.lease = lease) ∧ Opened snapshot state)
      (giveUp lease) (fun _ state => state.Open snapshot.session) := by
    apply Attempt.leads_of_forall
    intro state holds
    have effect := Effect.released lease holds.2.1 holds.1
    exact ⟨effect.effects, effect.isOpen holds.2.2⟩
  apply Attempt.Leads.bind (checkLease_leads lease false
    fun _ opened => And.right opened)
  intro record
  apply Attempt.Leads.bind (released.weaken _ fun _ _ holds => holds)
  · intro _
    apply Attempt.Leads.bind (quiet_leads (save_quiet world)
      fun _ _ same => same)
    intro _
    apply Attempt.Leads.bind (cleanup_leads world snapshot _)
    intro _
    exact Attempt.leads_pure fun _ _ => trivial
  · rintro state ⟨⟨loaded, present, session, found, same, -⟩, opened⟩
    exact ⟨⟨loaded, present, session, record, found, same⟩, opened⟩

theorem get_quiet (snapshot : Snapshot) (query : Lookup) :
    Attempt.Within Quietly (get snapshot query) := by
  refine (ensure_quiet _ _).bind fun _ => journal_quiet.bind fun journal => ?_
  cases journal.reservations[query.requestId]? with
  | some record => exact Attempt.within_pure _
  | none =>
      refine journal_quiet.bind fun journal => ?_
      cases journal.closes[query.requestId]? with
      | some record => exact Attempt.within_pure _
      | none => exact raise_quiet _

theorem context_quiet (snapshot : Snapshot) (monitor : Option String) :
    Attempt.Within Quietly (context world snapshot monitor) :=
  (checked_quiet _).bind fun _ => (reading_quiet _).bind fun _ =>
    Attempt.within_pure _

theorem answer_leads (snapshot : Snapshot) (method : Method) :
    Attempt.Leads Effects (Opened snapshot) (answer world snapshot method)
      (fun _ _ => True) := by
  cases method with
  | command request => exact command_leads world snapshot request
  | context monitor =>
      exact (effects_of_quiet (context_quiet world snapshot
        monitor)).leads_true
  | create request => exact createCommand_leads world snapshot request
  | place request =>
      exact (place_leads world snapshot request).weaken
        (fun _ opened => opened.2) fun _ _ _ => trivial
  | release lease => exact release_leads world snapshot lease
  | get query => exact (effects_of_quiet (get_quiet snapshot query)).leads_true
  | close request => exact closeCommand_leads world snapshot request
  | unsupported => exact (effects_of_quiet (raise_quiet _)).leads_true

theorem call_within (method : Method) :
    Attempt.Within (Changes world) (call world method) := by
  have answered : ∀ snapshot, Attempt.Leads (Changes world) (Opened snapshot)
      (answer world snapshot method) (fun _ _ => True) := by
    intro snapshot
    apply Attempt.leads_of_respects
    intro state opened
    exact ((answer_leads world snapshot method).respects opened).changes
  exact ((opened_leads world).bind answered).within

theorem project_within : Attempt.Within (Changes world) (project world) := by
  have cleaned : ∀ snapshot, Attempt.Leads (Changes world) (Opened snapshot)
      (cleanup world snapshot) (fun _ _ => True) := by
    intro snapshot
    apply Attempt.leads_of_respects
    intro state opened
    exact ((cleanup_leads world snapshot snapshot.session).respects
      opened.2).changes
  exact ((opened_leads world).bind cleaned).within

end Service

namespace State

variable {world : Surroundings} [Wire]

theorem settled_changes {Value : Type} {state : State}
    (outcome : Except Failure Value × State)
    (changes : Changes world state outcome.2) :
    Changes world state (settled world outcome) := by
  obtain ⟨result, after⟩ := outcome
  cases result with
  | ok value => exact changes
  | error failure =>
      cases failure with
      | error text => exact changes
      | crashed => exact changes.tail .restarted

/-- Every step of a run is a sequence of the single changes. -/
theorem step_changes (state : State) (request : Request) :
    Changes world state (state.step world request) := by
  cases request with
  | call method =>
      exact settled_changes _ (Service.call_within world method state)
  | project => exact settled_changes _ (Service.project_within world state)
  | observe key attempt =>
      simp only [step]
      split
      · exact settled_changes _ (Service.observeClose_within world key attempt
          state).changes
      · exact .refl
  | event event =>
      exact (Quiet.noticed _ _).quietly.effects.changes
  | restart => exact .single .restarted

/-- What single changes keep holds in every run. -/
theorem after_invariant {invariant : State → Prop} (writer : String)
    (start : invariant (initial writer))
    (keeps : ∀ state after, Change world state after → invariant state →
      invariant after) (requests : List Request) :
    invariant (State.after world writer requests) := by
  have steps : ∀ state request, invariant state → True →
      invariant (state.step world request) := by
    intro state request holds _
    generalize ended : state.step world request = after
    have changes : Changes world state after := ended ▸ step_changes state request
    clear ended
    induction changes with
    | refl => exact holds
    | tail _ change ih => exact keeps _ _ change ih
  exact TransitionRuns.invariant_run steps start
    (TransitionRuns.stepsMeet_of_forall (fun _ _ => trivial) _ _)

end State

end BarDaemon.Workspaces
