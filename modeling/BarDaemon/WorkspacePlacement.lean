import BarDaemon.WorkspaceQuiet

/-!
# Creating, placing and closing make single effects

Every reservation, move and close of the service is one of the effects, with
the checks that precede it.
-/

namespace BarDaemon.Workspaces

open Std Relation

namespace Service

variable (world : Surroundings) [Wire]

/-! ### Creating -/

theorem unused_of_admission {journal : Journal} {key : String}
    (allowed : journal.admission key = .ok ()) : journal.Unused key := by
  unfold Journal.admission at allowed
  split at allowed
  · nomatch allowed
  · split at allowed
    · nomatch allowed
    · split at allowed
      · nomatch allowed
      · rename_i fresh
        rw [Bool.or_eq_true, not_or] at fresh
        exact ⟨by simpa using fresh.1, by simpa using fresh.2⟩

theorem destination_leads (snapshot : Snapshot) (request : Create)
    {property : Journal → Prop}
    (blind : ∀ journal high, property journal →
      property { journal with high := high }) :
    Attempt.Leads Effects (·.Holds property) (destination snapshot request)
      (fun id state => state.Holds fun journal => property journal ∧
        (request.workspaceId = none → id ≤ journal.high)) := by
  unfold destination
  cases named : request.workspaceId with
  | none =>
      refine (allocating_leads snapshot.liveIds).weaken
        (fun _ holds => holds) ?_
      rintro id state ⟨loaded, present, bounded, before, holds, same⟩
      refine ⟨loaded, present, ?_, fun _ => bounded⟩
      rw [same]
      exact blind before id holds
  | some id =>
      refine ensure_then fun _ => ?_
      refine journal_then (fun _ holds => holds) fun journal _ => ?_
      refine ensure_then fun _ => Attempt.leads_pure ?_
      rintro state ⟨-, loaded, present, holds⟩
      exact ⟨loaded, present, holds, nofun⟩

/-- A change that is saved at once. -/
theorem saving_leads {service : Service Unit} {update : State → State}
    {before : State → Prop} {after : Journal → Prop}
    (computed : ∀ state, service state = save world (update state))
    (holds : ∀ state, before state → (update state).Holds after)
    (effect : ∀ state, before state → ∀ final,
      Saves (update state) final → Effect state final) :
    Attempt.Leads Effects before service
      (fun _ state => state.Sound ∧ state.Holds after) := by
  apply Attempt.leads_of_forall
  intro state met
  have ended := (save_leads world fun _ _ (saves : Saves _ _) => saves).each
    (holds state met)
  rw [computed]
  rcases result : save world (update state) with ⟨outcome, final⟩
  rw [result] at ended
  cases outcome with
  | ok value => exact ⟨(effect state met final ended.1).effects, ended.2⟩
  | error failure => exact (effect state met final ended).effects

/-- The fresh reservation is durable when the service goes on. -/
theorem reserve_leads (request : Create) (lease : Lease) (session : String) :
    Attempt.Leads Effects
      (·.Holds fun journal => journal.session = session ∧
        journal.Reservable request lease)
      (reserve world request lease)
      (fun _ state => state.Sound ∧ state.Holds fun journal =>
        journal.session = session ∧ ∃ record,
          journal.reservations[request.requestId]? = some record ∧
            record.request = request) := by
  refine saving_leads world (fun _ => rfl) ?_ ?_
  · rintro state ⟨loaded, present, same, -⟩
    refine ⟨{ loaded with
      journal := loaded.journal.reserve request lease state.writer },
      by simp [present], ?_, ?_⟩
    · exact (loaded.journal.session_reserve request lease _).trans same
    · refine ⟨Journal.freshReservation request lease state.writer, ?_, rfl⟩
      rw [Journal.reservations_reserve, if_pos rfl]
  · rintro state ⟨loaded, present, -, reservable⟩ final saves
    exact Effect.reserved request lease ⟨loaded, present, reservable⟩ saves

omit [Wire] in
theorem focusFresh_quiet (context : Context) (id : Int) :
    Attempt.Within Quietly (focusFresh world context id) :=
  (execute_quiet world rfl).bind fun _ => (snapshot_quiet world).bind fun _ =>
    ensure_quiet _ _

/-- What is known of a journal with a record for the request. -/
def Answers (session : String) (request : Create) (journal : Journal) : Prop :=
  journal.session = session ∧ ∃ record,
    journal.reservations[request.requestId]? = some record ∧
      record.request = request

omit [Wire] in
theorem Answers.changeReservation {session : String} {request : Create}
    {journal : Journal} (answers : Answers session request journal)
    (key : String) {update : Reservation → Reservation}
    (keeps : ∀ record, (update record).request = record.request) :
    Answers session request (journal.changeReservation key update) := by
  obtain ⟨same, record, found, asked⟩ := answers
  refine ⟨same, if key = request.requestId then update record else record,
    ?_, ?_⟩
  · rw [Journal.changeReservation, OrderedMaps.getElem?_modify, found]
    rfl
  · split
    · exact (keeps record).trans asked
    · exact asked

theorem settleFocus_leads (request : Create) (id : Int) (session : String) :
    Attempt.Leads Effects (·.Holds (Answers session request))
      (settleFocus world request id)
      (fun _ state => state.Sound ∧
        state.Holds (Answers session request)) := by
  refine Attempt.Leads.bind (quiet_leads (caught_quiet
    (focusFresh_quiet world request.context id)) fun _ _ holds => holds)
    fun outcome => ?_
  refine Attempt.Leads.bind
    (edit_leads (Answers session request) ?_ ?_) fun _ => ?_
  · intro state _
    refine Effect.resolved request.requestId (fun _ record => { record with
      status := if outcome.isOk then .focused else .unknown }) ?_
    rintro - record
    refine ⟨⟨rfl, rfl, rfl, rfl⟩, ?_⟩
    cases outcome.isOk <;> simp
  · exact fun journal answers =>
      answers.changeReservation request.requestId fun _ => rfl
  · refine Attempt.Leads.bind (save_leads world effects_of_saves) fun _ => ?_
    exact Attempt.leads_lift fun _ _ holds _ => holds

/-- The record that a request returns is the one of its key. -/
theorem recorded_leads (request : Create) (session : String) :
    Attempt.Leads Effects
      (fun state => state.Sound ∧ state.Holds (Answers session request))
      (recorded request.requestId)
      (fun record state => record.request = request ∧ state.Sound ∧
        state.Holds fun journal => journal.session = session ∧
          journal.reservations[request.requestId]? = some record) := by
  refine journal_then (fun _ holds => holds.2) fun journal answers => ?_
  obtain ⟨-, record, found, asked⟩ := answers
  rw [found]
  refine Attempt.leads_pure ?_
  rintro state ⟨⟨other, read, rfl⟩, sound, loaded, present, same, -⟩
  rw [present] at read
  obtain rfl := Option.some.inj read
  exact ⟨asked, sound, loaded, present, same, found⟩

theorem createFresh_leads (snapshot : Snapshot) (request : Create) :
    Attempt.Leads Effects (·.Open snapshot.session)
      (createFresh world snapshot request)
      (fun record state => record.request = request ∧ state.Sound ∧
        state.Holds fun journal => journal.session = snapshot.session ∧
          journal.reservations[request.requestId]? = some record) := by
  refine checked_then fun _ _ => ensure_then fun _ => ?_
  refine journal_then (fun _ holds => holds) fun journal same => ?_
  refine checked_then fun _ allowed => ?_
  have unused := unused_of_admission allowed
  -- The checks have read the journal that the number is taken from.
  have fresh : Attempt.Leads Effects
      (·.Holds fun journal => journal.session = snapshot.session ∧
        journal.Unused request.requestId)
      (destination snapshot request)
      (fun id state => state.Holds fun journal =>
        (journal.session = snapshot.session ∧
          journal.Unused request.requestId) ∧
        (request.workspaceId = none → id ≤ journal.high)) :=
    destination_leads snapshot request fun _ _ holds =>
      ⟨holds.1, holds.2.1, holds.2.2⟩
  refine Attempt.Leads.bind (fresh.weaken ?_ fun _ _ holds => holds)
    fun id => ?_
  · rintro state ⟨⟨loaded, present, rfl⟩, -⟩
    exact ⟨loaded, present, same, unused⟩
  refine journal_then (fun _ holds => holds) fun journal _ => ?_
  refine ensure_then fun _ => ?_
  refine Attempt.Leads.bind ((quiet_leads (reading_quiet world.epoch)
    fun _ _ holds => ⟨⟨holds.1.1, holds.1.2.1, holds.1.2.2⟩, holds.2⟩).weaken
    (fun _ holds => holds.2) fun _ _ holds => holds) fun generation => ?_
  refine journal_then (fun _ holds => holds) fun journal known => ?_
  obtain ⟨⟨same, unused⟩, bounded⟩ := known
  refine Attempt.Leads.bind ((reserve_leads world request
    ⟨snapshot.session, request.requestId, id, _⟩ snapshot.session).weaken ?_
    fun _ _ holds => holds) fun _ => ?_
  · rintro state ⟨⟨loaded, present, rfl⟩, -⟩
    exact ⟨loaded, present, same, unused, same.symm, rfl, bounded⟩
  refine Attempt.leads_ite (fun _ => ?_) fun _ => ?_
  · exact Attempt.Leads.bind ((settleFocus_leads world request id
      snapshot.session).weaken (fun _ holds => holds.2) fun _ _ holds => holds)
      fun _ => recorded_leads request snapshot.session
  · exact recorded_leads request snapshot.session

theorem enabled_then {Value : Type} {next : Bool → Service Value}
    {before : State → Prop} {done : Value → State → Prop}
    (rest : ∀ enabled, Attempt.Leads Effects before (next enabled) done) :
    Attempt.Leads Effects before (enabled world >>= next) done := by
  apply Attempt.leads_of_forall
  intro state holds
  exact (rest (world.enabled state.calls)).each holds

theorem create_leads (snapshot : Snapshot) (request : Create) :
    Attempt.Leads Effects
      (fun state => state.Sound ∧ state.Open snapshot.session)
      (create world snapshot request)
      (fun record state => record.request = request ∧ state.Sound ∧
        state.Holds fun journal => journal.session = snapshot.session ∧
          journal.reservations[request.requestId]? = some record) := by
  refine enabled_then world fun enabled => ensure_then fun _ => ?_
  refine journal_then (fun _ holds => holds.2) fun journal same => ?_
  cases found : journal.reservations[request.requestId]? with
  | none =>
      exact (createFresh_leads world snapshot request).weaken
        (fun _ holds => holds.2.2) fun _ _ holds => holds
  | some existing =>
      refine ensure_then fun asked => Attempt.leads_pure ?_
      rintro state ⟨⟨loaded, present, rfl⟩, sound, -⟩
      exact ⟨beq_iff_eq.mp asked, sound, loaded, present, same, found⟩

/-! ### Placing -/

theorem checkLease_leads (lease : Lease) (effect : Bool)
    {before : State → Prop} {session : String}
    (known : ∀ state, before state → state.Open session) :
    Attempt.Leads Effects before (checkLease lease effect)
      (fun record state => (state.Holds fun journal =>
        lease.session = journal.session ∧
          journal.reservations[lease.requestId]? = some record ∧
          record.lease = lease ∧
          (effect = true → record.released = false)) ∧ before state) := by
  apply journal_then known
  intro journal _
  refine ensure_then fun sameSession => required_then fun record found => ?_
  refine ensure_then fun sameLease => ?_
  apply Attempt.leads_read_bind
  intro seen
  apply ensure_then
  intro unfenced
  apply Attempt.leads_pure
  rintro state ⟨-, ⟨loaded, present, rfl⟩, holds⟩
  refine ⟨⟨loaded, present, beq_iff_eq.mp sameSession, found,
    beq_iff_eq.mp sameLease, ?_⟩, holds⟩
  rintro rfl
  simp only [Bool.not_true, Bool.false_or, Bool.and_eq_true] at unfenced
  simpa using unfenced.1

theorem supersede_quiet (pid : Nat) :
    Attempt.Within Quietly (supersede world pid) :=
  journal_quiet.bind fun _ =>
    Attempt.within_forEach (cancelHandoff_quiet world) _

theorem watchPlacement_quiet (snapshot : Snapshot) (request : Placement) :
    Attempt.Within Quietly (watchPlacement world snapshot request) := by
  refine (prepareHandoff_quiet world request snapshot).bind fun handoff => ?_
  cases handoff with
  | none => exact Attempt.within_pure _
  | some handoff =>
      exact (preparePins_quiet world).bind fun _ => (handoffs_quiet _).bind
        fun _ => Attempt.within_pure _

omit [Wire] in
theorem encode_bind {Value : Type} (expression : Expression)
    (next : Unit → Service Value) (state : State) :
    (encode world expression >>= next) state =
      if world.encodable expression then next () state
      else (.error (.error "expression cannot be encoded"), state) := by
  cases encodable : world.encodable expression <;>
    simp [encode, ensure, Attempt.ensure, Attempt.fail, Attempt.bind_apply,
      encodable]

omit [Wire] in
/-- A command that has been sent is followed by its reply. -/
theorem after_dispatch (expression : Expression) (state : State) :
    (caught (dispatch world expression) state).2 =
      (state.traced (.executed expression)).called := by
  rcases fate : world.fate state.calls with _ | _ | _
  all_goals
    simp [caught, Attempt.catching, dispatch, Attempt.bind_apply, note,
      Attempt.change, perform, fate, State.traced, State.called,
      Failure.text?]

theorem beginPlacement_effect (request : Placement) (state : State) :
    Effect state (state.withJournal fun journal =>
      journal.beginPlacement request) :=
  .resolved request.lease.requestId (fun _ record => { record with
    status := .placing, placement := some request })
    fun _ _ => ⟨⟨rfl, rfl, rfl, rfl⟩, by simp⟩

/-- The move of a lease is sent after its journal has been written. -/
theorem dispatchMove_leads (snapshot : Snapshot) (request : Placement)
    (context : Context) (handoff : Option Handoff) (record : Reservation) :
    Attempt.Leads Effects
      (·.Holds fun journal => journal.Placeable request.lease record)
      (dispatchMove world snapshot request context handoff)
      (fun _ _ => True) := by
  apply Attempt.leads_of_respects
  rintro state ⟨loaded, present, placeable⟩
  let placing := state.withJournal fun journal => journal.beginPlacement request
  have begun : Effects state placing :=
    (beginPlacement_effect request state).effects
  have saves := save_saves world placing
  rcases result : save world placing with ⟨outcome, written⟩
  rw [result] at saves
  have saved := begun.trans (effects_of_saves _ _ saves)
  simp only [dispatchMove]
  generalize chosen : Expression.moveLocal _ _ _ _ = expression
  have computed : ∀ rest : Service (Except String Unit),
      (do
        edit fun journal => journal.beginPlacement request
        save world
        rest) state = (save world >>= fun _ => rest) placing :=
    fun _ => rfl
  rw [computed, Attempt.bind_apply, result]
  cases outcome with
  | error failure => exact saved
  | ok value =>
      obtain ⟨other, inMemory, rfl⟩ := save_eq_ok world result
      have same : other.journal = loaded.journal.beginPlacement request := by
        have edited : placing.loaded = some { loaded with
            journal := loaded.journal.beginPlacement request } := by
          simp [placing, present]
        rw [edited] at inMemory
        rw [← Option.some.inj inMemory]
      simp only [encode_bind]
      split
      · have moved := fun monitor pin =>
          Effect.moved loaded request record monitor pin present placeable
        rw [after_dispatch, ← chosen, same]
        exact (moved _ _).effects.trans Quiet.called.quietly.effects
      · exact saved

omit [Wire] in
theorem follow_quiet (current : Snapshot) (request : Placement)
    (context : Context) :
    Attempt.Within Quietly (follow world current request context) :=
  Attempt.Within.ite (execute_quiet world rfl) (Attempt.within_pure ())

omit [Wire] in
theorem Entry.cued_keeps (entry : Entry) (request : Option Create) :
    Entry.Keeps entry (entry.cued request) := by
  unfold Entry.cued
  split
  · exact ⟨rfl, rfl, rfl⟩
  · exact ⟨rfl, rfl, rfl⟩

theorem occupy_effect (lease : Lease) (state : State) :
    Effect state (state.withJournal fun journal => journal.occupy lease) := by
  apply Effect.observed
  intro journal entry
  have kept := Entry.cued_keeps entry
    (journal.reservations[lease.requestId]?.map Reservation.request)
  exact ⟨kept.id, kept.generation, kept.keepUntilClosed⟩

theorem settlePlacement_effects (lease : Lease) (verified : Bool)
    (state : State) :
    Effects state (state.withJournal fun journal =>
      journal.settlePlacement lease verified) := by
  let settle := fun record : Reservation => { record with
    placed := verified
    status := if verified then .placed else .unknown }
  have resolved : Effect state (state.withJournal fun journal =>
      journal.changeReservation lease.requestId settle) := by
    refine Effect.resolved lease.requestId (fun _ => settle) fun _ _ => ?_
    exact ⟨⟨rfl, rfl, rfl, rfl⟩, by cases verified <;> simp [settle]⟩
  have watched : ∀ middle : State, Effect middle (middle.withJournal
      fun journal => journal.changeHandoff lease.requestId fun handoff =>
        { handoff with watching := true }) :=
    fun middle => .quiet (.watched fun journal => journal.handoffs.modify _ _)
  cases verified with
  | false => exact resolved.effects
  | true =>
      have all := (resolved.effects.tail (watched _)).tail
        (occupy_effect lease _)
      rw [State.withJournal_withJournal, State.withJournal_withJournal] at all
      exact all

theorem settlePlacement_within (current : Snapshot) (request : Placement)
    (context : Context) (result : Except String Unit) :
    Attempt.Within Effects
      (settlePlacement world current request context result) := by
  have edited : ∀ verified, Attempt.Within Effects (edit fun journal =>
      journal.settlePlacement request.lease verified) :=
    fun verified state => settlePlacement_effects request.lease verified state
  have saved := effects_of_quiet (save_quiet world)
  apply (edited _).bind
  intro _
  apply saved.bind
  intro _
  apply Attempt.Within.ite
  · exact (effects_of_quiet (follow_quiet world current request context)).bind
      fun _ => Attempt.within_pure _
  · exact (effects_of_quiet (cancelHandoff_quiet world _)).bind
      fun _ => Attempt.within_fail _

theorem placeFresh_leads (snapshot : Snapshot) (request : Placement)
    (record : Reservation) :
    Attempt.Leads Effects
      (·.Holds fun journal => request.lease.session = journal.session ∧
        journal.reservations[request.lease.requestId]? = some record ∧
        record.lease = request.lease ∧ (true = true → record.released = false))
      (placeFresh world snapshot request record) (fun _ _ => True) := by
  have blind : ∀ (journal : Journal) handoffs,
      journal.Placeable request.lease record →
      Journal.Placeable { journal with handoffs := handoffs } request.lease
        record :=
    fun _ _ holds => ⟨holds.session, holds.found, holds.lease,
      holds.unreleased, holds.reserved⟩
  apply ensure_then
  intro reserved
  apply ensure_then
  intro _
  apply ensure_then
  intro _
  apply journal_then (fun _ holds => holds)
  rintro journal ⟨session, found, lease, unreleased⟩
  apply ensure_then
  intro _
  have placeable : journal.Placeable request.lease record :=
    ⟨session, found, lease, unreleased rfl, beq_iff_eq.mp reserved⟩
  apply Attempt.Leads.bind ((quiet_leads
    (supersede_quiet world request.window.pid) blind).weaken _
    fun _ _ holds => holds)
  · intro _
    apply Attempt.Leads.bind (quiet_leads
      (watchPlacement_quiet world snapshot request) blind)
    intro handoff
    apply Attempt.Leads.bind (dispatchMove_leads world snapshot request _
      handoff record)
    intro result
    apply Attempt.Leads.bind (effects_of_quiet
      (snapshot_quiet world)).leads_true
    intro current
    exact (settlePlacement_within world current request _ result).leads_true
  · rintro state ⟨⟨loaded, present, rfl⟩, -⟩
    exact ⟨loaded, present, placeable⟩

theorem place_leads (snapshot : Snapshot) (request : Placement) :
    Attempt.Leads Effects (·.Open snapshot.session)
      (place world snapshot request) (fun _ _ => True) := by
  apply Attempt.Leads.bind (checkLease_leads request.lease true
    fun _ isOpen => isOpen)
  intro record
  apply Attempt.leads_ite
  · intro _
    apply ensure_then
    intro _
    exact Attempt.leads_pure fun _ _ => trivial
  · intro _
    exact (placeFresh_leads world snapshot request record).weaken
      (fun _ holds => holds.1) fun _ _ holds => holds

/-! ### Closing -/

omit [Wire] in
theorem session_of_validateContext {snapshot : Snapshot} {context : Context}
    {active : Bool}
    (valid : validateContext snapshot context active = .ok ()) :
    context.session = snapshot.session := by
  unfold validateContext at valid
  split at valid
  · nomatch valid
  · rename_i known
    simp only [Bool.not_eq_true', Bool.not_eq_false, Bool.and_eq_true,
      beq_iff_eq] at known
    exact known.1

/-- What is known of a journal with a record for the close. -/
def Closes (session : String) (request : Close) (journal : Journal) : Prop :=
  journal.session = session ∧ ∃ record,
    journal.closes[request.requestId]? = some record ∧
      record.request = request

omit [Wire] in
theorem Closes.changeClose {session : String} {request : Close}
    {journal : Journal} (closes : Closes session request journal)
    (key : String) {update : CloseRecord → CloseRecord}
    (keeps : ∀ record, (update record).request = record.request) :
    Closes session request (journal.changeClose key update) := by
  obtain ⟨same, record, found, asked⟩ := closes
  refine ⟨same, if key = request.requestId then update record else record,
    ?_, ?_⟩
  · rw [Journal.changeClose, OrderedMaps.getElem?_modify, found]
    rfl
  · split
    · exact (keeps record).trans asked
    · exact asked

theorem changeClose_leads {session : String} {request : Close} (key : String)
    {update : CloseRecord → CloseRecord}
    (keeps : ∀ record, (update record).request = record.request) :
    Attempt.Leads Effects (·.Holds (Closes session request))
      (edit fun journal => journal.changeClose key update)
      (fun _ state => state.Holds (Closes session request)) := by
  apply edit_leads
  · intro state _
    exact Effect.closeChanged key (fun _ => update) fun _ => keeps
  · intro journal closes
    exact closes.changeClose key keeps

/-- An admitted close is durable when the service goes on. -/
theorem acceptClose_leads (request : Close) (targets : List Target)
    (session : String) :
    Attempt.Leads Effects
      (·.Holds fun journal => journal.session = session ∧
        journal.Closable request)
      (acceptClose world request targets)
      (fun _ state => state.Sound ∧
        state.Holds (Closes session request)) := by
  apply saving_leads world (fun _ => rfl)
  · rintro state ⟨loaded, present, same, -⟩
    refine ⟨{ loaded with
      journal := loaded.journal.acceptClose request targets },
      by simp [present], same, ⟨request, targets, .dispatching, none⟩, ?_, rfl⟩
    simp [Journal.acceptClose, Journal.fenceWorkspace, Journal.setClose]
  · rintro state ⟨loaded, present, -, closable⟩ final saves
    exact Effect.closeAccepted request targets ⟨loaded, present, closable⟩
      saves

theorem closeTarget_leads (session : String) (request : Close)
    (key : String) (target : Target) (index : Nat) :
    Attempt.Leads Effects (·.Holds (Closes session request))
      (closeTarget world key target index)
      (fun _ state => state.Holds (Closes session request)) := by
  have quietly : ∀ {Value : Type} {service : Service Value},
      Attempt.Within Quietly service →
      Attempt.Leads Effects (·.Holds (Closes session request)) service
        (fun _ state => state.Holds (Closes session request)) :=
    fun quiet => quiet_leads quiet fun _ _ holds => holds
  refine Attempt.Leads.bind (changeClose_leads key fun _ => rfl) fun _ => ?_
  apply Attempt.Leads.bind (quietly (save_quiet world))
  intro _
  apply Attempt.Leads.bind (quietly (encode_quiet world _))
  intro _
  apply Attempt.Leads.bind (quietly (encode_quiet world _))
  intro _
  apply Attempt.Leads.bind (quietly (caught_quiet (dispatch_quiet world rfl)))
  intro outcome
  have released : Attempt.Leads Effects (·.Holds (Closes session request))
      (do let _ ← caught (dispatch world (.releaseWindow target.token)))
      (fun _ state => state.Holds (Closes session request)) :=
    Attempt.Leads.bind (quietly (caught_quiet (dispatch_quiet world rfl)))
      fun _ => Attempt.leads_pure fun _ holds => holds
  cases outcome with
  | ok value => exact released
  | error text =>
      exact Attempt.Leads.bind (changeClose_leads key fun _ => rfl)
        fun _ => released

/-- The end of a close: it is observed, and its record is returned. -/
theorem observed_leads (request : Close) (session : String) :
    Attempt.Leads Effects
      (fun state => state.Sound ∧ state.Holds (Closes session request))
      (do
        Attempt.change fun state => { state with
          observers := state.observers ++ [(request.requestId, 0)] }
        required (← journal).closes[request.requestId]? "close disappeared")
      (fun record state => record.request = request ∧ state.Sound ∧
        state.Holds fun journal => journal.session = session ∧
          journal.closes[request.requestId]? = some record) := by
  have noticed : Attempt.Leads Effects
      (fun state => state.Sound ∧ state.Holds (Closes session request))
      (Attempt.change fun state => { state with
        observers := state.observers ++ [(request.requestId, 0)] } :
        Service Unit)
      (fun _ state => state.Sound ∧ state.Holds (Closes session request)) :=
    Attempt.leads_change (fun state _ =>
      (Quiet.noticed state.handoffEvents _).quietly.effects)
      fun _ holds => holds
  apply Attempt.Leads.bind noticed
  intro _
  apply journal_then (fun _ holds => holds.2)
  rintro journal ⟨-, record, found, asked⟩
  rw [found]
  apply Attempt.leads_pure
  rintro state ⟨⟨other, read, rfl⟩, sound, loaded, present, same, -⟩
  rw [present] at read
  obtain rfl := Option.some.inj read
  exact ⟨asked, sound, loaded, present, same, found⟩

theorem closeFresh_leads (snapshot : Snapshot) (request : Close)
    (valid : request.context.session = snapshot.session) :
    Attempt.Leads Effects (·.Open snapshot.session)
      (closeFresh world request)
      (fun record state => record.request = request ∧ state.Sound ∧
        state.Holds fun journal => journal.session = snapshot.session ∧
          journal.closes[request.requestId]? = some record) := by
  have blind : ∀ (journal : Journal) handoffs,
      journal.session = snapshot.session ∧ journal.Closable request →
      journal.session = snapshot.session ∧
        Journal.Closable { journal with handoffs := handoffs } request :=
    fun _ _ holds => ⟨holds.1, ⟨holds.2.unused.1, holds.2.unused.2⟩,
      holds.2.session⟩
  apply journal_then (fun _ holds => holds)
  intro journal same
  apply checked_then
  intro _ allowed
  have closable : journal.Closable request :=
    ⟨unused_of_admission allowed, valid.trans same.symm⟩
  apply Attempt.Leads.bind ((quiet_leads (reading_quiet world.epoch)
    blind).weaken _ fun _ _ holds => holds)
  · intro fresh
    apply Attempt.Leads.bind (quiet_leads (preparePins_quiet world) blind)
    intro _
    apply Attempt.Leads.bind (quiet_leads
      (pinnedSnapshot_quiet world _ _ _) blind)
    intro pinned
    apply ensure_then
    intro _
    apply Attempt.Leads.bind (acceptClose_leads world request _ _)
    intro _
    apply Attempt.Leads.bind ((Attempt.leads_forEach (fun item =>
      closeTarget_leads world snapshot.session request _ _ _) _).weaken
      (fun _ holds => holds.2) fun _ _ holds => holds)
    intro _
    refine Attempt.Leads.bind (changeClose_leads request.requestId
      fun _ => rfl) fun _ => ?_
    apply Attempt.Leads.bind (save_leads world effects_of_saves)
    intro _
    exact observed_leads request snapshot.session
  · rintro state ⟨⟨loaded, present, rfl⟩, -⟩
    exact ⟨loaded, present, same, closable⟩

/-- A close returns its own record, or joins another one. -/
theorem close_leads (snapshot : Snapshot) (request : Close) {joined : Prop} :
    Attempt.Leads Effects
      (fun state => state.Sound ∧ state.Holds fun journal =>
        journal.session = snapshot.session ∧
          (journal.closes[request.requestId]? = none →
            (joining journal request.context.workspaceId).isSome → joined))
      (close world snapshot request)
      (fun record state => joined ∨ record.request = request ∧ state.Sound ∧
        state.Holds fun journal => journal.session = snapshot.session ∧
          journal.closes[request.requestId]? = some record) := by
  apply journal_then (fun _ holds => holds.2)
  rintro journal ⟨same, joins⟩
  cases found : journal.closes[request.requestId]? with
  | some record =>
      apply ensure_then
      intro asked
      apply Attempt.leads_pure
      rintro state ⟨⟨loaded, present, rfl⟩, sound, -⟩
      exact .inr ⟨beq_iff_eq.mp asked, sound, loaded, present, same, found⟩
  | none =>
      apply checked_then
      intro _ valid
      apply journal_then (fun _ holds => holds.1)
      rintro other rfl
      cases joining : joining other request.context.workspaceId with
      | some record =>
          apply Attempt.leads_pure
          intro state _
          exact .inl (joins found (by rw [joining]; rfl))
      | none =>
          apply (closeFresh_leads world snapshot request
            (session_of_validateContext valid)).weaken
          · rintro state ⟨-, ⟨loaded, present, rfl⟩, -⟩
            exact ⟨loaded, present, same⟩
          · exact fun _ _ holds => .inr holds

end Service

end BarDaemon.Workspaces
