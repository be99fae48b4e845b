import BarDaemon.WorkspaceChanges

/-!
# The quiet parts of the workspace service

Calls, saving and handoffs leave the reservations, the closes and the entries
alone.  Triples read and change the journal beside them.
-/

namespace BarDaemon.Workspaces

open Std Relation

namespace Service

variable (world : Surroundings)

/-! ### Calls -/

theorem perform_quiet (refusal : String) :
    Attempt.Within Quietly (perform world refusal) := by
  intro state
  rcases fate : world.fate state.calls with _ | _ | _
  all_goals
    simp only [perform, fate]
    exact Quiet.called.quietly

theorem reading_quiet {Value : Type} (value : Nat → Value) :
    Attempt.Within Quietly (reading value) :=
  fun _ => Quiet.called.quietly

theorem raise_quiet {Value : Type} (text : String) :
    Attempt.Within Quietly (raise text : Service Value) :=
  Attempt.within_fail _

theorem ensure_quiet (condition : Bool) (text : String) :
    Attempt.Within Quietly (ensure condition text) :=
  Attempt.within_ensure _ _

theorem checked_quiet {Value : Type} (outcome : Except String Value) :
    Attempt.Within Quietly (checked outcome) :=
  Attempt.within_lift _ _

theorem required_quiet {Value : Type} (value : Option Value) (text : String) :
    Attempt.Within Quietly (required value text) := by
  cases value with
  | none => exact raise_quiet text
  | some value => exact Attempt.within_pure value

theorem caught_quiet {Value : Type} {service : Service Value}
    (quiet : Attempt.Within Quietly service) :
    Attempt.Within Quietly (caught service) :=
  quiet.catching

theorem snapshot_quiet : Attempt.Within Quietly (snapshot world) :=
  (perform_quiet world _).bind fun _ => reading_quiet _

theorem encode_quiet (expression : Expression) :
    Attempt.Within Quietly (encode world expression) :=
  ensure_quiet _ _

theorem dispatch_quiet {expression : Expression}
    (still : expression.movesLease = false) :
    Attempt.Within Quietly (dispatch world expression) := by
  have noted : Attempt.Within Quietly (note (.executed expression)) :=
    fun _ => (Quiet.executed expression still).quietly
  exact noted.bind fun _ => perform_quiet world _

theorem execute_quiet {expression : Expression}
    (still : expression.movesLease = false) :
    Attempt.Within Quietly (execute world expression) :=
  (encode_quiet world _).bind fun _ => dispatch_quiet world still

theorem pinnedSnapshot_quiet (monitor : String) (id : Int)
    (pinPrefix : String) :
    Attempt.Within Quietly (pinnedSnapshot world monitor id pinPrefix) :=
  (execute_quiet world rfl).bind fun _ => reading_quiet _

theorem pinnedState_quiet : Attempt.Within Quietly (pinnedState world) :=
  (perform_quiet world _).bind fun _ => reading_quiet _

theorem save_saves (state : State) : Saves state (save world state).2 := by
  rcases present : state.loaded with _ | loaded
  · simp only [save, present]
    exact .refused fun loaded absent => by simp [present] at absent
  · cases poisoned : loaded.poisoned with
    | true =>
        simp only [save, present, poisoned]
        refine .refused fun other same => ?_
        rw [present] at same
        rwa [← Option.some.inj same]
    | false =>
        rcases writing : world.writing state.calls with _ | written | written
        · simp only [save, present, poisoned, writing]
          exact .written loaded present
        · simp only [save, present, poisoned, writing]
          exact .poisoned loaded written present
        · simp only [save, present, poisoned, writing]
          exact .poisoned loaded written present

theorem save_quiet : Attempt.Within Quietly (save world) :=
  fun state => (Quiet.saved (save_saves world state)).quietly

theorem remembered_quiet (update : Loaded → Loaded)
    (keeps : ∀ loaded, (update loaded).journal = loaded.journal ∧
      (update loaded).poisoned = loaded.poisoned) :
    Attempt.Within Quietly (Attempt.change fun state =>
      state.withLoaded update : Service Unit) :=
  fun _ => (Quiet.remembered update keeps).quietly

theorem handoffs_quiet (handoffs : Journal → ExtTreeMap String Handoff) :
    Attempt.Within Quietly (edit fun journal =>
      { journal with handoffs := handoffs journal }) :=
  fun _ => (Quiet.watched handoffs).quietly

theorem preparePins_quiet : Attempt.Within Quietly (preparePins world) := by
  refine Attempt.within_read.bind fun state => ?_
  refine Attempt.Within.ite (Attempt.within_pure ()) ?_
  exact (execute_quiet world rfl).bind fun _ =>
    remembered_quiet _ fun _ => ⟨rfl, rfl⟩

theorem takeEvents_quiet : Attempt.Within Quietly takeEvents :=
  fun state => (Quiet.noticed .none state.observers).quietly

variable [Wire]

theorem journal_quiet : Attempt.Within Quietly journal :=
  fun _ => .refl

/-! ### Handoffs -/

theorem cancelHandoff_quiet (key : String) :
    Attempt.Within Quietly (cancelHandoff world key) := by
  refine journal_quiet.bind fun journal => ?_
  cases journal.handoffs[key]? with
  | none => exact Attempt.within_pure ()
  | some handoff =>
      exact (handoffs_quiet _).bind fun _ => (save_quiet world).bind fun _ =>
        (execute_quiet world rfl).bind fun _ => (handoffs_quiet _).bind
          fun _ => save_quiet world

theorem prepareHandoff_quiet (request : Placement) (snapshot : Snapshot) :
    Attempt.Within Quietly (prepareHandoff world request snapshot) :=
  journal_quiet.bind fun _ => (reading_quiet _).bind fun _ =>
    (reading_quiet _).bind fun _ => Attempt.within_pure _

theorem fence_quiet (events : HandoffEvents) (snapshot : Snapshot) :
    Attempt.Within Quietly (fence world events snapshot) :=
  journal_quiet.bind fun _ => (handoffs_quiet _).bind fun _ =>
    Attempt.Within.ite (save_quiet world) (Attempt.within_pure ())

theorem stale_quiet (events : HandoffEvents) (key : String)
    (handoff : Handoff) :
    Attempt.Within Quietly (stale world events key handoff) :=
  journal_quiet.bind fun _ => (reading_quiet _).bind fun _ =>
    Attempt.within_pure _

theorem excludeOthers_quiet (snapshot : Snapshot) (key : String)
    (handoff : Handoff) :
    Attempt.Within Quietly (excludeOthers world snapshot key handoff) :=
  Attempt.Within.ite (cancelHandoff_quiet world key) (handoffs_quiet _)

theorem replaceWindow_quiet (key : String) (handoff : Handoff)
    (candidate : Window) :
    Attempt.Within Quietly (replaceWindow world key handoff candidate) := by
  refine journal_quiet.bind fun journal => ?_
  refine (encode_quiet world _).bind fun _ => ?_
  refine (handoffs_quiet _).bind fun _ => (save_quiet world).bind fun _ => ?_
  refine (caught_quiet (dispatch_quiet world rfl)).bind fun outcome => ?_
  cases outcome with
  | error text =>
      exact (cancelHandoff_quiet world key).bind fun _ =>
        Attempt.within_pure _
  | ok value =>
      exact (handoffs_quiet _).bind fun _ => (save_quiet world).bind fun _ =>
        Attempt.within_pure _

theorem succeed_quiet (events : HandoffEvents) (snapshot : Snapshot)
    (key : String) (handoff : Handoff) :
    Attempt.Within Quietly (succeed world events snapshot key handoff) := by
  have cancelled : Attempt.Within Quietly (do
      cancelHandoff world key
      return false) :=
    (cancelHandoff_quiet world key).bind fun _ => Attempt.within_pure _
  refine (reading_quiet _).bind fun now => ?_
  refine (handoffs_quiet _).bind fun _ => (reading_quiet _).bind fun later => ?_
  refine Attempt.Within.ite cancelled ?_
  split
  · exact (handoffs_quiet _).bind fun _ => Attempt.within_pure _
  · exact Attempt.Within.ite cancelled (replaceWindow_quiet world key _ _)
  · exact cancelled

theorem reconcileHandoff_quiet (events : HandoffEvents) (snapshot : Snapshot)
    (key : String) :
    Attempt.Within Quietly (reconcileHandoff world events snapshot key) := by
  have cancelled : Attempt.Within Quietly (do
      cancelHandoff world key
      return false) :=
    (cancelHandoff_quiet world key).bind fun _ => Attempt.within_pure _
  refine journal_quiet.bind fun journal => ?_
  refine (required_quiet _ _).bind fun handoff => ?_
  refine (stale_quiet world events key handoff).bind fun ended => ?_
  refine Attempt.Within.ite cancelled ?_
  refine (pinnedState_quiet world).bind fun pinned => ?_
  cases pinned with
  | present =>
      exact (excludeOthers_quiet world snapshot key handoff).bind fun _ =>
        Attempt.within_pure _
  | gone => exact succeed_quiet world events snapshot key handoff
  | moved => exact cancelled
  | lost => exact cancelled

theorem reconcileAll_quiet (events : HandoffEvents) (snapshot : Snapshot)
    (keys : List String) :
    Attempt.Within Quietly (reconcileAll world events snapshot keys) := by
  induction keys with
  | nil => exact Attempt.within_pure _
  | cons key keys ih =>
      exact (reconcileHandoff_quiet world events snapshot key).bind fun _ =>
        ih.bind fun _ => Attempt.within_pure _

theorem reconcileHandoffs_quiet (snapshot : Snapshot) :
    Attempt.Within Quietly (reconcileHandoffs world snapshot) :=
  journal_quiet.bind fun _ => takeEvents_quiet.bind fun _ =>
    (fence_quiet world _ snapshot).bind fun _ =>
      reconcileAll_quiet world _ snapshot _

/-! ### Reading and changing the journal -/

omit [Wire] in
theorem ensure_then {Value : Type} {condition : Bool} {text : String}
    {next : Unit → Service Value} {before : State → Prop}
    {done : Value → State → Prop} {relation : State → State → Prop}
    [Std.Refl relation] [IsTrans State relation]
    (rest : condition = true → Attempt.Leads relation before (next ()) done) :
    Attempt.Leads relation before (ensure condition text >>= next) done := by
  cases condition with
  | true =>
      exact Attempt.Leads.bind (Attempt.leads_ensure fun _ holds _ => holds)
        fun _ => rest rfl
  | false => exact Attempt.leads_fail _

omit [Wire] in
theorem checked_then {Value Other : Type} {outcome : Except String Value}
    {next : Value → Service Other} {before : State → Prop}
    {done : Other → State → Prop} {relation : State → State → Prop}
    [Std.Refl relation] [IsTrans State relation]
    (rest : ∀ value, outcome = .ok value →
      Attempt.Leads relation before (next value) done) :
    Attempt.Leads relation before (checked outcome >>= next) done := by
  cases outcome with
  | error text => exact Attempt.leads_fail _
  | ok value => exact rest value rfl

omit [Wire] in
theorem required_then {Value Other : Type} {found : Option Value}
    {text : String} {next : Value → Service Other} {before : State → Prop}
    {done : Other → State → Prop} {relation : State → State → Prop}
    [Std.Refl relation] [IsTrans State relation]
    (rest : ∀ value, found = some value →
      Attempt.Leads relation before (next value) done) :
    Attempt.Leads relation before (required found text >>= next) done := by
  cases found with
  | none => exact Attempt.leads_fail _
  | some value => exact rest value rfl

/-- Reading the journal teaches what is known of it. -/
theorem journal_then {Value : Type} {next : Journal → Service Value}
    {property : Journal → Prop} {before : State → Prop}
    {done : Value → State → Prop} {relation : State → State → Prop}
    [Std.Refl relation] [IsTrans State relation]
    (known : ∀ state, before state → state.Holds property)
    (rest : ∀ read, property read → Attempt.Leads relation
      (fun state => state.Holds (· = read) ∧ before state) (next read) done) :
    Attempt.Leads relation before (journal >>= next) done := by
  apply Attempt.leads_of_forall
  intro state holds
  obtain ⟨loaded, present, met⟩ := known state holds
  have continued := (rest loaded.journal met).each
    ⟨⟨loaded, present, rfl⟩, holds⟩
  have found : journal state = (.ok loaded.journal, state) := by
    simp [journal, present]
  rw [Attempt.bind_apply, found]
  exact continued

/-- What a quiet computation leaves of the journal. -/
theorem quiet_leads {Value : Type} {service : Service Value}
    {property : Journal → Prop} (quiet : Attempt.Within Quietly service)
    (blind : ∀ journal handoffs, property journal →
      property { journal with handoffs := handoffs }) :
    Attempt.Leads Effects (·.Holds property) service
      (fun _ state => state.Holds property) :=
  quiet.leads (fun _ _ => Quietly.effects)
    fun _ _ quietly => quietly.holds blind

theorem effects_of_quiet {Value : Type} {service : Service Value}
    (quiet : Attempt.Within Quietly service) :
    Attempt.Within Effects service :=
  quiet.mono fun _ _ => Quietly.effects

/-- A number is allocated above the high watermark. -/
theorem allocating_leads (live : List Int) {property : Journal → Prop} :
    Attempt.Leads Effects (·.Holds property) (allocating live)
      (fun id state => state.Holds fun journal => id ≤ journal.high ∧
        ∃ before, property before ∧ journal = { before with high := id }) := by
  apply Attempt.leads_of_forall
  rintro state ⟨loaded, present, holds⟩
  cases allocated : loaded.journal.allocate live with
  | error text =>
      have refused : allocating live state = (.error (.error text), state) := by
        simp [allocating, Attempt.bind_apply, journal, checked, Attempt.lift,
          Attempt.fail, present, allocated]
      rw [refused]
  | ok pair =>
      obtain ⟨id, next⟩ := pair
      have done : allocating live state = (.ok id,
          (state.withJournal fun _ => next).traced
            (.allocated loaded.journal.session id live
              loaded.journal.entries.keys)) := by
        simp [allocating, Attempt.bind_apply, journal, checked, Attempt.lift,
          edit, note, Attempt.change, present, allocated]
      obtain ⟨-, -, changed⟩ := Journal.allocate_eq_ok_iff.mp allocated
      rw [done]
      refine ⟨(Effect.allocated loaded live id next present allocated).effects,
        { loaded with journal := next }, by simp [present], ?_⟩
      rw [changed]
      exact ⟨Int.le_refl _, loaded.journal, holds, rfl⟩

omit [Wire] in
theorem save_leads {property : Journal → Prop}
    {relation : State → State → Prop}
    (covers : ∀ state after, Saves state after → relation state after) :
    Attempt.Leads relation (·.Holds property) (save world)
      (fun _ state => state.Sound ∧ state.Holds property) := by
  apply Attempt.leads_of_forall
  rintro state ⟨loaded, present, holds⟩
  have saves := covers _ _ (save_saves world state)
  cases poisoned : loaded.poisoned with
  | true =>
      simp only [save, present, poisoned, if_true] at saves ⊢
      exact saves
  | false =>
      rcases writing : world.writing state.calls with _ | written | written
      · simp only [save, present, poisoned, writing] at saves ⊢
        exact ⟨saves, ⟨loaded, present, poisoned⟩, loaded, present, holds⟩
      · simp only [save, present, poisoned, writing] at saves ⊢
        exact saves
      · simp only [save, present, poisoned, writing] at saves ⊢
        exact saves

omit [Wire] in
theorem save_eq_ok {state after : State} {value : Unit}
    (saved : save world state = (.ok value, after)) :
    ∃ loaded, state.loaded = some loaded ∧
      after = state.called.wrote loaded.journal := by
  unfold save at saved
  split at saved
  · simp at saved
  · rename_i loaded present
    split at saved
    · simp at saved
    · split at saved
      · exact ⟨loaded, present, (Prod.mk.inj saved).2.symm⟩
      · simp at saved
      · simp at saved

theorem effects_of_saves (state after : State)
    (saves : Saves state after) : Effects state after :=
  (Quiet.saved saves).quietly.effects

/-- An edit that is a single effect. -/
theorem edit_leads {update : Journal → Journal} {before : Journal → Prop}
    (after : Journal → Prop)
    (effect : ∀ state, state.Holds before →
      Effect state (state.withJournal update))
    (becomes : ∀ journal, before journal → after (update journal)) :
    Attempt.Leads Effects (·.Holds before) (edit update)
      (fun _ state => state.Holds after) := by
  apply Attempt.leads_change
  · exact fun state holds => (effect state holds).effects
  · rintro state ⟨loaded, present, holds⟩
    exact ⟨{ loaded with journal := update loaded.journal }, by simp [present],
      becomes _ holds⟩

end Service

end BarDaemon.Workspaces
