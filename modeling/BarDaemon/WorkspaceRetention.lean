import BarDaemon.WorkspaceQuiet

/-!
# Retiring workspaces makes single effects

The pass over the entries, and the observation of closes.
-/

namespace BarDaemon.Workspaces

open Std Relation

namespace Service

variable (world : Surroundings) [Wire]

/-! ### Retention -/

omit [Wire] in
/-- Without a first mapped window there is no mapped window. -/
theorem unoccupied_of_firstMappedIn {snapshot : Snapshot} {id : Int}
    (absent : snapshot.firstMappedIn id = none) :
    snapshot.mappedIn id = [] := by
  have kept {pick : Option Window → Window → Option Window}
      (picks : ∀ first window, (pick first window).isSome = true)
      (windows : List Window) (first : Window) :
      windows.foldl pick (some first) ≠ none := by
    induction windows generalizing first with
    | nil => simp
    | cons window windows ih =>
        obtain ⟨next, picked⟩ :=
          Option.isSome_iff_exists.mp (picks (some first) window)
        rw [List.foldl_cons, picked]
        exact ih next
  cases mapped : snapshot.mappedIn id with
  | nil => rfl
  | cons window windows =>
      rw [Snapshot.firstMappedIn, mapped] at absent
      refine absurd absent (kept ?_ windows window)
      intro first window
      cases first <;> rfl

theorem noteActivity_within (monitors : List Monitor) :
    Attempt.Within Effects (noteActivity monitors) := by
  induction monitors with
  | nil => exact Attempt.within_pure _
  | cons monitor monitors ih =>
      apply (effects_of_quiet journal_quiet).bind
      intro journal
      have visited : Attempt.Within Effects (edit fun journal =>
          journal.noteActive monitor) :=
        fun state => (Effect.visited monitor).effects
      apply visited.bind
      intro _
      exact ih.bind fun _ => Attempt.within_pure _

omit [Wire] in
theorem forgetEmpty_quiet (id : Int) :
    Attempt.Within Quietly (forgetEmpty id) :=
  remembered_quiet _ fun _ => ⟨rfl, rfl⟩

omit [Wire] in
theorem emptySince_quiet (id : Int) :
    Attempt.Within Quietly (emptySince world id) := by
  refine (reading_quiet _).bind fun now => ?_
  refine Attempt.within_read.bind fun seen => ?_
  have remembered := fun since : Nat => remembered_quiet
    (fun loaded => { loaded with
      emptySince := loaded.emptySince.insert id since }) fun _ => ⟨rfl, rfl⟩
  exact (remembered _).bind fun _ => Attempt.within_pure _

theorem inGrace_quiet (id : Int) (occupied : Bool) :
    Attempt.Within Quietly (inGrace world id occupied) := by
  apply journal_quiet.bind
  intro journal
  apply Attempt.Within.ite
  · exact (emptySince_quiet world id).bind fun _ => (reading_quiet _).bind
      fun _ => journal_quiet.bind fun _ => Attempt.within_pure _
  · exact Attempt.within_pure _

omit [Wire] in
/-- A fresh unkept entry changes nothing for the one that is judged. -/
theorem Retirable.setEntry {journal : Journal} {snapshot : Snapshot} {id : Int}
    (retirable : journal.Retirable snapshot id) {entry : Entry}
    (unkept : entry.keepUntilClosed = false) :
    (journal.setEntry entry).Retirable snapshot id := by
  refine ⟨retirable.unoccupied, ?_, retirable.unleased, retirable.unclosing⟩
  intro other found
  rw [Journal.setEntry, OrderedMaps.getElem?_insert] at found
  split at found
  · rw [← Option.some.inj found]
    exact unkept
  · exact retirable.unkept other found

theorem freshFallback_leads (snapshot : Snapshot) (monitor : String)
    (judged : Snapshot) (retiring : Int) :
    Attempt.Leads Effects
      (·.Holds fun journal => journal.Retirable judged retiring)
      (freshFallback world snapshot monitor)
      (fun _ state => state.Holds fun journal =>
        journal.Retirable judged retiring) := by
  have allocated : Attempt.Leads Effects
      (·.Holds fun journal => journal.Retirable judged retiring)
      (allocating snapshot.liveIds)
      (fun id state => state.Holds fun journal => id ≤ journal.high ∧
        journal.Retirable judged retiring) := by
    apply (allocating_leads snapshot.liveIds).weaken (fun _ holds => holds)
    rintro id state ⟨loaded, present, bounded, before, retirable, same⟩
    refine ⟨loaded, present, bounded, ?_⟩
    rw [same]
    exact ⟨retirable.unoccupied, retirable.unkept, retirable.unleased,
      retirable.unclosing⟩
  have blind : ∀ (id : Int) (journal : Journal) handoffs,
      id ≤ journal.high ∧ journal.Retirable judged retiring →
      id ≤ journal.high ∧
        Journal.Retirable { journal with handoffs := handoffs } judged
          retiring :=
    fun _ _ _ holds => ⟨holds.1, holds.2.unoccupied, holds.2.unkept,
      holds.2.unleased, holds.2.unclosing⟩
  apply Attempt.Leads.bind allocated
  intro id
  apply Attempt.Leads.bind (quiet_leads (reading_quiet world.epoch) (blind id))
  intro generation
  apply Attempt.Leads.bind (edit_leads
    (fun journal => journal.Retirable judged retiring) _ _)
  · intro _
    apply Attempt.Leads.bind (save_leads world effects_of_saves)
    intro _
    exact Attempt.leads_pure fun _ holds => holds.2
  · rintro state ⟨loaded, present, bounded, -⟩
    exact Effect.entered _ ⟨loaded, present, bounded⟩
  · exact fun journal holds => Retirable.setEntry holds.2 rfl

theorem leave_leads (snapshot : Snapshot) (id : Int) :
    Attempt.Leads Effects
      (·.Holds fun journal => journal.Retirable snapshot id)
      (leave world snapshot id)
      (fun _ state => state.Holds fun journal =>
        journal.Retirable snapshot id) := by
  have blind : ∀ (journal : Journal) handoffs,
      journal.Retirable snapshot id →
      Journal.Retirable { journal with handoffs := handoffs } snapshot id :=
    fun _ _ holds => ⟨holds.unoccupied, holds.unkept, holds.unleased,
      holds.unclosing⟩
  unfold leave
  split
  · exact Attempt.leads_pure fun _ holds => holds
  · rename_i monitor _
    have chosen : Attempt.Leads Effects
        (·.Holds fun journal => journal.Retirable snapshot id)
        (fallbackFor world snapshot monitor.name id)
        (fun _ state => state.Holds fun journal =>
          journal.Retirable snapshot id) := by
      apply journal_then (fun _ holds => holds)
      intro journal _
      cases journal.fallback snapshot monitor.name id with
      | some destination => exact Attempt.leads_pure fun _ holds => holds.2
      | none =>
          exact (freshFallback_leads world snapshot monitor.name snapshot
            id).weaken (fun _ holds => holds.2) fun _ _ holds => holds
    apply Attempt.Leads.bind chosen
    intro destination
    apply Attempt.Leads.bind (quiet_leads (execute_quiet world rfl) blind)
    intro _
    apply Attempt.Leads.bind (quiet_leads (snapshot_quiet world) blind)
    intro observed
    exact Attempt.leads_ensure fun _ holds _ => holds

theorem removeEntry_leads (snapshot : Snapshot) (id : Int) :
    Attempt.Leads Effects
      (·.Holds fun journal => journal.Retirable snapshot id)
      (removeEntry snapshot id) (fun _ _ => True) := by
  apply Attempt.leads_of_respects
  rintro state ⟨loaded, present, retirable⟩
  have removed := Effect.retired loaded snapshot id present retirable
  have forgotten := forgetEmpty_quiet id
    ((state.traced (.retired id snapshot loaded.journal)).withJournal
      fun journal => journal.dropEntry id)
  have computed : removeEntry snapshot id state = forgetEmpty id
      ((state.traced (.retired id snapshot loaded.journal)).withJournal
        fun journal => journal.dropEntry id) := by
    simp [removeEntry, Attempt.bind_apply, journal, note, edit,
      Attempt.change, present]
  rw [computed]
  exact removed.effects.trans (Quietly.effects forgotten)

/-- What is known of an entry that is judged empty. -/
structure Judged (snapshot : Snapshot) (id : Int) (entry : Entry)
    (journal : Journal) : Prop where
  unoccupied : snapshot.mappedIn id = []
  found : journal.entries[id]? = some entry
  unleased : journal.leased id = false
  unclosing : journal.closing id = false

theorem retireUnclaimed_leads (snapshot : Snapshot) (id : Int) (entry : Entry)
    (adoptable : Bool) :
    Attempt.Leads Effects (·.Holds (Judged snapshot id entry))
      (retireUnclaimed world snapshot id entry adoptable)
      (fun _ _ => True) := by
  apply Attempt.leads_ite
  · intro _
    exact Attempt.leads_pure fun _ _ => trivial
  · intro unclaimed
    rw [Bool.or_eq_true, not_or] at unclaimed
    apply Attempt.Leads.bind (quiet_leads (inGrace_quiet world id _)
      fun _ _ judged => ⟨judged.1, judged.2, judged.3, judged.4⟩)
    intro waits
    apply Attempt.leads_ite
    · intro _
      exact Attempt.leads_pure fun _ _ => trivial
    · intro _
      apply Attempt.Leads.bind ((leave_leads world snapshot id).weaken _
        fun _ _ holds => holds)
      · intro _
        apply Attempt.Leads.bind (removeEntry_leads snapshot id)
        intro _
        exact Attempt.leads_pure fun _ _ => trivial
      · rintro state ⟨loaded, present, judged⟩
        refine ⟨loaded, present, judged.unoccupied, ?_, judged.unleased,
          judged.unclosing⟩
        intro other found
        rw [judged.found] at found
        rw [← Option.some.inj found]
        simpa using unclaimed.1

theorem retireEmpty_leads (snapshot : Snapshot) (id : Int) (entry : Entry)
    (unoccupied : snapshot.mappedIn id = []) :
    Attempt.Leads Effects
      (·.Holds fun journal => journal.entries[id]? = some entry)
      (retireEmpty world snapshot id entry) (fun _ _ => True) := by
  apply journal_then (fun _ holds => holds)
  intro journal found
  apply Attempt.leads_ite
  · intro _
    apply Attempt.leads_ite
    · intro _
      have adopted : Attempt.Within Effects (edit fun journal =>
          journal.changeEntry id fun entry => { entry with
            landingPad := true }) :=
        fun state => (Effect.observed id (fun _ entry => { entry with
          landingPad := true }) fun _ _ => ⟨rfl, rfl, rfl⟩).effects
      exact (adopted.bind fun _ => Attempt.within_pure true).leads_true
    · intro _
      exact Attempt.leads_pure fun _ _ => trivial
  · intro unclaimed
    rw [Bool.or_eq_true, not_or, Bool.not_eq_true, Bool.not_eq_true]
      at unclaimed
    apply (retireUnclaimed_leads world snapshot id entry _).weaken
    · rintro state ⟨⟨loaded, present, rfl⟩, -⟩
      exact ⟨loaded, present, unoccupied, found, unclaimed.2, unclaimed.1⟩
    · exact fun _ _ _ => trivial

omit [Wire] in
/-- Observing a workspace keeps what its retention depends on. -/
theorem Entry.observe_keeps (entry : Entry)
    (icons : String → String → Option String) (workspace : Option Workspace)
    (window : Option Window) :
    Entry.Keeps entry (entry.observe icons workspace window) := by
  have moved : ∀ moved : Entry,
      Entry.Keeps moved (moved.observeWindow icons window) := by
    intro moved
    unfold Entry.observeWindow
    cases window with
    | none => exact ⟨rfl, rfl, rfl⟩
    | some window =>
        simp only
        split
        · exact ⟨rfl, rfl, rfl⟩
        · exact ⟨rfl, rfl, rfl⟩
  cases workspace with
  | none => exact moved entry
  | some workspace =>
      have kept := moved { entry with monitor := workspace.monitor }
      exact ⟨kept.id, kept.generation, kept.keepUntilClosed⟩

theorem retire_leads (snapshot : Snapshot) (id : Int) (session : String) :
    Attempt.Leads Effects (·.Open session) (retire world snapshot id)
      (fun _ _ => True) := by
  apply Attempt.Leads.bind (quiet_leads (reading_quiet world.icons)
    fun _ _ same => same)
  intro icons
  apply journal_then (fun _ holds => holds)
  intro journal _
  apply required_then
  intro entry found
  let workspace := snapshot.workspaces.find? fun workspace =>
    workspace.id == some id
  let window := snapshot.firstMappedIn id
  have observed : Attempt.Leads Effects
      (·.Holds fun journal => journal.entries[id]? = some entry)
      (edit fun journal => journal.changeEntry id fun entry =>
        entry.observe icons workspace window)
      (fun _ state => state.Holds fun journal =>
        journal.entries[id]? = some (entry.observe icons workspace window)) := by
    apply edit_leads
    · intro state _
      exact Effect.observed id (fun _ entry =>
        entry.observe icons workspace window)
        fun _ entry => Entry.observe_keeps entry icons workspace window
    · intro journal found
      rw [Journal.changeEntry, OrderedMaps.getElem?_modify, found]
      simp
  apply Attempt.Leads.bind (observed.weaken _ fun _ _ holds => holds)
  · intro _
    apply Attempt.leads_ite
    · intro _
      exact ((effects_of_quiet (forgetEmpty_quiet id)).bind
        fun _ => Attempt.within_pure _).leads_true
    · intro empty
      have absent : snapshot.firstMappedIn id = none := by
        simpa using empty
      apply Attempt.Leads.bind (retireEmpty_leads world snapshot id _
        (unoccupied_of_firstMappedIn absent))
      intro _
      exact Attempt.leads_pure fun _ _ => trivial
  · rintro state ⟨⟨loaded, present, rfl⟩, -⟩
    exact ⟨loaded, present, found⟩

theorem retireAll_leads (snapshot : Snapshot) (ids : List Int)
    (session : String) :
    Attempt.Leads Effects (·.Open session) (retireAll world snapshot ids)
      (fun _ _ => True) := by
  induction ids with
  | nil => exact Attempt.leads_pure fun _ _ => trivial
  | cons id ids ih =>
      apply Attempt.Leads.bind ((retire_leads world snapshot id
        session).keeping fun _ _ => Effects.isOpen)
      intro changed
      apply Attempt.Leads.bind (ih.weaken (fun _ holds => holds.2)
        fun _ _ holds => holds)
      intro rest
      exact Attempt.leads_pure fun _ _ => trivial

theorem cleanup_leads (snapshot : Snapshot) (session : String) :
    Attempt.Leads Effects (·.Open session) (cleanup world snapshot)
      (fun _ _ => True) := by
  have refreshed : Attempt.Within Quietly (refreshed world snapshot) := by
    refine (reconcileHandoffs_quiet world snapshot).bind fun moved => ?_
    exact Attempt.Within.ite (snapshot_quiet world) (Attempt.within_pure _)
  apply Attempt.Leads.bind (quiet_leads refreshed fun _ _ same => same)
  intro current
  apply Attempt.Leads.bind ((noteActivity_within current.monitors).leads
    (fun _ _ effects => effects) fun _ _ => Effects.isOpen)
  intro visited
  apply journal_then (fun _ holds => holds)
  intro journal _
  apply Attempt.Leads.bind ((retireAll_leads world current journal.entries.keys
    session).weaken (fun _ holds => holds.2) fun _ _ holds => holds)
  intro retired
  apply Attempt.leads_ite
  · intro _
    exact (effects_of_quiet (save_quiet world)).leads_true
  · intro _
    exact Attempt.leads_pure fun _ _ => trivial

/-! ### Observing closes -/

theorem changeClose_within (key : String)
    {update : CloseRecord → CloseRecord}
    (keeps : ∀ record, (update record).request = record.request) :
    Attempt.Within Effects
      (edit fun journal => journal.changeClose key update) :=
  fun _ => (Effect.closeChanged key (fun _ => update) fun _ => keeps).effects

theorem settleClose_leads (key : String) (record : CloseRecord)
    (snapshot : Except String Snapshot) (session : String) :
    Attempt.Leads Effects (·.Open session)
      (settleClose world key record snapshot) (fun _ _ => True) := by
  have changed := changeClose_within key (fun other : CloseRecord =>
    (rfl : { other with status := observedStatus record snapshot }.request =
      other.request))
  apply Attempt.Leads.bind (changed.leads (fun _ _ effects => effects)
    fun _ _ => Effects.isOpen)
  intro _
  apply Attempt.Leads.bind (quiet_leads (caught_quiet (save_quiet world))
    fun _ _ same => same)
  intro saved
  split
  · apply Attempt.Leads.bind (cleanup_leads world _ session).catching
    intro _
    exact Attempt.leads_pure fun _ _ => trivial
  · exact Attempt.leads_pure fun _ _ => trivial

theorem observeClose_leads (key : String) (attempt : Nat) (session : String) :
    Attempt.Leads Effects (·.Open session) (observeClose world key attempt)
      (fun _ _ => True) := by
  have noticed : ∀ observers : State → List (String × Nat),
      Attempt.Within Quietly (Attempt.change fun state => { state with
        observers := observers state } : Service Unit) :=
    fun observers state =>
      (Quiet.noticed state.handoffEvents (observers state)).quietly
  apply Attempt.Leads.bind (quiet_leads (caught_quiet (snapshot_quiet world))
    fun _ _ same => same)
  intro snapshot
  apply Attempt.Leads.bind (quiet_leads (noticed _) fun _ _ same => same)
  intro _
  apply journal_then (fun _ holds => holds)
  intro journal _
  cases journal.closes[key]? with
  | none => exact Attempt.leads_pure fun _ _ => trivial
  | some record =>
      apply Attempt.leads_ite
      · intro _
        exact (settleClose_leads world key record snapshot session).weaken
          (fun _ holds => holds.2) fun _ _ holds => holds
      · intro _
        exact (effects_of_quiet (noticed _)).leads_true

/-- Without a journal in memory nothing is observed. -/
theorem observeClose_unloaded (key : String) (attempt : Nat) :
    Attempt.Leads Effects (fun state => state.loaded = none)
      (observeClose world key attempt) (fun _ _ => True) := by
  have stopped : Attempt.Within Quietly (stopObserving key attempt) :=
    fun state => (Quiet.noticed state.handoffEvents _).quietly
  have quietly : ∀ {Value : Type} {service : Service Value},
      Attempt.Within Quietly service →
      Attempt.Leads Effects (fun state => state.loaded = none) service
        (fun _ state => state.loaded = none) :=
    fun quiet => quiet.leads (fun _ _ => Quietly.effects)
      fun _ _ => Quietly.unloaded
  apply Attempt.Leads.bind (quietly (caught_quiet (snapshot_quiet world)))
  intro snapshot
  apply Attempt.Leads.bind (quietly stopped)
  intro _
  apply Attempt.leads_of_forall
  intro state absent
  have nothing : (Journal.empty "").closes[key]? = none := by
    simp [Journal.empty]
  simp only [Attempt.bind_apply, journal, absent, Option.map_none,
    Option.getD_none, nothing, Attempt.pure_apply]
  exact ⟨.refl, trivial⟩

theorem observeClose_within (key : String) (attempt : Nat) :
    Attempt.Within Effects (observeClose world key attempt) := by
  intro state
  cases present : state.loaded with
  | none => exact (observeClose_unloaded world key attempt).respects present
  | some loaded =>
      exact (observeClose_leads world key attempt _).respects
        ⟨loaded, present, rfl⟩

end Service

end BarDaemon.Workspaces
