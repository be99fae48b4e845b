import Mathlib.Logic.Relation
import BarDaemon.WorkspaceRequests

/-!
# The changes that the workspace service makes

Everything that the service does to its state is a sequence of the changes
below, each with the checks that precede it.  What holds in every run is
proved of the single changes.
-/

namespace BarDaemon.Workspaces

open Std Relation

namespace State

variable (state : State)

@[simp]
theorem loaded_called : state.called.loaded = state.loaded :=
  rfl

@[simp]
theorem files_called : state.called.files = state.files :=
  rfl

@[simp]
theorem trace_called : state.called.trace = state.trace :=
  rfl

@[simp]
theorem writer_called : state.called.writer = state.writer :=
  rfl

@[simp]
theorem loaded_traced (event : Event) :
    (state.traced event).loaded = state.loaded :=
  rfl

@[simp]
theorem files_traced (event : Event) :
    (state.traced event).files = state.files :=
  rfl

@[simp]
theorem trace_traced (event : Event) :
    (state.traced event).trace = state.trace ++ [event] :=
  rfl

@[simp]
theorem loaded_withLoaded (update : Loaded → Loaded) :
    (state.withLoaded update).loaded = state.loaded.map update :=
  rfl

@[simp]
theorem files_withLoaded (update : Loaded → Loaded) :
    (state.withLoaded update).files = state.files :=
  rfl

@[simp]
theorem trace_withLoaded (update : Loaded → Loaded) :
    (state.withLoaded update).trace = state.trace :=
  rfl

@[simp]
theorem loaded_withJournal (update : Journal → Journal) :
    (state.withJournal update).loaded = state.loaded.map fun loaded =>
      { loaded with journal := update loaded.journal } :=
  rfl

@[simp]
theorem files_withJournal (update : Journal → Journal) :
    (state.withJournal update).files = state.files :=
  rfl

@[simp]
theorem trace_withJournal (update : Journal → Journal) :
    (state.withJournal update).trace = state.trace :=
  rfl

@[simp]
theorem loaded_wrote (journal : Journal) :
    (state.wrote journal).loaded = state.loaded :=
  rfl

theorem files_wrote (journal : Journal) (session : String) :
    (state.wrote journal).files session =
      if session = journal.session then some journal.serialized
      else state.files session :=
  rfl

@[simp]
theorem trace_wrote (journal : Journal) :
    (state.wrote journal).trace =
      state.trace ++ [.saved journal.serialized] :=
  rfl

@[simp]
theorem loaded_poisoned (journal : Journal) (written : Bool) :
    (state.poisoned journal written).loaded = state.loaded.map fun loaded =>
      { loaded with poisoned := true } := by
  cases written <;> rfl

theorem withJournal_withJournal (first second : Journal → Journal) :
    (state.withJournal first).withJournal second =
      state.withJournal (second ∘ first) := by
  rcases loaded : state.loaded with _ | ⟨journal, poisoned, cleaned, empty⟩
  · simp [withJournal, withLoaded, loaded]
  · simp [withJournal, withLoaded, loaded]

/-- The journal in memory has the property. -/
def Holds (property : Journal → Prop) : Prop :=
  ∃ loaded, state.loaded = some loaded ∧ property loaded.journal

/-- The journal in memory is not known to differ from its file. -/
def Poisoned : Prop :=
  ∀ loaded, state.loaded = some loaded → loaded.poisoned = true

/-- The journal in memory may be used. -/
def Sound : Prop :=
  ∃ loaded, state.loaded = some loaded ∧ loaded.poisoned = false

end State

/-! ### The single changes -/

/-- How saving the journal in memory ends. -/
inductive Saves (state : State) : State → Prop
  | refused : state.Poisoned → Saves state state
  | written (loaded : Loaded) : state.loaded = some loaded →
      Saves state (state.called.wrote loaded.journal)
  | poisoned (loaded : Loaded) (written : Bool) : state.loaded = some loaded →
      Saves state (state.called.poisoned loaded.journal written)

/-- Whether an expression is the move of a lease. -/
def Expression.movesLease : Expression → Bool
  | .moveLocal _ _ _ _ => true
  | _ => false

/-- What leaves the reservations, the closes and the entries alone. -/
inductive Quiet (state : State) : State → Prop
  | called : Quiet state state.called
  | executed (expression : Expression) : expression.movesLease = false →
      Quiet state (state.traced (.executed expression))
  | saved {after : State} : Saves state after → Quiet state after
  | remembered (update : Loaded → Loaded) :
      (∀ loaded, (update loaded).journal = loaded.journal ∧
        (update loaded).poisoned = loaded.poisoned) →
      Quiet state (state.withLoaded update)
  | watched (handoffs : Journal → ExtTreeMap String Handoff) :
      Quiet state (state.withJournal fun journal =>
        { journal with handoffs := handoffs journal })
  | noticed (events : HandoffEvents) (observers : List (String × Nat)) :
      Quiet state
        { state with handoffEvents := events, observers := observers }

/-- What observing a workspace leaves of its entry. -/
structure Entry.Keeps (before after : Entry) : Prop where
  id : after.id = before.id
  generation : after.generation = before.generation
  keepUntilClosed : after.keepUntilClosed = before.keepUntilClosed

/-- What settling a reservation leaves of it. -/
structure Reservation.Keeps (before after : Reservation) : Prop where
  request : after.request = before.request
  lease : after.lease = before.lease
  writer : after.writer = before.writer
  released : after.released = before.released

/-- Whether an entry may be removed, judged on a snapshot. -/
structure Journal.Retirable (journal : Journal) (snapshot : Snapshot)
    (id : Int) : Prop where
  unoccupied : snapshot.mappedIn id = []
  unkept : ∀ entry, journal.entries[id]? = some entry →
    entry.keepUntilClosed = false
  unleased : journal.leased id = false
  unclosing : journal.closing id = false

/-- Whether a key has no record. -/
structure Journal.Unused (journal : Journal) (key : String) : Prop where
  reservation : journal.reservations[key]? = none
  close : journal.closes[key]? = none

/-- Whether the lease is for a fresh request of the journal. -/
structure Journal.Reservable (journal : Journal) (request : Create)
    (lease : Lease) : Prop where
  unused : journal.Unused request.requestId
  session : lease.session = journal.session
  requestId : lease.requestId = request.requestId
  numbered : request.workspaceId = none → lease.workspaceId ≤ journal.high

/-- Whether the move of the lease may be tried. -/
structure Journal.Placeable (journal : Journal) (lease : Lease)
    (record : Reservation) : Prop where
  session : lease.session = journal.session
  found : journal.reservations[lease.requestId]? = some record
  lease : record.lease = lease
  unreleased : record.released = false
  reserved : record.status = .reserved

/-- Whether the close is a fresh one. -/
structure Journal.Closable (journal : Journal) (request : Close) : Prop where
  unused : journal.Unused request.requestId
  session : request.context.session = journal.session

/-- What a method does to a journal that has been loaded. -/
inductive Effect [Wire] (state : State) : State → Prop
  | quiet {after : State} : Quiet state after → Effect state after
  | visited (monitor : Monitor) :
      Effect state (state.withJournal fun journal =>
        journal.noteActive monitor)
  | observed (id : Int) (update : Journal → Entry → Entry) :
      (∀ journal entry, Entry.Keeps entry (update journal entry)) →
      Effect state (state.withJournal fun journal =>
        journal.changeEntry id (update journal))
  | allocated (loaded : Loaded) (live : List Int) (id : Int)
      (next : Journal) : state.loaded = some loaded →
      loaded.journal.allocate live = .ok (id, next) →
      Effect state ((state.withJournal fun _ => next).traced
        (.allocated loaded.journal.session id live
          loaded.journal.entries.keys))
  | entered (entry : Entry) :
      (state.Holds fun journal => entry.id ≤ journal.high) →
      Effect state (state.withJournal fun journal => journal.setEntry entry)
  | retired (loaded : Loaded) (snapshot : Snapshot) (id : Int) :
      state.loaded = some loaded → loaded.journal.Retirable snapshot id →
      Effect state
        ((state.traced (.retired id snapshot loaded.journal)).withJournal
          fun journal => journal.dropEntry id)
  | reserved {after : State} (request : Create) (lease : Lease) :
      (state.Holds fun journal => journal.Reservable request lease) →
      Saves ((state.withJournal fun journal =>
        journal.reserve request lease state.writer).traced (.reserved lease))
        after →
      Effect state after
  | resolved (key : String)
      (update : Journal → Reservation → Reservation) :
      (∀ journal record, Reservation.Keeps record (update journal record) ∧
        (update journal record).status ≠ .reserved) →
      Effect state (state.withJournal fun journal =>
        journal.changeReservation key (update journal))
  | moved (loaded : Loaded) (request : Placement) (record : Reservation)
      (monitor : String) (pin : Option String) : state.loaded = some loaded →
      loaded.journal.Placeable request.lease record →
      Effect state
        (((state.withJournal fun journal =>
          journal.beginPlacement request).called.wrote
            (loaded.journal.beginPlacement request)).traced
          (.executed (.moveLocal request.lease request.window monitor pin)))
  | released (lease : Lease) : state.Sound →
      (state.Holds fun journal => lease.session = journal.session ∧
        ∃ record, journal.reservations[lease.requestId]? = some record ∧
          record.lease = lease) →
      Effect state ((state.withJournal fun journal =>
        journal.release lease.requestId).traced (.released lease))
  | closeAccepted {after : State} (request : Close) (targets : List Target) :
      (state.Holds fun journal => journal.Closable request) →
      Saves ((state.withJournal fun journal =>
        journal.acceptClose request targets).traced
          (.closeAdmitted request.context.session request)) after →
      Effect state after
  | closeChanged (key : String)
      (update : Journal → CloseRecord → CloseRecord) :
      (∀ journal record, (update journal record).request = record.request) →
      Effect state (state.withJournal fun journal =>
        journal.changeClose key (update journal))

/-- Any number of quiet changes. -/
abbrev Quietly : State → State → Prop :=
  ReflTransGen Quiet

variable [Wire]

/-- Whether a daemon may begin with the journal. -/
def State.Offers (state : State) (session : String) (journal : Journal) :
    Prop :=
  match state.files session with
  | none => journal = .empty session
  | some file => file.restore session = .ok journal

inductive Change (world : Surroundings) (state : State) : State → Prop
  | effect {after : State} : Effect state after → Change world state after
  | loaded (session : String) (journal : Journal) : state.loaded = none →
      state.Offers session journal →
      Change world state
        { state with loaded := some ⟨journal, false, false, ∅⟩ }
  | restarted : Change world state (state.restarted world)

/-- Any number of effects. -/
abbrev Effects : State → State → Prop :=
  ReflTransGen Effect

/-- Any number of changes. -/
abbrev Changes (world : Surroundings) : State → State → Prop :=
  ReflTransGen (Change world)

omit [Wire] in
theorem Quiet.quietly {state after : State} (quiet : Quiet state after) :
    Quietly state after :=
  .single quiet

theorem Effect.effects {state after : State} (effect : Effect state after) :
    Effects state after :=
  .single effect

theorem Change.changes {world : Surroundings} {state after : State}
    (change : Change world state after) : Changes world state after :=
  .single change

theorem Quietly.effects {state after : State}
    (quietly : Quietly state after) : Effects state after :=
  ReflTransGen.mono (fun _ _ => Effect.quiet) _ _ quietly

theorem Effects.changes {world : Surroundings} {state after : State}
    (effects : Effects state after) : Changes world state after :=
  ReflTransGen.mono (fun _ _ => Change.effect) _ _ effects

/-! ### What quiet changes keep -/

omit [Wire] in
theorem Saves.holds {state after : State} {property : Journal → Prop}
    (saves : Saves state after) (holds : state.Holds property) :
    after.Holds property := by
  obtain ⟨loaded, present, holds⟩ := holds
  cases saves with
  | refused => exact ⟨loaded, present, holds⟩
  | written => exact ⟨loaded, present, holds⟩
  | poisoned =>
      exact ⟨{ loaded with poisoned := true }, by simp [present], holds⟩

omit [Wire] in
/-- A property that does not look at the handoffs stays. -/
theorem Quietly.holds {state after : State} {property : Journal → Prop}
    (quietly : Quietly state after)
    (blind : ∀ journal handoffs, property journal →
      property { journal with handoffs := handoffs })
    (holds : state.Holds property) : after.Holds property := by
  induction quietly with
  | refl => exact holds
  | tail _ quiet ih =>
      obtain ⟨loaded, present, holds⟩ := ih
      cases quiet with
      | called => exact ⟨loaded, present, holds⟩
      | executed => exact ⟨loaded, present, holds⟩
      | saved saves => exact saves.holds ⟨loaded, present, holds⟩
      | remembered update keeps =>
          refine ⟨update loaded, by simp [present], ?_⟩
          rw [(keeps loaded).1]
          exact holds
      | watched handoffs =>
          have kept := blind loaded.journal (handoffs loaded.journal) holds
          exact ⟨{ loaded with journal := { loaded.journal with
            handoffs := handoffs loaded.journal } }, by simp [present], kept⟩
      | noticed => exact ⟨loaded, present, holds⟩

omit [Wire] in
/-- Without a journal in memory quiet changes bring none. -/
theorem Quietly.unloaded {state after : State} (quietly : Quietly state after)
    (absent : state.loaded = none) : after.loaded = none := by
  induction quietly with
  | refl => exact absent
  | tail _ quiet ih =>
      cases quiet with
      | called => exact ih
      | executed => exact ih
      | saved saves =>
          cases saves with
          | refused => exact ih
          | written loaded present => rw [ih] at present; nomatch present
          | poisoned loaded written present =>
              rw [ih] at present
              nomatch present
      | remembered => simp [ih]
      | watched => simp [ih]
      | noticed => exact ih

/-! ### What effects keep -/

/-- The journal of the session is in memory. -/
def State.Open (state : State) (session : String) : Prop :=
  state.Holds fun journal => journal.session = session

omit [Wire] in
theorem State.Open.withJournal {state : State} {session : String}
    (isOpen : state.Open session) (update : Journal → Journal)
    (keeps : ∀ journal, (update journal).session = journal.session) :
    (state.withJournal update).Open session := by
  obtain ⟨loaded, present, same⟩ := isOpen
  exact ⟨{ loaded with journal := update loaded.journal }, by simp [present],
    (keeps loaded.journal).trans same⟩

omit [Wire] in
theorem Journal.session_noteActive (journal : Journal) (monitor : Monitor) :
    (journal.noteActive monitor).session = journal.session := by
  cases active : monitor.activeWorkspace.filter (0 < ·) with
  | none => simp only [noteActive, active]
  | some id => simp only [noteActive, active]

omit [Wire] in
theorem Journal.session_reserve (journal : Journal) (request : Create)
    (lease : Lease) (writer : String) :
    (journal.reserve request lease writer).session = journal.session := by
  cases fresh : request.workspaceId.isNone with
  | true => simp [reserve, setReservation, setEntry, fresh]
  | false => simp [reserve, setReservation, fresh]

omit [Wire] in
theorem Journal.reservations_reserve (journal : Journal) (request : Create)
    (lease : Lease) (writer key : String) :
    (journal.reserve request lease writer).reservations[key]? =
      if request.requestId = key then
        some (freshReservation request lease writer)
      else journal.reservations[key]? := by
  have kept : (if request.workspaceId.isNone then
      journal.setEntry (freshEntry request lease.workspaceId lease.generation)
      else journal).reservations = journal.reservations := by
    split <;> rfl
  rw [reserve, setReservation, OrderedMaps.getElem?_insert, kept]
  rfl

omit [Wire] in
theorem Journal.closes_reserve (journal : Journal) (request : Create)
    (lease : Lease) (writer : String) :
    (journal.reserve request lease writer).closes = journal.closes := by
  unfold reserve setReservation
  split <;> rfl

theorem Journal.allocate_eq_ok_iff {journal next : Journal} {live : List Int}
    {id : Int} :
    journal.allocate live = .ok (id, next) ↔
      journal.highest live < Wire.maxWorkspaceId ∧
        id = journal.highest live + 1 ∧ next = { journal with high := id } := by
  unfold allocate
  constructor
  · intro allocated
    split at allocated
    · rename_i room
      obtain ⟨rfl, rfl⟩ := Prod.mk.inj (Except.ok.inj allocated)
      exact ⟨room, rfl, rfl⟩
    · nomatch allocated
  · rintro ⟨room, rfl, rfl⟩
    rw [if_pos room]

theorem Effect.isOpen {state after : State} {session : String}
    (effect : Effect state after) (isOpen : state.Open session) :
    after.Open session := by
  cases effect with
  | quiet quiet =>
      exact Quietly.holds quiet.quietly (fun _ _ same => same) isOpen
  | visited monitor =>
      exact isOpen.withJournal (·.noteActive monitor) fun journal =>
        journal.session_noteActive monitor
  | observed id update =>
      exact isOpen.withJournal (fun journal =>
        journal.changeEntry id (update journal)) fun _ => rfl
  | allocated loaded live id next present allocated =>
      obtain ⟨other, same, session⟩ := isOpen
      obtain ⟨-, -, changed⟩ := Journal.allocate_eq_ok_iff.mp allocated
      rw [present] at same
      obtain rfl := Option.some.inj same
      refine ⟨{ loaded with journal := next }, by simp [present], ?_⟩
      rw [changed]
      exact session
  | entered entry => exact isOpen.withJournal (·.setEntry entry) fun _ => rfl
  | retired loaded snapshot id =>
      exact isOpen.withJournal (·.dropEntry id) fun _ => rfl
  | reserved request lease reservable saves =>
      exact saves.holds (isOpen.withJournal
        (fun journal => journal.reserve request lease state.writer)
        fun journal => journal.session_reserve request lease _)
  | resolved key update =>
      exact isOpen.withJournal (fun journal =>
        journal.changeReservation key (update journal)) fun _ => rfl
  | moved loaded request =>
      exact isOpen.withJournal (·.beginPlacement request) fun _ => rfl
  | released lease =>
      exact isOpen.withJournal (·.release lease.requestId) fun _ => rfl
  | closeAccepted request targets closable saves =>
      exact saves.holds (isOpen.withJournal
        (·.acceptClose request targets) fun _ => rfl)
  | closeChanged key update =>
      exact isOpen.withJournal (fun journal =>
        journal.changeClose key (update journal)) fun _ => rfl

theorem Effects.isOpen {state after : State} {session : String}
    (effects : Effects state after) (isOpen : state.Open session) :
    after.Open session := by
  induction effects with
  | refl => exact isOpen
  | tail _ effect ih => exact effect.isOpen ih

end BarDaemon.Workspaces
