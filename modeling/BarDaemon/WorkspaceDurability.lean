import BarDaemon.FallibleSteps
import BarDaemon.WorkspaceInvariants

/-!
# The journal and its file

The file of a session never loses a request, and a journal that may be used
has no request that its file lacks.
-/

namespace BarDaemon.Workspaces

open Std

/-- Every request of the one journal is in the other. -/
structure Journal.Extends (before after : Journal) : Prop where
  session : after.session = before.session
  reservation : ∀ (key : String) (request : Create),
    before.reservations[key]?.map Reservation.request = some request →
      after.reservations[key]?.map Reservation.request = some request
  close : ∀ (key : String) (request : Close),
    before.closes[key]?.map CloseRecord.request = some request →
      after.closes[key]?.map CloseRecord.request = some request

/-- The same requests are in both journals. -/
structure Journal.Matches (first second : Journal) : Prop where
  session : second.session = first.session
  reservation : ∀ key : String,
    second.reservations[key]?.map Reservation.request =
      first.reservations[key]?.map Reservation.request
  close : ∀ key : String,
    second.closes[key]?.map CloseRecord.request =
      first.closes[key]?.map CloseRecord.request

namespace Journal

theorem Extends.trans {first second third : Journal}
    (before : first.Extends second) (after : second.Extends third) :
    first.Extends third where
  session := after.session.trans before.session
  reservation key request found :=
    after.reservation key request (before.reservation key request found)
  close key request found :=
    after.close key request (before.close key request found)

theorem Extends.refl (journal : Journal) : journal.Extends journal :=
  ⟨rfl, fun _ _ found => found, fun _ _ found => found⟩

namespace Matches

variable {first second third : Journal}

theorem extends_left (same : first.Matches second) : first.Extends second :=
  ⟨same.session, fun key _ found => (same.reservation key).trans found,
    fun key _ found => (same.close key).trans found⟩

theorem extends_right (same : first.Matches second) : second.Extends first :=
  ⟨same.session.symm, fun key _ found =>
    (same.reservation key).symm.trans found,
    fun key _ found => (same.close key).symm.trans found⟩

theorem refl (journal : Journal) : journal.Matches journal :=
  ⟨rfl, fun _ => rfl, fun _ => rfl⟩

end Matches

theorem matches_serialized (journal : Journal) :
    journal.Matches journal.serialized :=
  ⟨rfl, fun _ => rfl, fun _ => rfl⟩

theorem matches_noteActive (journal : Journal) (monitor : Monitor) :
    journal.Matches (journal.noteActive monitor) := by
  unfold noteActive
  split
  · exact .refl journal
  · exact ⟨rfl, fun _ => rfl, fun _ => rfl⟩

theorem matches_changeReservation (journal : Journal) (key : String)
    {update : Reservation → Reservation}
    (keeps : ∀ record, (update record).request = record.request) :
    journal.Matches (journal.changeReservation key update) := by
  refine ⟨rfl, fun other => ?_, fun _ => rfl⟩
  rw [changeReservation, OrderedMaps.getElem?_modify, Option.map_map]
  congr 1
  funext record
  simp only [Function.comp_apply]
  split
  · exact keeps record
  · rfl

theorem matches_changeClose (journal : Journal) (key : String)
    {update : CloseRecord → CloseRecord}
    (keeps : ∀ record, (update record).request = record.request) :
    journal.Matches (journal.changeClose key update) := by
  refine ⟨rfl, fun _ => rfl, fun other => ?_⟩
  rw [changeClose, OrderedMaps.getElem?_modify, Option.map_map]
  congr 1
  funext record
  simp only [Function.comp_apply]
  split
  · exact keeps record
  · rfl

/-- A fresh reservation adds its request. -/
theorem extends_reserve {journal : Journal} {request : Create}
    (unused : journal.Unused request.requestId) (lease : Lease)
    (writer : String) :
    journal.Extends (journal.reserve request lease writer) := by
  refine ⟨journal.session_reserve request lease writer, ?_, ?_⟩
  · intro key other found
    have fresh : request.requestId ≠ key := by
      rintro rfl
      simp [unused.reservation] at found
    rw [journal.reservations_reserve, if_neg fresh, found]
  · intro key other found
    rw [journal.closes_reserve, found]

/-- A fresh close adds its request. -/
theorem extends_acceptClose {journal : Journal} {request : Close}
    (unused : journal.Unused request.requestId) (targets : List Target) :
    journal.Extends (journal.acceptClose request targets) := by
  refine ⟨rfl, ?_, ?_⟩
  · intro key other found
    rw [← found]
    simp only [acceptClose, fenceWorkspace, setClose, ExtTreeMap.getElem?_map,
      Option.map_map]
    congr 1
    funext record
    simp only [Function.comp_apply]
    split <;> rfl
  · intro key other found
    have fresh : request.requestId ≠ key := by
      rintro rfl
      simp [unused.close] at found
    simpa [acceptClose, fenceWorkspace, setClose, OrderedMaps.getElem?_insert,
      fresh] using found

/-! ### Restoring -/

theorem matches_keepManual (journal : Journal) :
    journal.Matches journal.keepManual :=
  ⟨rfl, fun _ => rfl, fun _ => rfl⟩

theorem request_fence (record : Reservation) :
    (fence record).request = record.request := by
  unfold fence
  split <;> rfl

theorem request_abandon (record : CloseRecord) :
    (abandon record).request = record.request := by
  unfold abandon
  split <;> rfl

theorem matches_fenced (journal : Journal) :
    journal.Matches journal.fenced := by
  refine ⟨rfl, ?_, ?_⟩
  · intro key
    rw [fenced, ExtTreeMap.getElem?_map, Option.map_map]
    congr 1
    exact funext request_fence
  · intro key
    rw [fenced, ExtTreeMap.getElem?_map, Option.map_map]
    congr 1
    exact funext request_abandon

/-- What is loaded is the file with all earlier writers fenced. -/
theorem restore_eq_ok [Wire] {file journal : Journal} {session : String}
    (restored : file.restore session = .ok journal) :
    file.session = session ∧
      (∀ key record, file.reservations[key]? = some record →
        checkReservation session key record = true) ∧
      journal = file.keepManual.fenced := by
  unfold restore at restored
  split at restored
  · nomatch restored
  rename_i identified
  split at restored
  · nomatch restored
  split at restored
  · nomatch restored
  split at restored
  · nomatch restored
  split at restored
  · nomatch restored
  rename_i checked
  split at restored
  · nomatch restored
  obtain ⟨-, -, same⟩ := FallibleSteps.bind_eq_ok_iff.mp restored
  refine ⟨?_, ?_, (Except.ok.inj same).symm⟩
  · simp only [Bool.not_eq_true', Bool.not_eq_false, Bool.and_eq_true,
      beq_iff_eq] at identified
    exact identified.2
  · intro key record found
    simp only [Bool.not_eq_true', Bool.not_eq_false, List.all_eq_true]
      at checked
    exact checked (key, record)
      (ExtTreeMap.mem_toList_iff_getElem?_eq_some.mpr found)

end Journal

/-! ### The file of a session -/

variable [Wire]

namespace State

/-- The journal in memory has what the file has. -/
def Kept (state : State) : Prop :=
  ∀ loaded, state.loaded = some loaded →
    (state.stored loaded.journal.session).Extends loaded.journal

/-- A journal that may be used has nothing that the file lacks. -/
def Written (state : State) : Prop :=
  ∀ loaded, state.loaded = some loaded → loaded.poisoned = false →
    loaded.journal.Extends (state.stored loaded.journal.session)

structure Durable (state : State) : Prop where
  kept : state.Kept
  written : state.Written

/-- No file loses a request. -/
def Grows (state after : State) : Prop :=
  ∀ session, (state.stored session).Extends (after.stored session)

variable {state after : State}

theorem grows_of_files (same : after.files = state.files) :
    state.Grows after := by
  intro session
  simp only [stored, same]
  exact .refl _

/-- A change of the journal in memory that keeps its requests. -/
theorem Durable.edited (durable : state.Durable) (update : Journal → Journal)
    (files : after.files = state.files)
    (loaded : after.loaded = state.loaded.map fun loaded =>
      { loaded with journal := update loaded.journal })
    (same : ∀ loaded, state.loaded = some loaded →
      loaded.journal.Matches (update loaded.journal)) :
    after.Durable := by
  constructor
  · intro changed present
    rw [loaded, Option.map_eq_some_iff] at present
    obtain ⟨before, present, rfl⟩ := present
    have equal := same before present
    have kept := durable.kept before present
    rw [← equal.session] at kept
    simp only [stored, files] at kept ⊢
    exact kept.trans equal.extends_left
  · intro changed present unpoisoned
    rw [loaded, Option.map_eq_some_iff] at present
    obtain ⟨before, present, rfl⟩ := present
    have equal := same before present
    have written := durable.written before present unpoisoned
    rw [← equal.session] at written
    simp only [stored, files] at written ⊢
    exact equal.extends_right.trans written

/-- What follows a file that is being replaced. -/
theorem Kept.wrote (kept : state.Kept) {loaded : Loaded}
    (present : state.loaded = some loaded) :
    (state.wrote loaded.journal).Durable ∧
      state.Grows (state.wrote loaded.journal) := by
  have equal := loaded.journal.matches_serialized
  refine ⟨⟨?_, ?_⟩, ?_⟩
  · intro other same
    obtain rfl := Option.some.inj (present.symm.trans same)
    rw [stored_wrote, if_pos rfl]
    exact equal.extends_right
  · intro other same _
    obtain rfl := Option.some.inj (present.symm.trans same)
    rw [stored_wrote, if_pos rfl]
    exact equal.extends_left
  · intro session
    rw [stored_wrote]
    split
    · rename_i same
      rw [same]
      exact (kept loaded present).trans equal.extends_left
    · exact .refl _

/-- A poisoned journal promises nothing about its file. -/
theorem Kept.poison (kept : state.Kept) :
    (state.withLoaded fun loaded =>
      { loaded with poisoned := true }).Durable := by
  constructor
  · intro changed present
    rw [loaded_withLoaded, Option.map_eq_some_iff] at present
    obtain ⟨before, present, rfl⟩ := present
    exact kept before present
  · intro changed present unpoisoned
    rw [loaded_withLoaded, Option.map_eq_some_iff] at present
    obtain ⟨before, present, rfl⟩ := present
    nomatch unpoisoned

theorem Kept.poisoned (kept : state.Kept) {loaded : Loaded}
    (present : state.loaded = some loaded) (written : Bool) :
    (state.poisoned loaded.journal written).Durable ∧
      state.Grows (state.poisoned loaded.journal written) := by
  cases written with
  | false => exact ⟨kept.poison, fun _ => .refl _⟩
  | true =>
      have wrote := kept.wrote present
      exact ⟨wrote.1.kept.poison, wrote.2⟩

end State

open State

/-- Saving settles what has been added. -/
theorem Saves.durable {state after : State} (saves : Saves state after)
    (kept : state.Kept) : after.Durable ∧ state.Grows after := by
  cases saves with
  | refused poisoned =>
      refine ⟨⟨kept, fun loaded present unpoisoned => ?_⟩,
        fun _ => .refl _⟩
      rw [poisoned loaded present] at unpoisoned
      nomatch unpoisoned
  | written loaded present =>
      have called : state.called.Kept := kept
      exact called.wrote present
  | poisoned loaded written present =>
      have called : state.called.Kept := kept
      exact called.poisoned present written

theorem Quiet.durable {state after : State} (quiet : Quiet state after)
    (durable : state.Durable) : after.Durable ∧ state.Grows after := by
  cases quiet with
  | called => exact ⟨⟨durable.kept, durable.written⟩, fun _ => .refl _⟩
  | executed => exact ⟨⟨durable.kept, durable.written⟩, fun _ => .refl _⟩
  | saved saves => exact saves.durable durable.kept
  | remembered update keeps =>
      refine ⟨⟨?_, ?_⟩, fun _ => .refl _⟩
      · intro changed present
        rw [loaded_withLoaded, Option.map_eq_some_iff] at present
        obtain ⟨before, present, rfl⟩ := present
        rw [(keeps before).1]
        exact durable.kept before present
      · intro changed present unpoisoned
        rw [loaded_withLoaded, Option.map_eq_some_iff] at present
        obtain ⟨before, present, rfl⟩ := present
        rw [(keeps before).2] at unpoisoned
        rw [(keeps before).1]
        exact durable.written before present unpoisoned
  | watched handoffs =>
      exact ⟨durable.edited (fun journal =>
        { journal with handoffs := handoffs journal }) rfl rfl fun _ _ =>
        ⟨rfl, fun _ => rfl, fun _ => rfl⟩, fun _ => .refl _⟩
  | noticed => exact ⟨⟨durable.kept, durable.written⟩, fun _ => .refl _⟩

/-- An addition to the journal in memory keeps what the file has. -/
theorem State.Kept.added {state : State} (kept : state.Kept)
    (update : Journal → Journal) (event : Event)
    (grows : ∀ loaded, state.loaded = some loaded →
      loaded.journal.Extends (update loaded.journal)) :
    ((state.withJournal update).traced event).Kept := by
  intro changed present
  rw [loaded_traced, loaded_withJournal, Option.map_eq_some_iff] at present
  obtain ⟨before, present, rfl⟩ := present
  have extended := grows before present
  have kept := kept before present
  rw [← extended.session] at kept
  exact kept.trans extended

theorem Effect.durable {state after : State} (effect : Effect state after)
    (durable : state.Durable) : after.Durable ∧ state.Grows after := by
  have edited : ∀ (update : Journal → Journal) {changed : State},
      changed.files = state.files →
      changed.loaded = state.loaded.map (fun loaded =>
        { loaded with journal := update loaded.journal }) →
      (∀ journal : Journal, journal.Matches (update journal)) →
      changed.Durable ∧ state.Grows changed :=
    fun update _ files loaded same =>
      ⟨durable.edited update files loaded fun _ _ => same _,
        grows_of_files files⟩
  cases effect with
  | quiet quiet => exact quiet.durable durable
  | visited monitor =>
      exact edited (·.noteActive monitor) rfl rfl fun journal =>
        journal.matches_noteActive monitor
  | observed id update =>
      exact edited (fun journal => journal.changeEntry id (update journal))
        rfl rfl fun journal => ⟨rfl, fun _ => rfl, fun _ => rfl⟩
  | allocated loaded live id next present allocated =>
      obtain ⟨-, -, changed⟩ := Journal.allocate_eq_ok_iff.mp allocated
      refine ⟨durable.edited (fun _ => next) rfl rfl ?_, grows_of_files rfl⟩
      intro other same
      obtain rfl := Option.some.inj (present.symm.trans same)
      rw [changed]
      exact ⟨rfl, fun _ => rfl, fun _ => rfl⟩
  | entered entry =>
      exact edited (·.setEntry entry) rfl rfl fun journal =>
        ⟨rfl, fun _ => rfl, fun _ => rfl⟩
  | retired loaded snapshot id =>
      exact edited (·.dropEntry id) rfl rfl fun journal =>
        ⟨rfl, fun _ => rfl, fun _ => rfl⟩
  | reserved request lease reservable saves =>
      obtain ⟨loaded, present, reservable⟩ := reservable
      apply saves.durable
      apply durable.kept.added
      intro other same
      obtain rfl := Option.some.inj (present.symm.trans same)
      exact Journal.extends_reserve reservable.unused lease state.writer
  | resolved key update keeps =>
      exact edited (fun journal => journal.changeReservation key
        (update journal)) rfl rfl fun journal =>
        journal.matches_changeReservation key fun record =>
          (keeps journal record).1.request
  | moved loaded request record monitor pin present placeable =>
      let placing := state.withJournal fun journal =>
        journal.beginPlacement request
      have begun : placing.Durable ∧ state.Grows placing :=
        edited (·.beginPlacement request) rfl rfl fun journal =>
          journal.matches_changeReservation _ fun _ => rfl
      have kept : placing.called.Kept := begun.1.kept
      have inMemory : placing.called.loaded = some { loaded with
          journal := loaded.journal.beginPlacement request } := by
        simp [placing, present]
      have wrote := kept.wrote inMemory
      exact ⟨⟨wrote.1.kept, wrote.1.written⟩, wrote.2⟩
  | released lease =>
      exact edited (·.release lease.requestId) rfl rfl fun journal =>
        journal.matches_changeReservation _ fun _ => rfl
  | closeAccepted request targets closable saves =>
      obtain ⟨loaded, present, closable⟩ := closable
      apply saves.durable
      apply durable.kept.added
      intro other same
      obtain rfl := Option.some.inj (present.symm.trans same)
      exact Journal.extends_acceptClose closable.unused targets
  | closeChanged key update keeps =>
      exact edited (fun journal => journal.changeClose key (update journal))
        rfl rfl fun journal => journal.matches_changeClose key (keeps journal)

/-- A journal that a daemon may begin with is the one that it finds. -/
theorem State.Offers.matches {state : State} {session : String}
    {journal : Journal} (offers : state.Offers session journal) :
    journal.session = session ∧ (state.stored session).Matches journal := by
  unfold State.Offers at offers
  unfold stored
  cases found : state.files session with
  | none =>
      simp only [found] at offers
      subst offers
      exact ⟨rfl, .refl _⟩
  | some file =>
      simp only [found] at offers
      obtain ⟨same, -, rfl⟩ := Journal.restore_eq_ok offers
      have manual := file.matches_keepManual
      have fenced := file.keepManual.matches_fenced
      exact ⟨same, rfl, fun key =>
        (fenced.reservation key).trans (manual.reservation key),
        fun key => (fenced.close key).trans (manual.close key)⟩

theorem Change.durable {world : Surroundings} {state after : State}
    (change : Change world state after) (durable : state.Durable) :
    after.Durable ∧ state.Grows after := by
  cases change with
  | effect effect => exact effect.durable durable
  | loaded session journal absent offers =>
      obtain ⟨same, equal⟩ := offers.matches
      subst same
      refine ⟨⟨?_, ?_⟩, fun _ => .refl _⟩
      · intro loaded present
        obtain rfl := Option.some.inj present
        exact equal.extends_left
      · intro loaded present _
        obtain rfl := Option.some.inj present
        exact equal.extends_right
  | restarted =>
      exact ⟨⟨nofun, nofun⟩, fun _ => .refl _⟩

theorem Changes.durable {world : Surroundings} {state after : State}
    (changes : Changes world state after) (durable : state.Durable) :
    after.Durable ∧ state.Grows after := by
  induction changes with
  | refl => exact ⟨durable, fun _ => .refl _⟩
  | tail _ change ih =>
      obtain ⟨kept, grows⟩ := change.durable ih.1
      exact ⟨kept, fun session => (ih.2 session).trans (grows session)⟩

/-- In every run no file loses a request. -/
theorem State.durable_run {world : Surroundings} {start : State}
    (durable : start.Durable) (requests : List Request) :
    (TransitionRuns.run (State.step world) start requests).Durable ∧
      start.Grows (TransitionRuns.run (State.step world) start requests) := by
  induction requests generalizing start with
  | nil => exact ⟨durable, fun _ => .refl _⟩
  | cons request requests ih =>
      obtain ⟨kept, grows⟩ := (step_changes start request).durable durable
      obtain ⟨last, later⟩ := ih kept
      exact ⟨last, fun session => (grows session).trans (later session)⟩

theorem State.durable_initial (writer : String) :
    (State.initial writer).Durable :=
  ⟨nofun, nofun⟩

end BarDaemon.Workspaces
