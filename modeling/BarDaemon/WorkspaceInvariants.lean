import BarDaemon.WorkspaceRefinement

/-!
# Invariants of the journal

A property of journals that every single change keeps holds of the journal in
memory and of all files, in every run.
-/

namespace BarDaemon.Workspaces

open Std

variable [Wire]

/-- A property of journals that every change keeps. -/
structure Journal.Invariant (property : Journal → Prop) : Prop where
  empty : ∀ session, property (.empty session)
  serialized : ∀ journal, property journal → property journal.serialized
  restored : ∀ file session journal, file.restore session = .ok journal →
    property file → property journal
  watched : ∀ journal handoffs, property journal →
    property { journal with handoffs := handoffs }
  visited : ∀ journal monitor, property journal →
    property (journal.noteActive monitor)
  observed : ∀ (journal : Journal) (id : Int) (update : Entry → Entry),
    (∀ entry, Entry.Keeps entry (update entry)) → property journal →
    property (journal.changeEntry id update)
  allocated : ∀ (journal : Journal) live id next,
    journal.allocate live = .ok (id, next) → property journal → property next
  entered : ∀ (journal : Journal) (entry : Entry), entry.id ≤ journal.high →
    property journal → property (journal.setEntry entry)
  retired : ∀ journal id, property journal → property (journal.dropEntry id)
  reserved : ∀ journal request lease writer,
    journal.Reservable request lease → property journal →
    property (journal.reserve request lease writer)
  resolved : ∀ (journal : Journal) key update,
    (∀ record, Reservation.Keeps record (update record) ∧
      (update record).status ≠ .reserved) → property journal →
    property (journal.changeReservation key update)
  released : ∀ journal key, property journal →
    property (journal.release key)
  closeAccepted : ∀ journal request targets, journal.Closable request →
    property journal → property (journal.acceptClose request targets)
  closeChanged : ∀ (journal : Journal) key update,
    (∀ record : CloseRecord, (update record).request = record.request) →
    property journal → property (journal.changeClose key update)

namespace State

/-- The journal that a daemon would find. -/
def stored (state : State) (session : String) : Journal :=
  (state.files session).getD (.empty session)

theorem stored_wrote (state : State) (journal : Journal) (session : String) :
    (state.wrote journal).stored session =
      if session = journal.session then journal.serialized
      else state.stored session := by
  unfold stored
  rw [files_wrote]
  split <;> rfl

/-- The journal in memory and all files have the property. -/
structure Satisfies (state : State) (property : Journal → Prop) : Prop where
  loaded : ∀ loaded, state.loaded = some loaded → property loaded.journal
  stored : ∀ session, property (state.stored session)

end State

section Invariant

variable {property : Journal → Prop} {state after : State}

namespace State.Satisfies

/-- A change of the journal in memory. -/
theorem edited (satisfies : state.Satisfies property)
    (update : Journal → Journal) (files : after.files = state.files)
    (loaded : after.loaded = state.loaded.map fun loaded =>
      { loaded with journal := update loaded.journal })
    (keeps : ∀ loaded, state.loaded = some loaded →
      property loaded.journal → property (update loaded.journal)) :
    after.Satisfies property := by
  constructor
  · intro changed present
    rw [loaded, Option.map_eq_some_iff] at present
    obtain ⟨before, present, rfl⟩ := present
    exact keeps before present (satisfies.loaded before present)
  · intro session
    unfold State.stored
    rw [files]
    exact satisfies.stored session

theorem wrote (satisfies : state.Satisfies property)
    (invariant : Journal.Invariant property) {loaded : Loaded}
    (present : state.loaded = some loaded) :
    (state.wrote loaded.journal).Satisfies property := by
  refine ⟨satisfies.loaded, fun session => ?_⟩
  rw [stored_wrote]
  split
  · exact invariant.serialized _ (satisfies.loaded loaded present)
  · exact satisfies.stored session

theorem poison (satisfies : state.Satisfies property) :
    (state.withLoaded fun loaded =>
      { loaded with poisoned := true }).Satisfies property := by
  refine ⟨?_, satisfies.stored⟩
  intro changed present
  rw [loaded_withLoaded, Option.map_eq_some_iff] at present
  obtain ⟨before, present, rfl⟩ := present
  exact satisfies.loaded before present

end State.Satisfies

theorem Saves.satisfies (saves : Saves state after)
    (invariant : Journal.Invariant property)
    (satisfies : state.Satisfies property) : after.Satisfies property := by
  have called : state.called.Satisfies property :=
    ⟨satisfies.loaded, satisfies.stored⟩
  cases saves with
  | refused => exact satisfies
  | written loaded present => exact called.wrote invariant present
  | poisoned loaded written present =>
      cases written with
      | false => exact called.poison
      | true => exact (called.wrote invariant present).poison

theorem Quiet.satisfies (quiet : Quiet state after)
    (invariant : Journal.Invariant property)
    (satisfies : state.Satisfies property) : after.Satisfies property := by
  cases quiet with
  | called => exact ⟨satisfies.loaded, satisfies.stored⟩
  | executed => exact ⟨satisfies.loaded, satisfies.stored⟩
  | saved saves => exact saves.satisfies invariant satisfies
  | remembered update keeps =>
      refine ⟨?_, satisfies.stored⟩
      intro changed present
      rw [State.loaded_withLoaded, Option.map_eq_some_iff] at present
      obtain ⟨before, present, rfl⟩ := present
      rw [(keeps before).1]
      exact satisfies.loaded before present
  | watched handoffs =>
      exact satisfies.edited (fun journal =>
        { journal with handoffs := handoffs journal }) rfl rfl
        fun loaded _ => invariant.watched _ _
  | noticed => exact ⟨satisfies.loaded, satisfies.stored⟩

theorem Effect.satisfies (effect : Effect state after)
    (invariant : Journal.Invariant property)
    (satisfies : state.Satisfies property) : after.Satisfies property := by
  have same : ∀ {loaded other : Loaded}, state.loaded = some loaded →
      state.loaded = some other → loaded = other :=
    fun first second => Option.some.inj (first.symm.trans second)
  cases effect with
  | quiet quiet => exact quiet.satisfies invariant satisfies
  | visited monitor =>
      exact satisfies.edited (·.noteActive monitor) rfl rfl
        fun loaded _ => invariant.visited _ monitor
  | observed id update keeps =>
      exact satisfies.edited (fun journal =>
        journal.changeEntry id (update journal)) rfl rfl
        fun loaded _ => invariant.observed _ id _ (keeps _)
  | allocated loaded live id next present allocated =>
      refine satisfies.edited (fun _ => next) rfl rfl
        fun other found holds => ?_
      rw [← same present found] at holds
      exact invariant.allocated _ live id next allocated holds
  | entered entry bounded =>
      obtain ⟨loaded, present, bounded⟩ := bounded
      refine satisfies.edited (·.setEntry entry) rfl rfl
        fun other found holds => ?_
      rw [← same present found] at holds ⊢
      exact invariant.entered _ entry bounded holds
  | retired loaded snapshot id =>
      exact satisfies.edited (·.dropEntry id) rfl rfl
        fun loaded _ => invariant.retired _ id
  | reserved request lease reservable saves =>
      obtain ⟨loaded, present, reservable⟩ := reservable
      apply saves.satisfies invariant
      refine satisfies.edited (fun journal =>
        journal.reserve request lease state.writer) rfl rfl
        fun other found holds => ?_
      rw [← same present found] at holds ⊢
      exact invariant.reserved _ request lease _ reservable holds
  | resolved key update keeps =>
      exact satisfies.edited (fun journal =>
        journal.changeReservation key (update journal)) rfl rfl
        fun loaded _ => invariant.resolved _ key _ (keeps _)
  | moved loaded request record monitor pin present placeable =>
      let placing := state.withJournal fun journal =>
        journal.beginPlacement request
      have begun : placing.called.Satisfies property :=
        satisfies.edited (·.beginPlacement request) rfl rfl fun loaded _ =>
          invariant.resolved _ request.lease.requestId _ fun record =>
            ⟨⟨rfl, rfl, rfl, rfl⟩, by simp⟩
      have inMemory : placing.called.loaded = some { loaded with
          journal := loaded.journal.beginPlacement request } := by
        simp [placing, present]
      have wrote := begun.wrote invariant inMemory
      exact ⟨wrote.loaded, wrote.stored⟩
  | released lease =>
      exact satisfies.edited (·.release lease.requestId) rfl rfl
        fun loaded _ => invariant.released _ lease.requestId
  | closeAccepted request targets closable saves =>
      obtain ⟨loaded, present, closable⟩ := closable
      apply saves.satisfies invariant
      refine satisfies.edited (·.acceptClose request targets) rfl rfl
        fun other found holds => ?_
      rw [← same present found] at holds ⊢
      exact invariant.closeAccepted _ request targets closable holds
  | closeChanged key update keeps =>
      exact satisfies.edited (fun journal =>
        journal.changeClose key (update journal)) rfl rfl
        fun loaded _ => invariant.closeChanged _ key _ (keeps _)

theorem Change.satisfies {world : Surroundings}
    (change : Change world state after)
    (invariant : Journal.Invariant property)
    (satisfies : state.Satisfies property) : after.Satisfies property := by
  cases change with
  | effect effect => exact effect.satisfies invariant satisfies
  | loaded session journal absent offers =>
      refine ⟨?_, satisfies.stored⟩
      intro loaded present
      obtain rfl := Option.some.inj present
      have held := satisfies.stored session
      unfold State.Offers at offers
      unfold State.stored at held
      cases found : state.files session with
      | none =>
          simp only [found] at offers
          rw [offers]
          exact invariant.empty session
      | some file =>
          simp only [found, Option.getD_some] at offers held
          exact invariant.restored file session journal offers held
  | restarted => exact ⟨nofun, satisfies.stored⟩

theorem Changes.satisfies {world : Surroundings}
    (changes : Changes world state after)
    (invariant : Journal.Invariant property)
    (satisfies : state.Satisfies property) : after.Satisfies property := by
  induction changes with
  | refl => exact satisfies
  | tail _ change ih => exact change.satisfies invariant ih

/-- In every run all journals have the property. -/
theorem State.satisfies_after {world : Surroundings}
    (invariant : Journal.Invariant property) (writer : String)
    (requests : List Request) :
    (State.after world writer requests).Satisfies property := by
  have start : (State.initial writer).Satisfies property :=
    ⟨nofun, fun session => invariant.empty session⟩
  exact State.after_invariant writer start
    (fun _ _ change => change.satisfies invariant) requests

end Invariant

end BarDaemon.Workspaces
