import BarDaemon.NotificationSections
import BarDaemon.TransitionRuns

/-!
# Identifiers of notifications

Positions count every try of the counter since the start; the try at a
position is of the identifier that the counter has there.
-/

namespace BarDaemon.Notifications

open Std TransitionRuns

namespace Engine

/-! ### Tries -/

/-- The identifier that is tried at a position: zero is never one. -/
def idAt (position : Nat) : Nat :=
  max (position % (u32Max + 1)) 1

/-- The tries after a position, of which all but the last one are of active
identifiers; so is the last one if nothing is allocated. -/
structure Tried (active : ExtTreeMap Nat ActiveNotification)
    (position count : Nat) (outcome : Option Nat) : Prop where
  passed : ∀ tried, position < tried → tried ≤ position + count →
    active.contains (idAt tried) = true ∨
      tried = position + count ∧ outcome = some (idAt tried)
  allocated : ∀ id, outcome = some id →
    id = idAt (position + count) ∧ active.contains id = false

theorem tried_allocate (active : ExtTreeMap Nat ActiveNotification)
    (tries position : Nat) :
    ∃ count, (0 < tries → 0 < count) ∧
      (allocate active tries (position % (u32Max + 1))).2 =
        (position + count) % (u32Max + 1) ∧
      Tried active position count
        (allocate active tries (position % (u32Max + 1))).1 := by
  induction tries generalizing position with
  | zero => exact ⟨0, id, rfl, by omega, nofun⟩
  | succ tries ih =>
      have next : (position % (u32Max + 1) + 1) % (u32Max + 1) =
          (position + 1) % (u32Max + 1) :=
        Nat.mod_add_mod ..
      rw [allocate.eq_2]
      simp only [next]
      split
      · rename_i occupied
        change active.contains (idAt (position + 1)) = true at occupied
        obtain ⟨count, -, counter, tried⟩ := ih (position + 1)
        have ends : position + 1 + count = position + (count + 1) := by omega
        rw [ends] at counter
        refine ⟨count + 1, fun _ => Nat.succ_pos count, counter, ?_, ?_⟩
        · intro other after before
          by_cases first : other = position + 1
          · exact .inl (first ▸ occupied)
          · rw [← ends]
            exact tried.passed other (by omega) (by omega)
        · intro id allocated
          obtain ⟨same, free⟩ := tried.allocated id allocated
          exact ⟨ends ▸ same, free⟩
      · rename_i free
        refine ⟨1, fun _ => Nat.one_pos, rfl, ?_, ?_⟩
        · intro other after before
          have here : other = position + 1 := by omega
          exact .inr ⟨here, by rw [here]; rfl⟩
        · intro id allocated
          cases allocated
          exact ⟨rfl, Bool.eq_false_iff.mpr free⟩

/-! ### Steps -/

/-- The counter and what is active, with the outcome of the last
allocation. -/
structure Identifiers where
  counter : Nat
  active : ExtTreeMap Nat ActiveNotification
  outcome : Option Nat

inductive IdentifierEvent
  | allocate
  | activate (id : Nat) (notification : ActiveNotification)
  | remove (id : Nat)

namespace Identifiers

/-- `allocate_id` -/
def allocated (state : Identifiers) : Option Nat :=
  (Engine.allocate state.active u32Max state.counter).1

def step (state : Identifiers) : IdentifierEvent → Identifiers
  | .allocate =>
      let (outcome, counter) :=
        Engine.allocate state.active u32Max state.counter
      { state with
        counter := counter
        outcome := outcome }
  | .activate id notification =>
      { state with active := state.active.insert id notification }
  | .remove id => { state with active := state.active.erase id }

def initial (counter : UInt32) (active : ExtTreeMap Nat ActiveNotification) :
    Identifiers :=
  ⟨counter.toNat, active, none⟩

/-- Where the counter has just wrapped to zero, the identifier that it was
wrapped for is active. -/
def Unwrapped (state : Identifiers) (event : IdentifierEvent) : Prop :=
  match event with
  | .allocate => state.counter = 0 → state.outcome = some 1 →
      state.active.contains 1 = true
  | _ => True

/-- The counter is at a position. -/
def At (state : Identifiers) (position : Nat) : Prop :=
  state.counter = position % (u32Max + 1)

/-- In some state of a run, an identifier is active or is allocated. -/
def Seen (start : Identifiers) (events : List IdentifierEvent) (id : Nat) :
    Prop :=
  (∃ before after, events = before ++ after ∧
    (run step start before).active.contains id = true) ∨
  ∃ before after, events = before ++ .allocate :: after ∧
    (run step start before).allocated = some id

theorem Seen.cons {start : Identifiers} {event : IdentifierEvent}
    {events : List IdentifierEvent} {id : Nat}
    (seen : Seen (start.step event) events id) :
    Seen start (event :: events) id := by
  obtain ⟨before, after, rfl, active⟩ | ⟨before, after, rfl, allocated⟩ := seen
  · exact .inl ⟨event :: before, after, rfl, active⟩
  · exact .inr ⟨event :: before, after, rfl, allocated⟩

theorem tried_allocated {state : Identifiers} {position : Nat}
    (here : state.At position) :
    ∃ count, 0 < count ∧ (state.step .allocate).At (position + count) ∧
      Tried state.active position count state.allocated := by
  obtain ⟨count, positive, counter, tried⟩ :=
    tried_allocate state.active u32Max position
  rw [← here] at counter tried
  exact ⟨count, positive (by decide), counter, tried⟩

/-- A run passes positions, and sees the identifier of each of them. -/
theorem seen_run {start : Identifiers} {position : Nat}
    (here : start.At position) (events : List IdentifierEvent) :
    ∃ last, position ≤ last ∧ (run step start events).At last ∧
      (last = position → (run step start events).outcome = start.outcome) ∧
      ∀ tried, position < tried → tried ≤ last →
        Seen start events (idAt tried) := by
  induction events generalizing start position with
  | nil => exact ⟨position, Nat.le_refl _, here, fun _ => rfl, by omega⟩
  | cons event events ih =>
      cases event with
      | allocate =>
          obtain ⟨count, positive, there, tries⟩ := tried_allocated here
          obtain ⟨last, later, ends, -, seen⟩ := ih there
          refine ⟨last, by omega, ends, by omega, ?_⟩
          intro tried after before
          by_cases within : tried ≤ position + count
          · obtain active | ⟨-, allocated⟩ := tries.passed tried after within
            · exact .inl ⟨[], .allocate :: events, rfl, active⟩
            · exact .inr ⟨[], events, rfl, allocated⟩
          · exact (seen tried (by omega) before).cons
      | activate id notification =>
          obtain ⟨last, later, ends, quiet, seen⟩ :=
            @ih (start.step (.activate id notification)) position here
          exact ⟨last, later, ends, quiet, fun tried after before =>
            (seen tried after before).cons⟩
      | remove id =>
          obtain ⟨last, later, ends, quiet, seen⟩ :=
            @ih (start.step (.remove id)) position here
          exact ⟨last, later, ends, quiet, fun tried after before =>
            (seen tried after before).cons⟩

/-! ### Between two allocations of one identifier -/

/-- Two positions of one identifier have all others between them, unless they
are the two of the wrap. -/
theorem idAt_between {first second : Nat} (before : first < second)
    (same : idAt first = idAt second)
    (wrap : first % (u32Max + 1) = 0 → second ≠ first + 1) {other : Nat}
    (positive : 0 < other) (small : other ≤ u32Max)
    (different : other ≠ idAt first) :
    ∃ position, first < position ∧ position < second ∧
      idAt position = other := by
  unfold idAt u32Max at *
  have reached : first % 4294967296 + (first / 4294967296) * 4294967296 =
      first := Nat.mod_add_div' first 4294967296
  have ahead : second % 4294967296 + (second / 4294967296) * 4294967296 =
      second := Nat.mod_add_div' second 4294967296
  by_cases later : first % 4294967296 < other
  · refine ⟨other + (first / 4294967296) * 4294967296, ?_, ?_, ?_⟩
    · omega
    · omega
    · omega
  · refine ⟨other + (first / 4294967296 + 1) * 4294967296, ?_, ?_, ?_⟩
    · omega
    · omega
    · omega

/-- An allocated identifier is not zero, and not active. -/
def AllocatesFresh (start : Identifiers) (events : List IdentifierEvent) :
    Prop :=
  ∀ before after, events = before ++ .allocate :: after →
    ∀ id, (run step start before).allocated = some id →
      id ≠ 0 ∧ (run step start before).active.contains id = false

/-- Between two allocations of one identifier, every other one is active at
some time or is allocated. -/
def ReusesLast (start : Identifiers) (events : List IdentifierEvent) : Prop :=
  ∀ before between after,
    events = before ++ .allocate :: (between ++ .allocate :: after) →
      ∀ id, (run step start before).allocated = some id →
        (run step start (before ++ .allocate :: between)).allocated = some id →
          ∀ other, 0 < other → other ≤ u32Max → other ≠ id →
            Seen (run step start (before ++ [.allocate])) between other

theorem at_initial (counter : UInt32)
    (active : ExtTreeMap Nat ActiveNotification) :
    (initial counter active).At counter.toNat :=
  (Nat.mod_eq_of_lt counter.toNat_lt).symm

/-- As long as no allocation finds the identifier inactive for which the
counter has just wrapped, identifiers are reused only after all others. -/
theorem identifiers_reused_last (counter : UInt32)
    (active : ExtTreeMap Nat ActiveNotification)
    (events : List IdentifierEvent)
    (unwrapped : StepsMeet step Unwrapped (initial counter active) events) :
    AllocatesFresh (initial counter active) events ∧
      ReusesLast (initial counter active) events := by
  constructor
  · intro before after _ id allocated
    exact (allocate_fresh allocated).symm
  · intro before between after split id first again other positive small
      different
    obtain ⟨start, -, here, -, -⟩ := seen_run (at_initial counter active) before
    obtain ⟨count, advances, there, tries⟩ := tried_allocated here
    have firstId := (tries.allocated id first).1
    have stepped : run step (initial counter active)
        (before ++ [.allocate]) =
          step (run step (initial counter active) before) .allocate :=
      run_append _ _ _ _
    rw [← stepped] at there
    obtain ⟨last, later, ends, quiet, seen⟩ := seen_run there between
    have final : run step (run step (initial counter active)
        (before ++ [.allocate])) between =
          run step (initial counter active) (before ++ .allocate :: between) := by
      rw [← run_append, List.append_assoc]
      rfl
    rw [final] at ends quiet
    obtain ⟨further, advanced, -, retries⟩ := tried_allocated ends
    obtain ⟨secondId, free⟩ := retries.allocated id again
    have wrap : (start + count) % (u32Max + 1) = 0 →
        last + further ≠ start + count + 1 := by
      intro zero adjacent
      have still : last = start + count := by omega
      have met := unwrapped
      rw [split, ← List.singleton_append, ← List.append_assoc,
        ← List.append_assoc, stepsMeet_append_iff] at met
      have one : id = 1 := by
        rw [firstId, idAt, zero]
        rfl
      have meets := met.2.1
      rw [List.append_assoc, List.singleton_append] at meets
      have occupied := meets (by rw [ends, still, zero]) (by
        rw [quiet still, stepped]
        exact first.trans (congrArg some one))
      rw [one] at free
      rw [occupied] at free
      cases free
    obtain ⟨position, after, before, reaches⟩ :=
      idAt_between (show start + count < last + further by omega)
        (firstId.symm.trans secondId) wrap positive small (firstId ▸ different)
    rw [← reaches]
    by_cases passed : position ≤ last
    · exact seen position after passed
    · obtain active | ⟨same, -⟩ :=
        retries.passed position (by omega) (by omega)
      · refine .inl ⟨between, [], (List.append_nil _).symm, ?_⟩
        rw [final]
        exact active
      · omega

theorem inactive_run {start : Identifiers} {id : Nat}
    (absent : start.active.contains id = false)
    {events : List IdentifierEvent}
    (never : ∀ notification, .activate id notification ∉ events) :
    (run step start events).active.contains id = false := by
  induction events generalizing start with
  | nil => exact absent
  | cons event events ih =>
      refine ih ?_ fun notification member =>
        never notification (List.mem_cons_of_mem event member)
      cases event with
      | allocate => exact absent
      | activate other notification =>
          have different : other ≠ id := by
            intro same
            exact never notification (same ▸ List.mem_cons_self)
          change (start.active.insert other notification).contains id = false
          rw [ExtTreeMap.contains_insert, absent, Bool.or_false]
          exact beq_eq_false_iff_ne.mpr fun equal =>
            different (Nat.compare_eq_eq.mp equal)
      | remove other =>
          change (start.active.erase other).contains id = false
          rw [ExtTreeMap.contains_erase, absent, Bool.and_false]

/-! ### The wrap -/

def card : ActiveNotification where
  id := 1
  identityIcon := ""
  contextActions := []
  interactionBlocked := false
  appName := "App"
  appIcon := ""
  summary := "Summary"
  body := ""
  actions := []
  hints := {}
  createdUnixMs := 0
  updatedUnixMs := 0
  expiresUnixMs := none
  toastVisible := true
  dndBypass := false
  toastExpiresUnixMs := none
  groupKey := ""
  sourceMonitor := ""
  snoozedUntilUnixMs := none

/-- One notification comes and goes, and another one comes. -/
def comings : List IdentifierEvent :=
  [.allocate, .activate 1 card, .remove 1, .allocate]

/-- The counter is three before the wrap: the second identifier differs. -/
theorem identifiers_reused_last_sample :
    AllocatesFresh (initial 4294967293 ∅) comings ∧
      ReusesLast (initial 4294967293 ∅) comings := by
  refine identifiers_reused_last 4294967293 ∅ comings ⟨?_, ?_, ?_, ?_, trivial⟩
  · intro zero
    exact absurd zero (by decide +kernel)
  · trivial
  · trivial
  · intro zero
    have counter : (run step (initial 4294967293 ∅)
        [.allocate, .activate 1 card, .remove 1]).counter ≠ 0 := by
      decide +kernel
    exact absurd zero counter

/-- At the wrap, the first identifier is given out twice in a row. -/
theorem first_identifier_twice :
    ¬ ReusesLast (initial 4294967295 ∅) comings := by
  intro last
  have first : (run step (initial 4294967295 ∅) []).allocated = some 1 := by
    decide +kernel
  have again : (run step (initial 4294967295 ∅)
      ([] ++ .allocate :: [.activate 1 card, .remove 1])).allocated =
        some 1 := by
    decide +kernel
  have different : 2 ≠ 1 := by decide
  have seen := last [] [.activate 1 card, .remove 1] [] rfl 1 first again 2
    (Nat.succ_pos 1) (by decide) different
  obtain ⟨before, after, split, active⟩ | ⟨before, after, split, -⟩ := seen
  · have never : ∀ notification, .activate 2 notification ∉ before := by
      intro notification member
      have within := List.mem_append_left after member
      rw [← split] at within
      simp at within
    have absent := @inactive_run (run step (initial 4294967295 ∅)
      ([] ++ [.allocate])) 2 (by decide +kernel) before never
    rw [active] at absent
    cases absent
  · have member : IdentifierEvent.allocate ∈ before ++ .allocate :: after := by
      simp
    rw [← split] at member
    simp at member

end Identifiers

end Engine

end BarDaemon.Notifications
