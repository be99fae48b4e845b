import BarDaemon.BatteryOperations
import BarDaemon.Traces

/-!
# Runs of battery operations

The work of one operation is unsettled at a time, and an operation belongs to
the owner that has started it.
-/

namespace BarDaemon.BatteryOperations

open Std TransitionRuns OrderedMaps

variable {Params Value : Type}

/-! ### Reading a trace -/

def Admitted (trace : List (Mark Params Value)) (id : String) : Prop :=
  ∃ owner work, .admitted id owner work ∈ trace

def OwnedBy (trace : List (Mark Params Value)) (id name : String) : Prop :=
  ∃ owner work, .admitted id owner work ∈ trace ∧ owner.name = name

/-- The work of the operation is settled, or it has been dropped. -/
def Ended (trace : List (Mark Params Value)) (id : String) : Prop :=
  .dropped id ∈ trace ∨ ∃ response, .settled id response ∈ trace

def Unsettled (trace : List (Mark Params Value)) (id : String) : Prop :=
  Admitted trace id ∧ ¬ Ended trace id

/-- What may happen after what has happened. -/
def Mark.Permitted (past : List (Mark Params Value)) :
    Mark Params Value → Prop
  | .admitted id _ _ =>
      ¬ Admitted past id ∧ ∀ other, ¬ Unsettled past other
  | .began id => Unsettled past id ∧ .began id ∉ past
  | .settled id _ => Unsettled past id ∧ .began id ∈ past
  | .dropped id => Unsettled past id ∧ .began id ∉ past
  | .cancelled id cause => Admitted past id ∧
      ∀ caller, cause = .requested caller → OwnedBy past id caller.name
  | .replied caller (.status operation) =>
      OwnedBy past operation.id caller.name ∧
        ∀ other earlier, .replied other (.status earlier) ∈ past →
          earlier.id = operation.id → ∀ response,
            earlier.response = some response →
              operation.response = some response ∧
                operation.state = earlier.state
  | .replied _ (.error _ _) => True

theorem OwnedBy.admitted {trace : List (Mark Params Value)}
    {id name : String} (owned : OwnedBy trace id name) : Admitted trace id := by
  obtain ⟨owner, work, member, -⟩ := owned
  exact ⟨owner, work, member⟩

theorem Admitted.concat {trace : List (Mark Params Value)} {id : String}
    (admitted : Admitted trace id) (mark : Mark Params Value) :
    Admitted (trace ++ [mark]) id := by
  obtain ⟨owner, work, member⟩ := admitted
  exact ⟨owner, work, List.mem_append_left _ member⟩

theorem OwnedBy.concat {trace : List (Mark Params Value)} {id name : String}
    (owned : OwnedBy trace id name) (mark : Mark Params Value) :
    OwnedBy (trace ++ [mark]) id name := by
  obtain ⟨owner, work, member, same⟩ := owned
  exact ⟨owner, work, List.mem_append_left _ member, same⟩

/-- The mark neither begins nor ends an operation. -/
def Mark.Aside : Mark Params Value → Prop
  | .cancelled _ _ => True
  | .replied _ _ => True
  | _ => False

theorem Mark.Aside.unsettled_iff {mark : Mark Params Value}
    (aside : mark.Aside) {trace : List (Mark Params Value)} {id : String} :
    Unsettled (trace ++ [mark]) id ↔ Unsettled trace id := by
  cases mark with
  | cancelled _ _ => simp [Unsettled, Admitted, Ended]
  | replied _ _ => simp [Unsettled, Admitted, Ended]
  | admitted => exact aside.elim
  | began => exact aside.elim
  | settled => exact aside.elim
  | dropped => exact aside.elim

/-! ### The invariant -/

namespace Operations

structure Sound (operations : Operations Params Value) : Prop where
  numbered : ∀ id owner work, .admitted id owner work ∈ operations.trace →
    ∃ number, number ≤ operations.next ∧
      id = operationId owner.nameSpace number
  owned : ∀ id entry, operations.entries[id]? = some entry →
    OwnedBy operations.trace id entry.owner
  pending : ∀ id entry, operations.entries[id]? = some entry →
    entry.response = none →
      entry.finished = none ∧ ∃ task ∈ operations.tasks, task.id = id
  single : operations.tasks.length ≤ 1
  working : ∀ task ∈ operations.tasks, ∃ entry,
    operations.entries[task.id]? = some entry ∧ entry.response = none
  unsettled : ∀ id, Unsettled operations.trace id ↔
    ∃ task ∈ operations.tasks, task.id = id
  began : ∀ task ∈ operations.tasks,
    task.stage = .checking ↔ .began task.id ∉ operations.trace
  reported : ∀ caller operation,
    .replied caller (.status operation) ∈ operations.trace →
      Admitted operations.trace operation.id ∧
        operation.state =
          (if operation.response.isSome then "finished" else "running") ∧
        ∀ response entry, operation.response = some response →
          operations.entries[operation.id]? = some entry →
            entry.response = some response
  permitted : Traces.Each Mark.Permitted operations.trace

variable {operations : Operations Params Value}

theorem Sound.admitted_of_began (sound : operations.Sound) {id : String}
    (member : .began id ∈ operations.trace) :
    Admitted operations.trace id := by
  obtain ⟨before, prior, permitted⟩ := sound.permitted.of_mem member
  obtain ⟨owner, work, earlier⟩ := permitted.1.1
  exact ⟨owner, work, prior.subset (List.mem_append_left _ earlier)⟩

theorem Sound.admitted_of_ended (sound : operations.Sound) {id : String}
    (ended : Ended operations.trace id) : Admitted operations.trace id := by
  rcases ended with dropped | ⟨response, settled⟩
  · obtain ⟨before, prior, permitted⟩ := sound.permitted.of_mem dropped
    obtain ⟨owner, work, earlier⟩ := permitted.1.1
    exact ⟨owner, work, prior.subset (List.mem_append_left _ earlier)⟩
  · obtain ⟨before, prior, permitted⟩ := sound.permitted.of_mem settled
    obtain ⟨owner, work, earlier⟩ := permitted.1.1
    exact ⟨owner, work, prior.subset (List.mem_append_left _ earlier)⟩

/-- A task that is found is the only one. -/
theorem Sound.task (sound : operations.Sound) {index : Nat} {task : Task}
    (found : operations.tasks[index]? = some task) :
    operations.tasks = [task] ∧ index = 0 := by
  have single := sound.single
  cases tasks : operations.tasks with
  | nil => simp [tasks] at found
  | cons first rest =>
      rw [tasks] at single found
      obtain rfl : rest = [] := by
        cases rest with
        | nil => rfl
        | cons _ _ => simp at single
      cases index with
      | zero => simpa using found
      | succ index => simp at found

theorem sound_initial : (initial : Operations Params Value).Sound where
  numbered := by simp [initial]
  owned := by simp [initial]
  pending := by simp [initial]
  single := by simp [initial]
  working := by simp [initial]
  unsettled := by simp [initial, Unsettled, Admitted]
  began := by simp [initial]
  reported := by simp [initial]
  permitted := Traces.each_nil

/-! ### Calls -/

theorem getElem?_prune {id : String} :
    operations.prune.entries[id]? =
      operations.entries[id]?.filter (retained operations.now) := by
  simp only [prune, ExtTreeMap.getElem?_filter']

theorem Sound.prune (sound : operations.Sound) : operations.prune.Sound := by
  have kept : ∀ (id : String) (entry : Entry Value),
      operations.prune.entries[id]? = some entry →
        operations.entries[id]? = some entry := by
    intro id entry found
    rw [getElem?_prune, Option.filter_eq_some_iff] at found
    exact found.1
  refine ⟨sound.numbered, ?_, ?_, sound.single, ?_, sound.unsettled,
    sound.began, ?_, sound.permitted⟩
  · intro id entry found
    exact sound.owned id entry (kept id entry found)
  · intro id entry found
    exact sound.pending id entry (kept id entry found)
  · intro task member
    obtain ⟨entry, found, running⟩ := sound.working task member
    refine ⟨entry, ?_, running⟩
    rw [getElem?_prune, found, Option.filter_eq_some_iff]
    simp [retained, (sound.pending _ entry found running).1]
  · intro caller operation member
    obtain ⟨admitted, state, reported⟩ := sound.reported caller operation member
    exact ⟨admitted, state, fun response entry answered found =>
      reported response entry answered (kept _ entry found)⟩

/-- A new operation is not known yet. -/
theorem Sound.fresh (sound : operations.Sound) (nameSpace : String) :
    ¬ Admitted operations.trace
      (operationId nameSpace (operations.next + 1)) := by
  rintro ⟨owner, work, member⟩
  obtain ⟨number, bound, same⟩ := sound.numbered _ owner work member
  have equal := operationId_number same
  omega

theorem Sound.start (sound : operations.Sound) (owner : Owner)
    (work : Start Params) : (operations.start owner work).2.Sound := by
  have pruned := sound.prune
  unfold Operations.start
  dsimp only
  split
  · exact pruned
  · rename_i free
    have fresh := pruned.fresh owner.nameSpace
    rw [not_or] at free
    have idle : operations.prune.tasks = [] := by
      rw [List.eq_nil_iff_forall_not_mem]
      intro task member
      obtain ⟨entry, found, running⟩ := pruned.working task member
      apply free.2
      rw [List.any_eq_true]
      exact ⟨entry, mem_values_iff.mpr ⟨_, found⟩, by simp [running]⟩
    have none : ∀ other, ¬ Unsettled operations.prune.trace other := by
      intro other running
      obtain ⟨task, member, -⟩ := (pruned.unsettled other).mp running
      rw [idle] at member
      nomatch member
    generalize identity : operationId owner.nameSpace
      (operations.prune.next + 1) = id at fresh ⊢
    refine ⟨?_, ?_, ?_, ?_, ?_, ?_, ?_, ?_, Traces.each_concat_iff.mpr
      ⟨pruned.permitted, fresh, none⟩⟩
    · intro other caller request member
      rcases List.mem_append.mp member with earlier | last
      · obtain ⟨number, bound, same⟩ :=
          pruned.numbered other caller request earlier
        exact ⟨number, Nat.le_succ_of_le bound, same⟩
      · have same := List.mem_singleton.mp last
        injection same with ids owners works
        exact ⟨operations.prune.next + 1, Nat.le_refl _,
          by rw [ids, owners, identity]⟩
    · intro other entry found
      rw [mark, getElem?_insert] at found
      split at found
      · rename_i same
        obtain rfl := Option.some.inj found
        exact ⟨owner, work, by simp [mark, same], rfl⟩
      · exact (pruned.owned other entry found).concat _
    · intro other entry found running
      rw [mark, getElem?_insert] at found
      split at found
      · rename_i same
        obtain rfl := Option.some.inj found
        exact ⟨rfl, ⟨id, .checking⟩, by simp [mark], same⟩
      · obtain ⟨unfinished, task, member, same⟩ :=
          pruned.pending other entry found running
        exact ⟨unfinished, task, List.mem_append_left _ member, same⟩
    · simp [mark, idle]
    · intro task member
      rw [mark, idle] at member
      obtain rfl := List.mem_singleton.mp member
      exact ⟨.admitted owner, by simp [mark], rfl⟩
    · intro other
      have ended : Ended (operations.prune.trace ++
          [.admitted id owner work]) other ↔
            Ended operations.prune.trace other := by
        simp [Ended]
      simp only [mark, idle, List.nil_append, List.mem_singleton,
        exists_eq_left]
      constructor
      · rintro ⟨⟨caller, request, member⟩, unended⟩
        rw [ended] at unended
        rcases List.mem_append.mp member with earlier | last
        · exact absurd ⟨⟨caller, request, earlier⟩, unended⟩ (none other)
        · have same := List.mem_singleton.mp last
          injection same with ids
          exact ids.symm
      · rintro rfl
        refine ⟨⟨owner, work, by simp⟩, ?_⟩
        rw [ended]
        exact fun ended => fresh (pruned.admitted_of_ended ended)
    · intro task member
      rw [mark, idle] at member
      obtain rfl := List.mem_singleton.mp member
      have unbegun : .began id ∉ operations.prune.trace :=
        fun member => fresh (pruned.admitted_of_began member)
      simpa [mark] using unbegun
    · intro caller operation member
      have earlier : .replied caller (.status operation) ∈
          operations.prune.trace := by
        simpa [mark] using member
      obtain ⟨admitted, state, reported⟩ :=
        pruned.reported caller operation earlier
      refine ⟨admitted.concat _, state, ?_⟩
      intro response entry answered found
      rw [mark, getElem?_insert, if_neg] at found
      · exact reported response entry answered found
      · rintro rfl
        exact fresh admitted

/-- Entries that change in their cancellations only, and a mark that neither
begins nor ends an operation. -/
theorem Sound.aside (sound : operations.Sound)
    {after : Operations Params Value} {mark : Mark Params Value}
    (aside : mark.Aside) (permitted : mark.Permitted operations.trace)
    (replied : ∀ caller operation, mark = .replied caller (.status operation) →
      operation.state =
          (if operation.response.isSome then "finished" else "running") ∧
        ∃ entry, operations.entries[operation.id]? = some entry ∧
          operation.response = entry.response)
    (next : after.next = operations.next)
    (entries : ∀ id : String, ∀ entry : Entry Value,
      after.entries[id]? = some entry →
        ∃ earlier, operations.entries[id]? = some earlier ∧
          earlier.owner = entry.owner ∧ earlier.response = entry.response ∧
            earlier.finished = entry.finished)
    (kept : ∀ id : String, ∀ entry : Entry Value,
      operations.entries[id]? = some entry →
        ∃ later, after.entries[id]? = some later ∧
          later.response = entry.response)
    (tasks : after.tasks = operations.tasks)
    (trace : after.trace = operations.trace ++ [mark]) : after.Sound where
  numbered := by
    rw [trace, next]
    intro id owner work member
    rcases List.mem_append.mp member with earlier | last
    · exact sound.numbered id owner work earlier
    · rw [← List.mem_singleton.mp last] at aside
      exact aside.elim
  owned := by
    rw [trace]
    intro id entry found
    obtain ⟨earlier, known, owner, -, -⟩ := entries id entry found
    rw [← owner]
    exact (sound.owned id earlier known).concat mark
  pending := by
    rw [tasks]
    intro id entry found running
    obtain ⟨earlier, known, -, response, finished⟩ := entries id entry found
    rw [← finished]
    exact sound.pending id earlier known (response.trans running)
  single := by
    rw [tasks]
    exact sound.single
  working := by
    rw [tasks]
    intro task member
    obtain ⟨entry, found, running⟩ := sound.working task member
    obtain ⟨later, still, response⟩ := kept task.id entry found
    exact ⟨later, still, response.trans running⟩
  unsettled := by
    rw [trace, tasks]
    intro id
    rw [aside.unsettled_iff]
    exact sound.unsettled id
  began := by
    rw [trace, tasks]
    intro task member
    have same : .began task.id ∈ operations.trace ++ [mark] ↔
        .began task.id ∈ operations.trace := by
      cases mark with
      | cancelled _ _ => simp
      | replied _ _ => simp
      | admitted => exact aside.elim
      | began => exact aside.elim
      | settled => exact aside.elim
      | dropped => exact aside.elim
    rw [same]
    exact sound.began task member
  reported := by
    rw [trace]
    intro caller operation member
    rcases List.mem_append.mp member with earlier | last
    · obtain ⟨admitted, state, reported⟩ :=
        sound.reported caller operation earlier
      refine ⟨admitted.concat mark, state, ?_⟩
      intro response entry answered found
      obtain ⟨before, known, -, same, -⟩ := entries _ entry found
      rw [← same]
      exact reported response before answered known
    · have same := List.mem_singleton.mp last
      obtain ⟨state, entry, found, response⟩ :=
        replied caller operation same.symm
      subst same
      refine ⟨permitted.1.admitted.concat _, state, ?_⟩
      intro answer later answered present
      obtain ⟨before, known, -, equal, -⟩ := entries _ later present
      obtain rfl := Option.some.inj (found.symm.trans known)
      rw [← equal, ← response, answered]
  permitted := by
    rw [trace]
    exact Traces.each_concat_iff.mpr ⟨sound.permitted, permitted⟩

theorem getElem?_cancel {id other : String} {cause : Cause} :
    (operations.cancel id cause).entries[other]? =
      operations.entries[other]?.map fun entry =>
        if id = other then { entry with cancel := true } else entry := by
  rw [cancel, mark, getElem?_modify]

theorem Sound.cancel (sound : operations.Sound) {id : String} {cause : Cause}
    (admitted : Admitted operations.trace id)
    (permitted : ∀ caller, cause = .requested caller →
      OwnedBy operations.trace id caller.name) :
    (operations.cancel id cause).Sound := by
  have aside : Mark.Aside (.cancelled id cause : Mark Params Value) := trivial
  refine sound.aside aside ⟨admitted, permitted⟩ nofun rfl ?_ ?_ rfl rfl
  · intro other entry found
    rw [getElem?_cancel, Option.map_eq_some_iff] at found
    obtain ⟨earlier, known, rfl⟩ := found
    refine ⟨earlier, known, ?_⟩
    split
    · exact ⟨rfl, rfl, rfl⟩
    · exact ⟨rfl, rfl, rfl⟩
  · intro other entry found
    refine ⟨_, by rw [getElem?_cancel, found]; rfl, ?_⟩
    split
    · rfl
    · rfl

/-- A reply that tells what is known of an operation of the caller. -/
structure Tells (operations : Operations Params Value) (caller : Owner)
    (operation : OperationStatus Value) : Prop where
  owned : OwnedBy operations.trace operation.id caller.name
  state : operation.state =
    if operation.response.isSome then "finished" else "running"
  known : ∃ entry, operations.entries[operation.id]? = some entry ∧
    operation.response = entry.response

theorem Sound.replied (sound : operations.Sound) {caller : Owner}
    {reply : Reply Value}
    (tells : ∀ operation, reply = .status operation →
      operations.Tells caller operation) :
    (operations.mark (.replied caller reply)).Sound := by
  have aside : Mark.Aside (.replied caller reply : Mark Params Value) :=
    trivial
  refine sound.aside aside ?_ ?_ rfl ?_ ?_ rfl rfl
  · cases reply with
    | error code message => exact trivial
    | status operation =>
        obtain ⟨owned, state, entry, found, response⟩ := tells operation rfl
        refine ⟨owned, ?_⟩
        intro other earlier member same answer answered
        obtain ⟨-, told, reported⟩ := sound.reported other earlier member
        rw [← same] at found
        have answers := reported answer entry answered found
        rw [response, answers] at state
        rw [response, answers, state, told, answered]
        exact ⟨rfl, rfl⟩
  · intro other operation same
    injection same with callers replies
    obtain ⟨-, state, known⟩ := tells operation replies
    exact ⟨state, known⟩
  · intro id entry found
    exact ⟨entry, found, rfl, rfl, rfl⟩
  · intro id entry found
    exact ⟨entry, found, rfl⟩

theorem start_tells (owner : Owner) (work : Start Params)
    {operation : OperationStatus Value}
    (replied : (operations.start owner work).1 = .status operation) :
    (operations.start owner work).2.Tells owner operation := by
  unfold Operations.start at replied ⊢
  dsimp only at replied ⊢
  split at replied
  · nomatch replied
  · rename_i free
    rw [if_neg free]
    injection replied with same
    subst same
    refine ⟨⟨owner, work, by simp [mark], rfl⟩, rfl, .admitted owner, ?_, rfl⟩
    simp [mark]

theorem Sound.lookup (sound : operations.Sound) (method : String)
    (request : Except String String) (owner : Owner) :
    (operations.lookup method request owner).2.Sound ∧
      ∀ operation, (operations.lookup method request owner).1 =
        .status operation →
          (operations.lookup method request owner).2.Tells owner operation := by
  cases request with
  | error text => exact ⟨sound, nofun⟩
  | ok id =>
      unfold Operations.lookup
      dsimp only
      split
      · exact ⟨sound, nofun⟩
      · rename_i entry found
        rw [Option.filter_eq_some_iff, Bool.and_eq_true, beq_iff_eq] at found
        obtain ⟨found, same, -⟩ := found
        have owned : OwnedBy operations.trace id owner.name := by
          rw [← same]
          exact sound.owned id entry found
        split
        · constructor
          · apply sound.cancel owned.admitted
            intro caller cause
            injection cause with callers
            rwa [← callers]
          · intro operation replied
            injection replied with same
            subst same
            refine ⟨owned.concat _, rfl, { entry with cancel := true }, ?_,
              rfl⟩
            rw [getElem?_cancel, found]
            simp
        · refine ⟨sound, ?_⟩
          intro operation replied
          injection replied with same
          subst same
          exact ⟨owned, rfl, entry, found, rfl⟩

theorem Sound.call (sound : operations.Sound) (method : String)
    (params : CallParams Params) (owner : Owner) :
    (operations.call method params owner).2.Sound ∧
      ∀ operation, (operations.call method params owner).1 =
        .status operation →
          (operations.call method params owner).2.Tells owner operation := by
  unfold Operations.call
  split
  · split
    · exact ⟨sound, nofun⟩
    · rename_i work read
      split
      · exact ⟨sound.start owner work,
          fun operation replied => start_tells owner work replied⟩
      · exact ⟨sound, nofun⟩
  · exact sound.lookup method params.lookup owner

/-! ### Tasks -/

/-- The work of the only task begins. -/
theorem Sound.begin (sound : operations.Sound) {id : String}
    (only : operations.tasks = [⟨id, .checking⟩]) (now : Nat) :
    Sound ((operations.advance 0 ⟨id, .running now⟩).mark (.began id)) := by
  have running : Unsettled operations.trace id :=
    (sound.unsettled id).mpr ⟨⟨id, .checking⟩, by simp [only], rfl⟩
  have unbegun : .began id ∉ operations.trace :=
    (sound.began ⟨id, .checking⟩ (by simp [only])).mp rfl
  have tasks : (operations.advance 0 ⟨id, .running now⟩).tasks =
      [⟨id, .running now⟩] := by
    simp [advance, only]
  refine ⟨?_, ?_, ?_, ?_, ?_, ?_, ?_, ?_, Traces.each_concat_iff.mpr
    ⟨sound.permitted, running, unbegun⟩⟩
  · intro other owner work member
    have earlier : .admitted other owner work ∈ operations.trace := by
      simpa [mark, advance] using member
    exact sound.numbered other owner work earlier
  · intro other entry found
    exact (sound.owned other entry found).concat _
  · intro other entry found unanswered
    obtain ⟨unfinished, task, member, same⟩ :=
      sound.pending other entry found unanswered
    rw [only] at member
    obtain rfl := List.mem_singleton.mp member
    exact ⟨unfinished, ⟨id, .running now⟩, by simp [mark, tasks], same⟩
  · simp [mark, tasks]
  · intro task member
    rw [mark, tasks] at member
    obtain rfl := List.mem_singleton.mp member
    exact sound.working ⟨id, .checking⟩ (by simp [only])
  · intro other
    have same : Unsettled (operations.trace ++ [.began id]) other ↔
        Unsettled operations.trace other := by
      simp [Unsettled, Admitted, Ended]
    have known := sound.unsettled other
    rw [only] at known
    rw [mark, tasks]
    simpa [same, advance] using known
  · intro task member
    rw [mark, tasks] at member
    obtain rfl := List.mem_singleton.mp member
    simp [mark]
  · intro caller operation member
    have earlier : .replied caller (.status operation) ∈
        operations.trace := by
      simpa [mark, advance] using member
    obtain ⟨admitted, state, reported⟩ :=
      sound.reported caller operation earlier
    exact ⟨admitted.concat _, state, reported⟩

/-- A task that goes on to wait for its work. -/
theorem Sound.await (sound : operations.Sound) {id : String} {since : Nat}
    (only : operations.tasks = [⟨id, .running since⟩]) (ownerLost : Bool) :
    (operations.advance 0 ⟨id, .cancelling ownerLost⟩).Sound := by
  have began : .began id ∈ operations.trace := by
    have known := sound.began ⟨id, .running since⟩ (by simp [only])
    simpa using known
  have tasks : (operations.advance 0 ⟨id, .cancelling ownerLost⟩).tasks =
      [⟨id, .cancelling ownerLost⟩] := by
    simp [advance, only]
  refine ⟨sound.numbered, sound.owned, ?_, ?_, ?_, ?_, ?_, sound.reported,
    sound.permitted⟩
  · intro other entry found unanswered
    obtain ⟨unfinished, task, member, same⟩ :=
      sound.pending other entry found unanswered
    rw [only] at member
    obtain rfl := List.mem_singleton.mp member
    exact ⟨unfinished, ⟨id, .cancelling ownerLost⟩, by simp [tasks], same⟩
  · simp [tasks]
  · intro task member
    rw [tasks] at member
    obtain rfl := List.mem_singleton.mp member
    exact sound.working ⟨id, .running since⟩ (by simp [only])
  · intro other
    have known := sound.unsettled other
    rw [only] at known
    rw [tasks]
    simpa [advance] using known
  · intro task member
    rw [tasks] at member
    obtain rfl := List.mem_singleton.mp member
    simpa [advance] using began

/-- The only task ends, and its entry is gone or has its response. -/
theorem Sound.ended (sound : operations.Sound) {task : Task}
    (only : operations.tasks = [task])
    {after : Operations Params Value} {mark : Mark Params Value}
    (permitted : mark.Permitted operations.trace)
    (ends : mark = .dropped task.id ∨
      ∃ response, mark = .settled task.id response)
    (next : after.next = operations.next)
    (entries : ∀ id : String, ∀ entry : Entry Value,
      after.entries[id]? = some entry →
        ∃ earlier, operations.entries[id]? = some earlier ∧
          earlier.owner = entry.owner ∧
            (id ≠ task.id ∧ earlier = entry ∨
              id = task.id ∧ entry.response.isSome = true))
    (tasks : after.tasks = [])
    (trace : after.trace = operations.trace ++ [mark]) : after.Sound := by
  have ending : Ended (operations.trace ++ [mark]) task.id := by
    rcases ends with rfl | ⟨response, rfl⟩
    · exact .inl (by simp)
    · exact .inr ⟨response, by simp⟩
  have unanswered : ∀ entry : Entry Value,
      operations.entries[task.id]? = some entry → entry.response = none := by
    intro entry found
    obtain ⟨other, present, running⟩ := sound.working task (by simp [only])
    obtain rfl := Option.some.inj (found.symm.trans present)
    exact running
  have admitted : ∀ id owner work,
      .admitted id owner work ∈ operations.trace ++ [mark] →
        .admitted id owner work ∈ operations.trace := by
    rcases ends with rfl | ⟨response, rfl⟩ <;> simp
  refine ⟨?_, ?_, ?_, by simp [tasks], by simp [tasks], ?_, by simp [tasks],
    ?_, ?_⟩
  · rw [trace, next]
    intro id owner work member
    exact sound.numbered id owner work (admitted id owner work member)
  · rw [trace]
    intro id entry found
    obtain ⟨earlier, known, owner, -⟩ := entries id entry found
    rw [← owner]
    exact (sound.owned id earlier known).concat mark
  · intro id entry found running
    obtain ⟨earlier, known, -, ⟨other, rfl⟩ | ⟨-, answered⟩⟩ :=
      entries id entry found
    · obtain ⟨-, pending, member, same⟩ :=
        sound.pending id earlier known running
      rw [only] at member
      obtain rfl := List.mem_singleton.mp member
      exact absurd same.symm other
    · rw [running] at answered
      nomatch answered
  · rw [trace, tasks]
    intro id
    constructor
    · rintro ⟨⟨owner, work, member⟩, unended⟩
      have running : Unsettled operations.trace id := by
        refine ⟨⟨owner, work, admitted id owner work member⟩, ?_⟩
        rintro (dropped | ⟨response, settled⟩)
        · exact unended (.inl (List.mem_append_left _ dropped))
        · exact unended (.inr ⟨response, List.mem_append_left _ settled⟩)
      obtain ⟨held, member, same⟩ := (sound.unsettled id).mp running
      rw [only] at member
      obtain rfl := List.mem_singleton.mp member
      rw [← same] at unended
      exact absurd ending unended
    · rintro ⟨held, member, -⟩
      nomatch member
  · rw [trace]
    intro caller operation member
    have earlier : .replied caller (.status operation) ∈
        operations.trace := by
      rcases ends with rfl | ⟨response, rfl⟩ <;> simpa using member
    obtain ⟨known, state, reported⟩ :=
      sound.reported caller operation earlier
    refine ⟨known.concat mark, state, ?_⟩
    intro response entry answered found
    obtain ⟨before, present, -, ⟨other, rfl⟩ | ⟨same, -⟩⟩ :=
      entries _ entry found
    · exact reported response before answered present
    · have told := reported response before answered present
      rw [same] at present
      rw [unanswered before present] at told
      nomatch told
  · rw [trace]
    exact Traces.each_concat_iff.mpr ⟨sound.permitted, permitted⟩

theorem Sound.forgotten (sound : operations.Sound) {task : Task}
    (only : operations.tasks = [task]) {mark : Mark Params Value}
    (permitted : mark.Permitted operations.trace)
    (ends : mark = .dropped task.id ∨
      ∃ response, mark = .settled task.id response) :
    Sound (((operations.forget task.id).release 0).mark mark) := by
  refine sound.ended only permitted ends rfl ?_ ?_ rfl
  · intro id entry found
    rw [Operations.mark, release, forget, getElem?_erase] at found
    split at found
    · nomatch found
    · rename_i other
      exact ⟨entry, found, rfl, .inl ⟨fun same => other same.symm, rfl⟩⟩
  · simp [Operations.mark, release, forget, only]

theorem Sound.finished (sound : operations.Sound) {task : Task}
    (only : operations.tasks = [task]) {response : Response Value}
    (permitted : (Mark.settled task.id response).Permitted operations.trace) :
    Sound (((operations.finish task.id response).release 0).mark
      (.settled task.id response)) := by
  refine sound.ended only permitted (.inr ⟨response, rfl⟩) rfl ?_ ?_ rfl
  · intro id entry found
    rw [Operations.mark, release, finish, getElem?_modify,
      Option.map_eq_some_iff] at found
    obtain ⟨earlier, known, rfl⟩ := found
    refine ⟨earlier, known, ?_⟩
    by_cases same : task.id = id
    · rw [if_pos same]
      exact ⟨rfl, .inr ⟨same.symm, rfl⟩⟩
    · rw [if_neg same]
      exact ⟨rfl, .inl ⟨fun equal => same equal.symm, rfl⟩⟩
  · simp [Operations.mark, release, finish, only]

theorem Sound.checked (sound : operations.Sound) {id : String}
    (only : operations.tasks = [⟨id, .checking⟩]) (answer : Bool) :
    (operations.checked 0 ⟨id, .checking⟩ answer).Sound := by
  unfold Operations.checked
  split
  · exact sound.begin only operations.now
  · have running : Unsettled operations.trace id :=
      (sound.unsettled id).mpr ⟨⟨id, .checking⟩, by simp [only], rfl⟩
    have unbegun : .began id ∉ operations.trace :=
      (sound.began ⟨id, .checking⟩ (by simp [only])).mp rfl
    have permitted : (Mark.dropped id).Permitted operations.trace :=
      ⟨running, unbegun⟩
    exact sound.forgotten only permitted (.inl rfl)

theorem Sound.settled (sound : operations.Sound) {task : Task}
    (only : operations.tasks = [task]) (begun : task.stage ≠ .checking)
    (response : Response Value) (ownerLost : Bool) :
    (operations.settled 0 task response ownerLost).Sound := by
  have running : Unsettled operations.trace task.id :=
    (sound.unsettled task.id).mpr ⟨task, by simp [only], rfl⟩
  have began : .began task.id ∈ operations.trace := by
    have known := sound.began task (by simp [only])
    simpa [begun] using known
  have permitted : (Mark.settled task.id response).Permitted
      operations.trace :=
    ⟨running, began⟩
  unfold Operations.settled
  split
  · exact sound.forgotten only permitted (.inr ⟨response, rfl⟩)
  · exact sound.finished only permitted

theorem Sound.interrupted (sound : operations.Sound) {id : String}
    {since : Nat} (only : operations.tasks = [⟨id, .running since⟩])
    (ownerLost : Bool) {cause : Cause}
    (own : ∀ caller, cause ≠ .requested caller) :
    ((operations.advance 0 ⟨id, .cancelling ownerLost⟩).cancel id
      cause).Sound := by
  have running : Unsettled operations.trace id :=
    (sound.unsettled id).mpr ⟨⟨id, .running since⟩, by simp [only], rfl⟩
  exact (sound.await only ownerLost).cancel running.1
    fun caller same => absurd same (own caller)

/-! ### Runs -/

theorem Sound.step (sound : operations.Sound)
    (event : Event Params Value) : (operations.step event).Sound := by
  cases event with
  | call method params owner =>
      obtain ⟨called, tells⟩ := sound.call method params owner
      exact called.replied tells
  | answered index answer =>
      simp only [Operations.step]
      split
      · rename_i id found
        obtain ⟨only, rfl⟩ := sound.task found
        exact sound.checked only answer
      · exact sound
  | settle index outcome =>
      simp only [Operations.step]
      split
      · rename_i id since found
        obtain ⟨only, rfl⟩ := sound.task found
        exact sound.settled only nofun _ false
      · rename_i id ownerLost found
        obtain ⟨only, rfl⟩ := sound.task found
        exact sound.settled only nofun _ ownerLost
      · exact sound
  | close index =>
      simp only [Operations.step]
      split
      · rename_i id since found
        obtain ⟨only, rfl⟩ := sound.task found
        exact sound.interrupted only true nofun
      · exact sound
  | timeOut index =>
      simp only [Operations.step]
      split
      · rename_i id since found
        obtain ⟨only, rfl⟩ := sound.task found
        split
        · exact sound.interrupted only false nofun
        · exact sound
      · exact sound
  | elapse duration => exact ⟨sound.numbered, sound.owned, sound.pending,
      sound.single, sound.working, sound.unsettled, sound.began,
      sound.reported, sound.permitted⟩

theorem sound_after (events : List (Event Params Value)) :
    (after events).Sound := by
  have unconditional : StepsMeet step (fun _ _ => True)
      (initial : Operations Params Value) events :=
    stepsMeet_of_forall (fun _ _ => trivial) initial events
  have preserved : ∀ operations : Operations Params Value, ∀ event,
      operations.Sound → True → (operations.step event).Sound :=
    fun _ event sound _ => sound.step event
  exact invariant_run preserved sound_initial unconditional

/-- While an operation is unsettled, no other one is started. -/
theorem Sound.start_refused (sound : operations.Sound) {id : String}
    (unsettled : Unsettled operations.trace id) (owner : Owner)
    (work : Start Params) :
    (operations.start owner work).1 = .error "operation-active"
        "battery operation capacity exceeded; request was not dispatched" := by
  obtain ⟨task, member, -⟩ := (sound.prune.unsettled id).mp unsettled
  obtain ⟨entry, found, running⟩ := sound.prune.working task member
  unfold Operations.start
  dsimp only
  rw [if_pos]
  right
  rw [List.any_eq_true]
  exact ⟨entry, mem_values_iff.mpr ⟨_, found⟩, by simp [running]⟩

/-- A call that is refused starts nothing. -/
theorem tasks_of_refused {method : String} {params : CallParams Params}
    {owner : Owner} {code message : String}
    (refused : (operations.call method params owner).1 =
      .error code message) :
    (operations.call method params owner).2.tasks = operations.tasks ∧
      (operations.call method params owner).2.trace = operations.trace := by
  unfold Operations.call at refused ⊢
  split at refused
  · rename_i start
    rw [if_pos start]
    split at refused
    · exact ⟨rfl, rfl⟩
    · rename_i work read
      split at refused
      · rename_i known
        simp only [if_pos known]
        unfold Operations.start at refused ⊢
        dsimp only at refused ⊢
        split at refused
        · rename_i full
          rw [if_pos full]
          exact ⟨rfl, rfl⟩
        · nomatch refused
      · rename_i unknown
        simp only [if_neg unknown]
        exact ⟨trivial, trivial⟩
  · rename_i other
    rw [if_neg other]
    unfold Operations.lookup at refused ⊢
    split at refused
    · exact ⟨rfl, rfl⟩
    · split at refused
      · exact ⟨rfl, rfl⟩
      · split at refused
        · nomatch refused
        · nomatch refused

theorem next_step_le (operations : Operations Params Value)
    (event : Event Params Value) :
    (operations.step event).next ≤ operations.next + 1 := by
  cases event with
  | call method params owner =>
      simp only [step, call, start, lookup, mark]
      repeat' split
      all_goals simp [prune, cancel, mark]
  | elapse duration => exact Nat.le_succ _
  | _ =>
      simp only [step, checked, settled]
      repeat' split
      all_goals exact Nat.le_succ _

/-- The counter does not wrap in a run of fewer than `2 ^ 64` events. -/
theorem next_after_le (events : List (Event Params Value)) :
    (after events).next ≤ events.length := by
  induction events using List.reverseRecOn with
  | nil => exact Nat.le_refl 0
  | append_singleton events event ih =>
      rw [after, run_append, List.length_append]
      exact Nat.le_trans (next_step_le _ event) (Nat.succ_le_succ ih)

/-- In every run each step is permitted by what came before it, the work of
one operation is unsettled at most, no other operation is started meanwhile,
and a call that is refused starts nothing. -/
theorem operations_exclusive (events : List (Event Params Value)) :
    Traces.Each Mark.Permitted (after events).trace ∧
      (∀ first second, Unsettled (after events).trace first →
        Unsettled (after events).trace second → first = second) ∧
      (∀ id owner work, Unsettled (after events).trace id →
        ((after events).start owner work).1 = .error "operation-active"
          "battery operation capacity exceeded; request was not dispatched") ∧
      ∀ method params owner code message,
        ((after events).call method params owner).1 = .error code message →
          ((after events).call method params owner).2.tasks =
            (after events).tasks := by
  have sound := sound_after events
  refine ⟨sound.permitted, ?_, ?_, ?_⟩
  · intro first second running other
    obtain ⟨task, member, same⟩ := (sound.unsettled first).mp running
    obtain ⟨held, present, equal⟩ := (sound.unsettled second).mp other
    obtain ⟨index, found⟩ := List.getElem?_of_mem member
    rw [(sound.task found).1, List.mem_singleton] at present
    rw [← same, ← equal, present]
  · intro id owner work unsettled
    exact sound.start_refused unsettled owner work
  · intro method params owner code message refused
    exact (tasks_of_refused refused).1

end Operations

end BarDaemon.BatteryOperations
