import BarDaemon.UpdateIssueChanges

/-!
# Progress of annotating

After each run the issues are those of the runs so far, each recovered by the
first of them that does so, and the places of the others are pending.
-/

namespace BarDaemon.UpdateIssues

open SortedEntries

/-! ### Places -/

def look (issues : List (List RunIssue)) (place : Nat × Nat) : Option RunIssue :=
  issues[place.1]?.bind fun own => own[place.2]?

variable {issues : List (List RunIssue)} {time : Nat} {id : String}

theorem look_modify (issues : List (List RunIssue)) (changed place : Nat × Nat)
    (update : RunIssue → RunIssue) :
    look (issues.modify changed.1 fun own => own.modify changed.2 update) place =
      if changed = place then (look issues place).map update
      else look issues place := by
  obtain ⟨run, index⟩ := changed
  obtain ⟨other, position⟩ := place
  rw [look, look, List.getElem?_modify]
  by_cases same : run = other
  · subst same
    cases issues[run]? with
    | none => simp
    | some own =>
        change ((if run = run then own.modify index update else own))[position]? = _
        rw [if_pos rfl, List.getElem?_modify]
        by_cases equal : index = position
        · rw [if_pos (congrArg _ equal)]
          simp [equal]
        · have different : (run, index) ≠ (run, position) := fun pair =>
            equal (congrArg Prod.snd pair)
          rw [if_neg different]
          simp [equal]
  · have different : (run, index) ≠ (other, position) := fun equal =>
      same (congrArg Prod.fst equal)
    rw [if_neg different]
    cases issues[other]? with
    | none => rfl
    | some own => simp [same]

theorem recover_recover (issue : RunIssue) (time : Nat) (id : String) :
    (issue.recover time id).1.recover time id = issue.recover time id := by
  by_cases early : time ≤ issue.failedAt
  · have kept : issue.recover time id = (issue, false) := if_pos early
    rw [kept, kept]
  · have done : issue.recover time id = ({ issue with
        recoveredAt := some time
        recoveredRunId := some id }, true) := if_neg early
    rw [done]
    exact if_neg early

theorem retain_length (places : List (Nat × Nat)) (issues : List (List RunIssue)) :
    (retain time id issues places).1.length = issues.length := by
  induction places generalizing issues with
  | nil => rfl
  | cons place places ih =>
      change (retain time id (issues.modify _ _) places).1.length = _
      rw [ih, List.length_modify]

theorem look_retain (places : List (Nat × Nat)) (issues : List (List RunIssue))
    (place : Nat × Nat) :
    look (retain time id issues places).1 place =
      if place ∈ places then
        (look issues place).map fun issue => (issue.recover time id).1
      else look issues place := by
  induction places generalizing issues with
  | nil => rfl
  | cons changed places ih =>
      change look (retain time id (issues.modify changed.1 fun own =>
        own.modify changed.2 fun issue => (issue.recover time id).1) places).1 place = _
      rw [ih, look_modify]
      by_cases here : changed = place
      · subst here
        simp only [if_true, List.mem_cons_self, Option.map_map]
        split
        · congr 1
          funext issue
          exact congrArg Prod.fst (recover_recover issue time id)
        · rfl
      · simp only [if_neg here, List.mem_cons, Ne.symm here, false_or]

/-- The issue at a place is recovered by the run. -/
def recoveredAt (time : Nat) (id : String) (issues : List (List RunIssue))
    (place : Nat × Nat) : Bool :=
  (look issues place).any fun issue => (issue.recover time id).2

theorem retain_kept (places : List (Nat × Nat)) (issues : List (List RunIssue)) :
    (retain time id issues places).2 =
      places.filter fun place => !recoveredAt time id issues place := by
  induction places generalizing issues with
  | nil => rfl
  | cons changed places ih =>
      have after : (retain time id (issues.modify changed.1 fun own =>
          own.modify changed.2 fun issue => (issue.recover time id).1) places).2 =
            places.filter fun place => !recoveredAt time id issues place := by
        rw [ih]
        congr 1
        funext place
        rw [recoveredAt, look_modify, recoveredAt]
        split
        · cases look issues place with
          | none => rfl
          | some issue =>
              have same := congrArg Prod.snd (recover_recover issue time id)
              exact congrArg not same
        · rfl
      change (if recoveredAt time id issues changed then _ else changed :: _) = _
      rw [after, List.filter_cons]
      cases recoveredAt time id issues changed <;> rfl

/-! ### Issues so far -/

/-- The failures of a run, with its index and its time. -/
structure Failed where
  index : Nat
  time : Nat
  failures : List (IssueKey × Option Nat)

/-- The run that has recovered the issues of a key from a time, if one has. -/
abbrev Recoveries : Type := IssueKey → Nat → Option Run

def issueOf (recoveries : Recoveries) (time : Nat)
    (failure : IssueKey × Option Nat) : RunIssue where
  component := failure.2
  failedAt := time
  recoveredAt := (recoveries failure.1 time).map Run.finishedAt
  recoveredRunId := (recoveries failure.1 time).map Run.id

/-- The places of the issues of a key that are not recovered. -/
def placesOf (recoveries : Recoveries) (key : IssueKey) (failed : Failed) :
    List (Nat × Nat) :=
  (failed.failures.zipIdx.filter fun indexed =>
    decide (indexed.1.1 = key) && (recoveries key failed.time).isNone).map
      fun indexed => (failed.index, indexed.2)

/-- What the loop knows of the failures so far. -/
structure Holds (count : Nat) (past : List Failed) (recoveries : Recoveries)
    (progress : Progress) : Prop where
  length : progress.issues.length = count
  distinct : (past.map Failed.index).Nodup
  own : ∀ failed ∈ past, progress.issues[failed.index]? =
    some (failed.failures.map (issueOf recoveries failed.time))
  rest : ∀ index < count, index ∉ past.map Failed.index →
    progress.issues[index]? = some []
  sorted : Sorted progress.pending
  places : ∀ entry ∈ progress.pending,
    entry.2 = past.flatMap (placesOf recoveries entry.1)
  keys : ∀ key, key ∈ progress.pending.map Prod.fst ↔
    ∃ failed ∈ past, key ∈ failed.failures.map Prod.fst

variable {count : Nat} {past : List Failed} {recoveries : Recoveries}
  {progress : Progress}

theorem mem_placesOf {key : IssueKey} {failed : Failed} {place : Nat × Nat} :
    place ∈ placesOf recoveries key failed ↔
      place.1 = failed.index ∧ recoveries key failed.time = none ∧
        ∃ failure, failed.failures[place.2]? = some failure ∧ failure.1 = key := by
  simp only [placesOf, List.mem_map, List.mem_filter, List.mem_zipIdx_iff_getElem?,
    Bool.and_eq_true, decide_eq_true_eq, Option.isNone_iff_eq_none]
  constructor
  · rintro ⟨⟨failure, index⟩, ⟨found, same, open_⟩, rfl⟩
    exact ⟨rfl, open_, failure, found, same⟩
  · obtain ⟨run, index⟩ := place
    rintro ⟨rfl, open_, failure, found, same⟩
    exact ⟨(failure, index), ⟨found, same, open_⟩, rfl⟩

theorem Holds.look (holds : Holds count past recoveries progress) {failed : Failed}
    (among : failed ∈ past) (index : Nat) :
    look progress.issues (failed.index, index) =
      failed.failures[index]?.map (issueOf recoveries failed.time) := by
  rw [UpdateIssues.look]
  dsimp only
  rw [holds.own failed among, Option.bind_some, List.getElem?_map]

/-- A place belongs to the one run of its index. -/
theorem Holds.mem_places (holds : Holds count past recoveries progress)
    {failed : Failed} (among : failed ∈ past) {key : IssueKey} {index : Nat} :
    (failed.index, index) ∈ past.flatMap (placesOf recoveries key) ↔
      (failed.index, index) ∈ placesOf recoveries key failed := by
  rw [List.mem_flatMap]
  constructor
  · rintro ⟨other, listed, place⟩
    have same := (mem_placesOf.mp place).1
    rwa [← List.inj_on_of_nodup_map holds.distinct among listed same] at place
  · exact fun place => ⟨failed, among, place⟩

/-! ### Recovering -/

/-- A run has recovered the issues of a key. -/
def Recoveries.and (recoveries : Recoveries) (run : Run) (key : IssueKey) :
    Recoveries := fun other time =>
  (recoveries other time).or
    (if other = key ∧ time < run.finishedAt then some run else none)

theorem and_other {run : Run} {key other : IssueKey} (different : other ≠ key)
    (time : Nat) : recoveries.and run key other time = recoveries other time := by
  rw [Recoveries.and, if_neg fun both => different both.1, Option.or_none]

theorem and_some {run : Run} {key other : IssueKey} {time : Nat}
    (done : (recoveries other time).isSome = true) :
    recoveries.and run key other time = recoveries other time := by
  obtain ⟨first, found⟩ := Option.isSome_iff_exists.mp done
  rw [Recoveries.and, found, Option.some_or]

theorem issueOf_congr {first second : Recoveries} {time : Nat}
    {failure : IssueKey × Option Nat}
    (same : first failure.1 time = second failure.1 time) :
    issueOf first time failure = issueOf second time failure := by
  rw [issueOf, issueOf, same]

/-- An open issue, and what a run that recovers its key does to it. -/
theorem recover_issueOf {run : Run} {failure : IssueKey × Option Nat} {time : Nat}
    (open_ : recoveries failure.1 time = none) :
    (issueOf recoveries time failure).recover run.finishedAt run.id =
      (issueOf (recoveries.and run failure.1) time failure,
        decide (time < run.finishedAt)) := by
  by_cases early : time < run.finishedAt
  · have after : recoveries.and run failure.1 failure.1 time = some run := by
      rw [Recoveries.and, open_, Option.none_or, if_pos ⟨rfl, early⟩]
    have late : ¬ run.finishedAt ≤ (issueOf recoveries time failure).failedAt :=
      Nat.not_le.mpr early
    rw [RunIssue.recover, if_neg late, decide_eq_true early]
    simp only [issueOf, after, Option.map_some]
  · have after : recoveries.and run failure.1 failure.1 time = none := by
      rw [Recoveries.and, open_, Option.none_or, if_neg fun both => early both.2]
    have late : run.finishedAt ≤ (issueOf recoveries time failure).failedAt :=
      Nat.not_lt.mp early
    rw [RunIssue.recover, if_pos late, decide_eq_false early]
    simp only [issueOf, after, open_]

theorem placesOf_other {run : Run} {key other : IssueKey} (different : other ≠ key)
    (failed : Failed) :
    placesOf (recoveries.and run key) other failed =
      placesOf recoveries other failed := by
  rw [placesOf, placesOf, and_other different]

theorem placesOf_same (run : Run) (key : IssueKey) (failed : Failed) :
    placesOf (recoveries.and run key) key failed =
      (placesOf recoveries key failed).filter fun _ =>
        !decide (failed.time < run.finishedAt) := by
  by_cases early : failed.time < run.finishedAt
  · have done : (recoveries.and run key key failed.time).isNone = false := by
      rw [Recoveries.and, if_pos ⟨rfl, early⟩]
      cases recoveries key failed.time <;> rfl
    simp [placesOf, done, early]
  · have same : recoveries.and run key key failed.time = recoveries key failed.time := by
      rw [Recoveries.and, if_neg fun both => early both.2, Option.or_none]
    simp [placesOf, same, early]

/-- The issues after a run has recovered a key. -/
theorem own_retain {run : Run} {key : IssueKey}
    (holds : Holds count past recoveries progress) {failed : Failed}
    (among : failed ∈ past) :
    (retain run.finishedAt run.id progress.issues
        (past.flatMap (placesOf recoveries key))).1[failed.index]? =
      some (failed.failures.map
        (issueOf (recoveries.and run key) failed.time)) := by
  have before := holds.own failed among
  have inside := (List.getElem?_eq_some_iff.mp before).1
  rw [← @retain_length run.finishedAt run.id
    (past.flatMap (placesOf recoveries key)) progress.issues] at inside
  rw [List.getElem?_eq_getElem inside]
  congr 1
  apply List.ext_getElem?
  intro index
  have after := @look_retain run.finishedAt run.id
    (past.flatMap (placesOf recoveries key)) progress.issues (failed.index, index)
  rw [holds.look among, UpdateIssues.look] at after
  dsimp only at after
  rw [List.getElem?_eq_getElem inside, Option.bind_some] at after
  rw [after, List.getElem?_map]
  by_cases here : (failed.index, index) ∈ past.flatMap (placesOf recoveries key)
  · obtain ⟨_, still, failure, found, rfl⟩ :=
      mem_placesOf.mp ((holds.mem_places among).mp here)
    dsimp only at found
    rw [if_pos here, found, Option.map_some, Option.map_some, Option.map_some,
      recover_issueOf still]
  · rw [if_neg here]
    cases found : failed.failures[index]? with
    | none => rfl
    | some failure =>
        rw [Option.map_some, Option.map_some]
        congr 1
        apply issueOf_congr
        by_cases same : failure.1 = key
        · apply (and_some _).symm
          rw [Option.isSome_iff_ne_none]
          intro still
          apply here
          apply (holds.mem_places among).mpr
          exact mem_placesOf.mpr ⟨rfl, same ▸ still, failure, found, same⟩
        · exact (and_other same _).symm

/-- The runs that have no issues yet. -/
theorem rest_retain {run : Run} {places : List (Nat × Nat)}
    (holds : Holds count past recoveries progress) {index : Nat}
    (inside : index < count) (absent : index ∉ past.map Failed.index) :
    (retain run.finishedAt run.id progress.issues places).1[index]? = some [] := by
  have before := holds.rest index inside absent
  have within : index <
      (retain run.finishedAt run.id progress.issues places).1.length := by
    rw [retain_length, holds.length]
    exact inside
  rw [List.getElem?_eq_getElem within]
  congr 1
  apply List.ext_getElem?
  intro position
  have after := @look_retain run.finishedAt run.id places progress.issues
    (index, position)
  have none : look progress.issues (index, position) = none := by
    rw [look, before]
    rfl
  rw [none, Option.map_none, ite_self, look] at after
  dsimp only at after
  rw [List.getElem?_eq_getElem within, Option.bind_some] at after
  rw [after]
  rfl

theorem kept_placesOf {run : Run} {key : IssueKey}
    (holds : Holds count past recoveries progress) {failed : Failed}
    (among : failed ∈ past) :
    ((placesOf recoveries key failed).filter fun place =>
        !recoveredAt run.finishedAt run.id progress.issues place) =
      placesOf (recoveries.and run key) key failed := by
  rw [placesOf_same]
  apply List.filter_congr
  rintro ⟨index, position⟩ place
  obtain ⟨rfl, still, failure, found, rfl⟩ := mem_placesOf.mp place
  dsimp only at found
  rw [recoveredAt, holds.look among, found, Option.map_some, Option.any_some,
    recover_issueOf still]

theorem updated_key {key : IssueKey} (old : IssueKey × List (Nat × Nat))
    (kept : List (Nat × Nat)) :
    (if old.1 = key then (key, kept) else old).1 = old.1 := by
  split
  · rename_i same
    exact same.symm
  · rfl

theorem updated_keys {key : IssueKey} (pending : List (IssueKey × List (Nat × Nat)))
    (kept : List (Nat × Nat)) :
    (pending.map fun old => if old.1 = key then (key, kept) else old).map Prod.fst =
      pending.map Prod.fst := by
  rw [List.map_map]
  apply List.map_congr_left
  exact fun old _ => updated_key old kept

theorem holds_recover {run : Run} {key : IssueKey}
    (holds : Holds count past recoveries progress) :
    Holds count past (recoveries.and run key)
      (progress.recover run.finishedAt run.id key) := by
  rw [Progress.recover]
  cases found : progress.pending.find? (·.1 = key) with
  | none =>
      have absent : key ∉ progress.pending.map Prod.fst := by
        intro present
        obtain ⟨entry, among, same⟩ := List.mem_map.mp present
        exact List.find?_eq_none.mp found entry among (decide_eq_true same)
      have others : ∀ failed ∈ past, ∀ failure ∈ failed.failures, failure.1 ≠ key :=
        fun failed among failure listed same => absent ((holds.keys key).mpr
          ⟨failed, among, List.mem_map.mpr ⟨failure, listed, same⟩⟩)
      refine { holds with own := ?_, places := ?_ }
      · intro failed among
        refine (holds.own failed among).trans ?_
        congr 1
        apply List.map_congr_left
        intro failure listed
        exact issueOf_congr (and_other (others failed among failure listed) _).symm
      · intro entry among
        rw [holds.places entry among]
        have different : entry.1 ≠ key := fun same =>
          absent (same ▸ List.mem_map_of_mem among)
        congr 1
        funext failed
        exact (placesOf_other different failed).symm
  | some entry =>
      have same : entry.1 = key := by simpa using List.find?_some found
      have previous : entry.2 = past.flatMap (placesOf recoveries key) := by
        rw [← same]
        exact holds.places entry (List.mem_of_find?_eq_some found)
      dsimp only
      rw [previous, retain_kept]
      constructor
      · exact (retain_length _ _).trans holds.length
      · exact holds.distinct
      · exact fun failed among => own_retain holds among
      · exact fun index inside absent => rest_retain holds inside absent
      · apply List.pairwise_map.mpr
        apply holds.sorted.imp
        intro first second less
        rw [updated_key, updated_key]
        exact less
      · intro after among
        obtain ⟨old, listed, rfl⟩ := List.mem_map.mp among
        by_cases here : old.1 = key
        · rw [if_pos here, List.filter_flatMap]
          exact List.flatMap_congr fun failed among => kept_placesOf holds among
        · rw [if_neg here, holds.places old listed]
          exact List.flatMap_congr fun failed _ => (placesOf_other here failed).symm
      · intro other
        rw [updated_keys]
        exact holds.keys other

/-- A run recovers some keys. -/
theorem holds_recoveries {run : Run} (keys : List IssueKey)
    (holds : Holds count past recoveries progress) :
    Holds count past (keys.foldl (Recoveries.and · run) recoveries)
      (keys.foldl (Progress.recover run.finishedAt run.id) progress) := by
  induction keys generalizing recoveries progress with
  | nil => exact holds
  | cons key keys ih => exact ih (holds_recover holds)

theorem foldl_and (run : Run) (keys : List IssueKey) (key : IssueKey) (time : Nat) :
    keys.foldl (Recoveries.and · run) recoveries key time =
      (recoveries key time).or
        (if key ∈ keys ∧ time < run.finishedAt then some run else none) := by
  induction keys generalizing recoveries with
  | nil => simp
  | cons first keys ih =>
      rw [List.foldl_cons, ih, Recoveries.and, Option.or_assoc]
      congr 1
      by_cases early : time < run.finishedAt
      · by_cases same : key = first
        · simp [same, early]
        · simp [same]
      · simp [early]

/-! ### Failing -/

theorem placesOf_append (key : IssueKey) (index time : Nat)
    (failures : List (IssueKey × Option Nat)) (failure : IssueKey × Option Nat) :
    placesOf recoveries key ⟨index, time, failures ++ [failure]⟩ =
      placesOf recoveries key ⟨index, time, failures⟩ ++
        if failure.1 = key ∧ recoveries key time = none then
          [(index, failures.length)]
        else [] := by
  rw [placesOf, placesOf, List.zipIdx_append, List.filter_append, List.map_append]
  congr 1
  by_cases same : failure.1 = key
  · cases recoveries key time with
    | none => simp [same]
    | some run => simp
  · simp [same]

/-- A run has one more issue, which nothing recovers yet. -/
theorem holds_fail {index time : Nat} {failures : List (IssueKey × Option Nat)}
    {failure : IssueKey × Option Nat}
    (holds : Holds count (past ++ [⟨index, time, failures⟩]) recoveries progress)
    (still : recoveries failure.1 time = none) :
    Holds count (past ++ [⟨index, time, failures ++ [failure]⟩]) recoveries
      (progress.fail index time failure) := by
  have last : (⟨index, time, failures⟩ : Failed) ∈
      past ++ [⟨index, time, failures⟩] := List.mem_concat_self
  have own := holds.own _ last
  have alone : index ∉ past.map Failed.index := by
    have distinct := holds.distinct
    rw [List.map_append] at distinct
    intro again
    exact (List.nodup_append.mp distinct).2.2 index again index
      (List.mem_singleton_self _) rfl
  have placed : (progress.issues[index]?.getD []).length = failures.length := by
    dsimp only at own
    rw [own, Option.getD_some, List.length_map]
  have made : failure.1 = failure.1 ∧ recoveries failure.1 time = none := ⟨rfl, still⟩
  constructor
  · exact (List.length_modify _ _ _).trans holds.length
  · have distinct := holds.distinct
    rw [List.map_append] at distinct ⊢
    exact distinct
  · intro failed among
    rcases List.mem_append.mp among with old | new
    · have different : index ≠ failed.index := fun same =>
        alone (same ▸ List.mem_map_of_mem old)
      rw [Progress.fail, List.getElem?_modify_ne _ _ different]
      exact holds.own failed (List.mem_append_left _ old)
    · obtain rfl := List.mem_singleton.mp new
      dsimp only at own ⊢
      rw [Progress.fail, List.getElem?_modify_eq, own]
      have fresh : issueOf recoveries time failure = ⟨failure.2, time, none, none⟩ := by
        rw [issueOf, still]
        rfl
      rw [List.map_append, List.map_singleton, fresh]
      rfl
  · intro other within absent
    rw [List.map_append, List.mem_append, not_or] at absent
    have different : index ≠ other := fun same =>
      absent.2 (List.mem_singleton.mpr same.symm)
    rw [Progress.fail, List.getElem?_modify_ne _ _ different]
    apply holds.rest other within
    rw [List.map_append, List.mem_append, not_or]
    exact absent
  · exact sorted_change holds.sorted
  · intro entry among
    rw [Progress.fail] at among
    rw [List.flatMap_append, List.flatMap_singleton, placesOf_append]
    rcases of_mem_change holds.sorted among with
      ⟨different, old⟩ | ⟨places, old, rfl⟩ | ⟨absent, rfl⟩
    · rw [holds.places entry old, List.flatMap_append, List.flatMap_singleton,
        if_neg fun both => different both.1.symm, List.append_nil]
    · have before := holds.places _ old
      rw [List.flatMap_append, List.flatMap_singleton] at before
      dsimp only at before ⊢
      rw [Option.getD_some, before, if_pos made, placed, List.append_assoc]
    · have none : List.flatMap (placesOf recoveries failure.1)
          (past ++ [⟨index, time, failures⟩]) = [] := by
        apply List.flatMap_eq_nil_iff.mpr
        intro failed listed
        apply List.eq_nil_iff_forall_not_mem.mpr
        intro place here
        obtain ⟨_, _, other, found, same⟩ := mem_placesOf.mp here
        apply absent
        exact (holds.keys _).mpr ⟨failed, listed,
          same ▸ List.mem_map_of_mem (List.mem_of_getElem? found)⟩
      rw [List.flatMap_append, List.flatMap_singleton] at none
      dsimp only
      rw [← List.append_assoc, none, if_pos made, placed]
      rfl
  · intro key
    rw [Progress.fail, mem_keys_change, holds.keys]
    simp only [List.mem_append, List.mem_singleton, or_and_right, exists_or,
      exists_eq_left, List.map_append, List.map_singleton]
    rw [or_comm, or_assoc]

theorem holds_failures {index time : Nat}
    {done : List (IssueKey × Option Nat)} (failures : List (IssueKey × Option Nat))
    (holds : Holds count (past ++ [⟨index, time, done⟩]) recoveries progress)
    (still : ∀ failure ∈ failures, recoveries failure.1 time = none) :
    Holds count (past ++ [⟨index, time, done ++ failures⟩]) recoveries
      (failures.foldl (Progress.fail index time) progress) := by
  induction failures generalizing done progress with
  | nil => rwa [List.append_nil]
  | cons failure failures ih =>
      obtain ⟨here, later⟩ := List.forall_mem_cons.mp still
      have after := ih (holds_fail holds here) later
      rw [List.append_assoc] at after
      exact after

/-- A run that has no issues yet. -/
theorem holds_visited {index : Nat} (time : Nat)
    (holds : Holds count past recoveries progress) (inside : index < count)
    (new : index ∉ past.map Failed.index) :
    Holds count (past ++ [⟨index, time, []⟩]) recoveries progress := by
  have empty (key : IssueKey) : placesOf recoveries key ⟨index, time, []⟩ = [] := rfl
  constructor
  · exact holds.length
  · rw [List.map_append, List.nodup_append]
    refine ⟨holds.distinct, List.nodup_singleton _, ?_⟩
    intro old among last only same
    obtain rfl := List.mem_singleton.mp only
    exact new (same ▸ among)
  · intro failed among
    rcases List.mem_append.mp among with old | last
    · exact holds.own failed old
    · obtain rfl := List.mem_singleton.mp last
      exact holds.rest index inside new
  · intro other within absent
    rw [List.map_append, List.mem_append, not_or] at absent
    exact holds.rest other within absent.1
  · exact holds.sorted
  · intro entry among
    rw [holds.places entry among, List.flatMap_append, List.flatMap_singleton, empty,
      List.append_nil]
  · intro key
    rw [holds.keys]
    simp only [List.mem_append, List.mem_singleton, or_and_right, exists_or,
      exists_eq_left, List.map_nil, List.not_mem_nil, or_false]

/-! ### Runs in order -/

def failedOf (indexed : Nat × Run) : Failed :=
  ⟨indexed.1, indexed.2.finishedAt, indexed.2.failures⟩

/-- The first of the runs that recovers a key from a time. -/
def recoveredBy (runs : List Run) : Recoveries := fun key time =>
  runs.find? fun run => run.recovers key && decide (time < run.finishedAt)

theorem recoveredBy_append (runs : List Run) (run : Run) (key : IssueKey)
    (time : Nat) :
    recoveredBy (runs ++ [run]) key time =
      (recoveredBy runs key time).or
        (if run.recovers key = true ∧ time < run.finishedAt then some run
          else none) := by
  rw [recoveredBy, List.find?_append, List.find?_singleton]
  congr 1
  by_cases both : run.recovers key = true ∧ time < run.finishedAt
  · rw [if_pos both, if_pos (by simp [both])]
  · rw [if_neg both, if_neg (by simpa using both)]

/-- No run recovers what fails as late as it ends. -/
theorem recoveredBy_none {runs : List Run} {time : Nat}
    (ended : ∀ run ∈ runs, run.finishedAt ≤ time) (key : IssueKey) :
    recoveredBy runs key time = none := by
  apply List.find?_eq_none.mpr
  intro run among both
  have later := of_decide_eq_true ((Bool.and_eq_true _ _).mp both).2
  have early := ended run among
  omega

/-- What the loop knows after some runs. -/
abbrev Annotated (count : Nat) (past : List (Nat × Run)) (progress : Progress) :
    Prop :=
  Holds count (past.map failedOf) (recoveredBy (past.map Prod.snd)) progress

theorem annotated_visit {past : List (Nat × Run)} {index : Nat} {run : Run}
    (annotated : Annotated count past progress) (inside : index < count)
    (new : index ∉ past.map Prod.fst)
    (ended : ∀ indexed ∈ past, indexed.2.finishedAt ≤ run.finishedAt) :
    Annotated count (past ++ [(index, run)]) (progress.visit (index, run)) := by
  have indices : (past.map failedOf).map Failed.index = past.map Prod.fst := by
    rw [List.map_map]
    rfl
  have visited := holds_visited run.finishedAt annotated inside (indices ▸ new)
  have known : recoveredBy ((past ++ [(index, run)]).map Prod.snd) =
      fun key time => (recoveredBy (past.map Prod.snd) key time).or
        (if run.recovers key = true ∧ time < run.finishedAt then some run
          else none) := by
    funext key time
    rw [List.map_append]
    exact recoveredBy_append _ run key time
  rw [Annotated, known, List.map_append, List.map_singleton, failedOf]
  cases skips : run.skipped with
  | true =>
      have left : run.outcome = "running" ∨ run.exitCode = some 130 := by
        simpa [Run.skipped] using skips
      have nothing : run.failures = [] := by
        rw [Run.failures, if_pos skips]
      have never (key : IssueKey) : run.recovers key = false := by
        rw [Run.recovers, skips]
        rfl
      rw [Progress.visit]
      dsimp only
      rw [if_pos left, nothing]
      simp only [never, Bool.false_eq_true, false_and, if_false, Option.or_none]
      exact visited
  | false =>
      have stays : ¬ (run.outcome = "running" ∨ run.exitCode = some 130) := by
        simpa [Run.skipped] using skips
      have recovered := @holds_recoveries _ _ _ _ run
        (Changes.forEntry run).recoveries visited
      have same : (Changes.forEntry run).recoveries.foldl (Recoveries.and · run)
          (recoveredBy (past.map Prod.snd)) = fun key time =>
            (recoveredBy (past.map Prod.snd) key time).or
              (if run.recovers key = true ∧ time < run.finishedAt then some run
                else none) := by
        funext key time
        rw [foldl_and]
        simp only [mem_recoveries skips]
      rw [same] at recovered
      rw [Progress.visit]
      dsimp only
      rw [if_neg stays, forEntry_failures skips]
      refine holds_failures run.failures recovered ?_
      intro failure _
      have before : recoveredBy (past.map Prod.snd) failure.1 run.finishedAt = none := by
        apply recoveredBy_none
        intro other among
        obtain ⟨indexed, listed, rfl⟩ := List.mem_map.mp among
        exact ended indexed listed
      rw [before, if_neg fun both => Nat.lt_irrefl _ both.2]
      rfl

end BarDaemon.UpdateIssues
