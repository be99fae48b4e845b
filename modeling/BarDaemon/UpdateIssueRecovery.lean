import BarDaemon.UpdateIssueProgress

/-!
# Issues and the runs that recover them

An issue is recovered by the first run that recovers its key and has finished
later, and the latest of the other issues of a key is open.
-/

namespace BarDaemon.UpdateIssues

open SortedEntries

/-! ### The order of runs -/

/-- What runs are ordered by. -/
def Run.sortKey (run : Run) : Nat ×ₗ Nat ×ₗ String :=
  toLex (run.finishedAt, toLex (run.startedAt, run.id))

theorem before_iff {left right : Run} :
    before left right = true ↔ left.sortKey ≤ right.sortKey := by
  simp [before, Run.sortKey, Prod.Lex.le_iff]

instance : Std.Total fun left right : Run => before left right = true where
  total left right := by
    rw [before_iff, before_iff]
    exact le_total _ _

instance : IsTrans Run fun left right => before left right = true where
  trans first second third := by
    rw [before_iff, before_iff, before_iff]
    exact le_trans

/-- The runs by the times of their ends and starts, and by their ids. -/
def inOrder (runs : List Run) : List Run :=
  runs.insertionSort fun left right => before left right = true

theorem perm_inOrder (runs : List Run) : (inOrder runs).Perm runs :=
  List.perm_insertionSort _ _

theorem inOrder_sorted (runs : List Run) :
    (inOrder runs).Pairwise fun left right => before left right = true :=
  List.pairwise_insertionSort _ _

theorem order_runs (runs : List Run) : (order runs).map Prod.snd = inOrder runs := by
  rw [order, List.map_insertionSort _
    (fun left right : Run => before left right = true), List.map_map]
  · have same : (runs.zipIdx.map (Prod.snd ∘ Prod.swap)) = runs :=
      List.zipIdx_map_fst 0 runs
    rw [same, inOrder]
  · exact fun _ _ _ _ => Iff.rfl

/-- Runs with ids of their own are ordered in one way. -/
theorem inOrder_perm {runs others : List Run} (same : others.Perm runs)
    (distinct : (runs.map Run.id).Nodup) : inOrder others = inOrder runs := by
  have perm := ((perm_inOrder others).trans same).trans (perm_inOrder runs).symm
  apply List.Perm.eq_of_pairwise _ (inOrder_sorted others) (inOrder_sorted runs) perm
  intro left right first second before after
  have keys := le_antisymm (before_iff.mp before) (before_iff.mp after)
  have ids : left.id = right.id :=
    congrArg (fun key => (ofLex (ofLex key).2).2) keys
  exact List.inj_on_of_nodup_map distinct
    (same.mem_iff.mp ((perm_inOrder others).mem_iff.mp first))
    ((perm_inOrder runs).mem_iff.mp second) ids

/-! ### Indices -/

theorem perm_order (runs : List Run) :
    (order runs).Perm (runs.zipIdx.map Prod.swap) :=
  List.perm_insertionSort _ _

theorem mem_order {runs : List Run} {index : Nat} {run : Run} :
    (index, run) ∈ order runs ↔ runs[index]? = some run := by
  rw [(perm_order runs).mem_iff, List.mem_map]
  constructor
  · rintro ⟨⟨other, position⟩, among, same⟩
    cases same
    exact List.mem_zipIdx_iff_getElem?.mp among
  · intro found
    exact ⟨(run, index), List.mem_zipIdx_iff_getElem?.mpr found, rfl⟩

theorem order_nodup (runs : List Run) : ((order runs).map Prod.fst).Nodup := by
  rw [((perm_order runs).map Prod.fst).nodup_iff, List.map_map]
  have indices : runs.zipIdx.map (Prod.fst ∘ Prod.swap) = List.range' 0 runs.length :=
    List.zipIdx_map_snd 0 runs
  rw [indices]
  exact List.nodup_range'

theorem order_sorted (runs : List Run) :
    (order runs).Pairwise fun left right => left.2.finishedAt ≤ right.2.finishedAt := by
  have sorted := inOrder_sorted runs
  rw [← order_runs, List.pairwise_map] at sorted
  apply sorted.imp
  intro left right before
  have keys := before_iff.mp before
  rw [Run.sortKey, Run.sortKey, Prod.Lex.le_iff] at keys
  rcases keys with less | ⟨same, _⟩
  · exact less.le
  · exact same.le

/-! ### The whole loop -/

variable {count : Nat}

theorem annotated_visits (rest : List (Nat × Run)) {past : List (Nat × Run)}
    {progress : Progress} (annotated : Annotated count past progress)
    (inside : ∀ indexed ∈ rest, indexed.1 < count)
    (distinct : ((past ++ rest).map Prod.fst).Nodup)
    (ordered : (past ++ rest).Pairwise
      fun left right => left.2.finishedAt ≤ right.2.finishedAt) :
    Annotated count (past ++ rest) (rest.foldl Progress.visit progress) := by
  induction rest generalizing past progress with
  | nil => rwa [List.append_nil]
  | cons indexed rest ih =>
      obtain ⟨index, run⟩ := indexed
      obtain ⟨here, later⟩ := List.forall_mem_cons.mp inside
      have new : index ∉ past.map Prod.fst := by
        intro again
        rw [List.map_append] at distinct
        exact (List.nodup_append.mp distinct).2.2 index again index
          List.mem_cons_self rfl
      have ended : ∀ earlier ∈ past, earlier.2.finishedAt ≤ run.finishedAt :=
        fun earlier among =>
          (List.pairwise_append.mp ordered).2.2 earlier among (index, run)
            List.mem_cons_self
      have after := annotated_visit annotated here new ended
      rw [List.append_cons] at distinct ordered ⊢
      exact ih after later distinct ordered

theorem annotated_order (runs : List Run) :
    Annotated runs.length (order runs)
      ((order runs).foldl Progress.visit ⟨runs.map fun _ => [], []⟩) := by
  have begun : Annotated runs.length [] ⟨runs.map fun _ => [], []⟩ := by
    refine ⟨List.length_map _, List.nodup_nil, nofun, ?_, List.Pairwise.nil, nofun, ?_⟩
    · intro index inside _
      rw [List.getElem?_map, List.getElem?_eq_getElem inside]
      rfl
    · intro key
      exact iff_of_false List.not_mem_nil fun ⟨_, among, _⟩ => List.not_mem_nil among
  apply annotated_visits (order runs) begun
  · intro indexed among
    exact (List.getElem?_eq_some_iff.mp (mem_order.mp among)).1
  · exact order_nodup runs
  · exact order_sorted runs

/-! ### Issues -/

/-- The issues of a run, recovered by the first run in order that does so. -/
def issuesOf (ordered : List Run) (run : Run) : List RunIssue :=
  run.failures.map (issueOf (recoveredBy ordered) run.finishedAt)

/-- The issues of a key that no run has recovered, in order. -/
def unrecovered (ordered : List Run) (key : IssueKey) :
    List (Run × IssueKey × Option Nat) :=
  ordered.flatMap fun run =>
    (run.failures.filter fun failure => decide (failure.1 = key) &&
      (recoveredBy ordered key run.finishedAt).isNone).map fun failure =>
        (run, failure)

/-- What is told of an open issue. -/
def opened (issue : Run × IssueKey × Option Nat) : OpenIssue :=
  let run := issue.1
  let part := issue.2.2.bind fun index => run.components[index]?
  { runId := run.id
    lane := run.lane
    component := match part with
      | none => .ofList (run.operation.toList.take 128)
      | some part => part.name
    incident := part.bind Component.incident
    error := .ofList ((((part.bind Component.error).or run.error).getD
      run.title).toList.take 256)
    failedAt := run.finishedAt }

section Annotated

variable {runs : List Run} {progress : Progress}
  (annotated : Annotated runs.length (order runs) progress)

include annotated

theorem issues_of_annotated :
    progress.issues = runs.map (issuesOf (inOrder runs)) := by
  apply List.ext_getElem?
  intro index
  rw [List.getElem?_map]
  cases found : runs[index]? with
  | none =>
      have outside := List.getElem?_eq_none_iff.mp found
      rw [← annotated.length] at outside
      exact List.getElem?_eq_none_iff.mpr outside
  | some run =>
      have own := annotated.own _ (List.mem_map_of_mem (mem_order.mpr found))
      rw [order_runs] at own
      exact own

theorem openIssue_eq {index position : Nat} {run : Run}
    {failure : IssueKey × Option Nat} (found : runs[index]? = some run)
    (failed : run.failures[position]? = some failure) :
    openIssue runs progress.issues (index, position) =
      some (opened (run, failure)) := by
  have own : progress.issues[index]? = some (issuesOf (inOrder runs) run) := by
    rw [issues_of_annotated annotated, List.getElem?_map, found]
    rfl
  have issue : (issuesOf (inOrder runs) run)[position]? =
      some (issueOf (recoveredBy (inOrder runs)) run.finishedAt failure) := by
    rw [issuesOf, List.getElem?_map, failed]
    rfl
  rw [openIssue]
  dsimp only
  rw [found, own]
  change (do let issue ← (issuesOf (inOrder runs) run)[position]?; _) = _
  rw [issue]
  rfl

/-- The places of a key are those of its issues. -/
theorem map_placesOf {index : Nat} {run : Run} (found : runs[index]? = some run)
    (key : IssueKey) :
    (placesOf (recoveredBy (inOrder runs)) key (failedOf (index, run))).map
        (openIssue runs progress.issues) =
      ((run.failures.filter fun failure => decide (failure.1 = key) &&
        (recoveredBy (inOrder runs) key run.finishedAt).isNone).map fun failure =>
          (run, failure)).map fun issue => some (opened issue) := by
  have each : (placesOf (recoveredBy (inOrder runs)) key (failedOf (index, run))).map
        (openIssue runs progress.issues) =
      ((run.failures.zipIdx.filter fun indexed => decide (indexed.1.1 = key) &&
        (recoveredBy (inOrder runs) key run.finishedAt).isNone).map
          fun indexed => some (opened (run, indexed.1))) := by
    rw [placesOf, List.map_map]
    apply List.map_congr_left
    intro indexed among
    have failed := List.mem_zipIdx_iff_getElem?.mp (List.mem_filter.mp among).1
    exact openIssue_eq annotated found failed
  rw [each, List.map_map]
  have indexed := List.filter_map (f := Prod.fst) (l := run.failures.zipIdx)
    (p := fun failure : IssueKey × Option Nat => decide (failure.1 = key) &&
      (recoveredBy (inOrder runs) key run.finishedAt).isNone)
  rw [List.zipIdx_map_fst] at indexed
  rw [indexed, List.map_map]
  rfl

theorem map_places (key : IssueKey) :
    (((order runs).map failedOf).flatMap
        (placesOf (recoveredBy (inOrder runs)) key)).map
          (openIssue runs progress.issues) =
      (unrecovered (inOrder runs) key).map fun issue => some (opened issue) := by
  rw [unrecovered, ← order_runs, List.flatMap_map, List.flatMap_map, List.map_flatMap,
    List.map_flatMap]
  apply List.flatMap_congr
  rintro ⟨index, run⟩ among
  rw [order_runs]
  exact map_placesOf annotated (mem_order.mp among) key

/-- The latest of the issues of a key. -/
theorem latest_place {entry : IssueKey × List (Nat × Nat)}
    (among : entry ∈ progress.pending) :
    (entry.2.getLast?.bind (openIssue runs progress.issues)) =
      (unrecovered (inOrder runs) entry.1).getLast?.map opened := by
  have places := annotated.places entry among
  rw [order_runs] at places
  have last := congrArg List.getLast? (map_places annotated entry.1)
  rw [← places, List.getLast?_map, List.getLast?_map] at last
  cases final : (unrecovered (inOrder runs) entry.1).getLast? with
  | none =>
      rw [final, Option.map_none, Option.map_eq_none_iff] at last
      rw [last]
      rfl
  | some issue =>
      rw [final] at last
      obtain ⟨place, found, told⟩ := Option.map_eq_some_iff.mp last
      rw [found, Option.bind_some, told]
      rfl

theorem mem_pending_keys (key : IssueKey) :
    key ∈ progress.pending.map Prod.fst ↔
      ∃ run ∈ runs, key ∈ run.failures.map Prod.fst := by
  rw [annotated.keys]
  constructor
  · rintro ⟨failed, among, listed⟩
    obtain ⟨⟨index, run⟩, placed, rfl⟩ := List.mem_map.mp among
    exact ⟨run, List.mem_of_getElem? (mem_order.mp placed), listed⟩
  · rintro ⟨run, among, listed⟩
    obtain ⟨index, found⟩ := List.mem_iff_getElem?.mp among
    exact ⟨failedOf (index, run), List.mem_map_of_mem (mem_order.mpr found), listed⟩

end Annotated

/-! ### Annotations -/

/-- The keys of the failures of some runs. -/
def failedKeys (runs : List Run) : List IssueKey :=
  ((order runs).foldl Progress.visit ⟨runs.map fun _ => [], []⟩).pending.map Prod.fst

theorem failedKeys_nodup (runs : List Run) : (failedKeys runs).Nodup := by
  have sorted := List.pairwise_map.mpr (annotated_order runs).sorted
  exact sorted.imp fun less => less.ne

/-- They do not depend on the order of the runs. -/
theorem failedKeys_perm {runs others : List Run} (same : others.Perm runs) :
    failedKeys others = failedKeys runs := by
  apply keys_eq (annotated_order others).sorted (annotated_order runs).sorted
  intro key
  rw [mem_pending_keys (annotated_order others), mem_pending_keys (annotated_order runs)]
  simp only [same.mem_iff]

theorem mem_failedKeys {runs : List Run} {key : IssueKey}
    (left : unrecovered (inOrder runs) key ≠ []) : key ∈ failedKeys runs := by
  obtain ⟨⟨run, failure⟩, among⟩ := List.exists_mem_of_ne_nil _ left
  obtain ⟨other, listed, here⟩ := List.mem_flatMap.mp among
  obtain ⟨found, kept, same⟩ := List.mem_map.mp here
  obtain ⟨failed, matched⟩ := List.mem_filter.mp kept
  apply (mem_pending_keys (annotated_order runs) key).mpr
  refine ⟨other, (perm_inOrder runs).mem_iff.mp listed, ?_⟩
  have equal : found.1 = key := of_decide_eq_true ((Bool.and_eq_true _ _).mp matched).1
  exact equal ▸ List.mem_map_of_mem failed

/-- The open issues before they are sorted. -/
def latestIssues (runs : List Run) : List OpenIssue :=
  (failedKeys runs).filterMap fun key =>
    (unrecovered (inOrder runs) key).getLast?.map opened

theorem annotate_eq (entries : List Entry) :
    annotate entries =
      (entries.map fun entry =>
          { entry with issues := issuesOf (inOrder (entries.map Entry.run)) entry.run },
        (latestIssues (entries.map Entry.run)).insertionSort
          fun left right => later left right = true) := by
  have annotated := annotated_order (entries.map Entry.run)
  rw [annotate]
  dsimp only
  rw [Prod.mk.injEq]
  constructor
  · rw [issues_of_annotated annotated, List.map_map]
    have pairs := @List.zip_map' _ _ _ id
      (issuesOf (inOrder (entries.map Entry.run)) ∘ Entry.run) entries
    rw [List.map_id] at pairs
    rw [pairs, List.map_map]
    rfl
  · congr 1
    rw [List.filterMap_filterMap, latestIssues, failedKeys, List.filterMap_map]
    apply List.filterMap_congr
    intro entry among
    exact latest_place annotated among

/-- What annotating gives, in whichever order the entries are. -/
structure Annotates (entries : List Entry) : Prop where
  /-- Each failure has an issue, which the first run in order recovers that
  recovers its key and has finished later. -/
  issues : (annotate entries).1 = entries.map fun entry =>
    { entry with issues := issuesOf (inOrder (entries.map Entry.run)) entry.run }
  /-- Of the issues of a key that are not recovered, the last one is open. -/
  opens : ∃ keys : List IssueKey, keys.Nodup ∧
    (∀ key, key ∈ keys ↔ unrecovered (inOrder (entries.map Entry.run)) key ≠ []) ∧
    ((annotate entries).2.map some).Perm (keys.map fun key =>
      (unrecovered (inOrder (entries.map Entry.run)) key).getLast?.map opened)
  order : ∀ others : List Entry, others.Perm entries →
    (annotate others).1.Perm (annotate entries).1 ∧
      (annotate others).1 = (others.map fun entry =>
        { entry with
          issues := issuesOf (inOrder (entries.map Entry.run)) entry.run }) ∧
      (annotate others).2 = (annotate entries).2
  again : annotate (annotate entries).1 = annotate entries

theorem map_some_filterMap {α β : Type} (f : α → Option β) (items : List α) :
    (items.filterMap f).map some =
      (items.filter fun item => (f item).isSome).map f := by
  induction items with
  | nil => rfl
  | cons item items ih =>
      cases found : f item with
      | none => simp [found, ih]
      | some value => simp [found, ih]

/-- Runs that are the same give the same annotations. -/
theorem latestIssues_perm {runs others : List Run} (same : others.Perm runs)
    (distinct : (runs.map Run.id).Nodup) : latestIssues others = latestIssues runs := by
  rw [latestIssues, latestIssues, failedKeys_perm same, inOrder_perm same distinct]

theorem annotate_annotates (entries : List Entry)
    (distinct : (entries.map fun entry => entry.run.id).Nodup) :
    Annotates entries := by
  have ids : ((entries.map Entry.run).map Run.id).Nodup := by
    rw [List.map_map]
    exact distinct
  refine ⟨?_, ?_, ?_, ?_⟩
  · rw [annotate_eq]
  · refine ⟨(failedKeys (entries.map Entry.run)).filter fun key =>
      ((unrecovered (inOrder (entries.map Entry.run)) key).getLast?.map
        opened).isSome, (failedKeys_nodup _).filter _, ?_, ?_⟩
    · intro key
      rw [List.mem_filter, Option.isSome_map, List.getLast?_isSome]
      exact ⟨And.right, fun left => ⟨mem_failedKeys left, left⟩⟩
    · rw [annotate_eq, ← map_some_filterMap]
      exact (List.perm_insertionSort _ _).map some
  · intro others same
    have runs := same.map Entry.run
    rw [annotate_eq others, inOrder_perm runs ids, latestIssues_perm runs ids,
      annotate_eq entries]
    exact ⟨same.map _, rfl, rfl⟩
  · have runs : (annotate entries).1.map Entry.run = entries.map Entry.run := by
      rw [annotate_eq, List.map_map]
      rfl
    rw [annotate_eq (annotate entries).1, runs, annotate_eq entries, List.map_map]
    rfl

/-- A run of one AI tool, with or without an error. -/
def toolRun (id : String) (time : Nat) (name : String) (error : Option String) :
    Entry where
  run := {
    id
    lane := "ai-tools"
    operation := "ai-update"
    startedAt := time
    finishedAt? := some time
    exitCode := some 0
    error := none
    components := [⟨name, if error.isSome then "failed" else "current", error, error⟩]
    outcome := if error.isSome then "failed" else "current"
    title := "AI tools" }
  issues := []

/-- Failures recover independently, and a recurrence remains open. -/
def recurring : List Entry :=
  [toolRun "first" 1 "pi" (some "build-a"), toolRun "other" 2 "codex" none,
    toolRun "repeat" 3 "pi" (some "build-a"), toolRun "recovered" 4 "pi" none,
    toolRun "again" 5 "pi" (some "build-b")]

theorem annotate_annotates_recurring :
    Annotates recurring ∧
      (annotate recurring).2.map OpenIssue.runId = ["again"] :=
  ⟨annotate_annotates recurring (by decide), by decide +kernel⟩

end BarDaemon.UpdateIssues
