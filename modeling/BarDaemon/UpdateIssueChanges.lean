import BarDaemon.UpdateIssues

/-!
# What a run fails and recovers
-/

namespace BarDaemon.UpdateIssues

variable {run : Run}

namespace Component

/-- The component works again. -/
def recovers (run : Run) (component : Component) : Bool :=
  !component.failed && run.outcome != "interrupted" && component.incident.isNone &&
    decide (component.phase ∈ ["current", "activated"])

end Component

namespace Run

/-- Running and cancelled runs are left out. -/
def skipped (run : Run) : Bool :=
  run.outcome == "running" || run.exitCode == some 130

/-- The components that are not held, with their indices. -/
def parts (run : Run) : List (Component × Nat) :=
  run.components.zipIdx.filter fun indexed => indexed.1.phase != "held"

/-- An issue for each component that failed. -/
def failedParts (run : Run) : List (IssueKey × Option Nat) :=
  (run.parts.filter fun indexed => indexed.1.failed).map fun indexed =>
    (componentKey run indexed.1.name, some indexed.2)

/-- The failures of a run: of its components, or else of its job. -/
def failures (run : Run) : List (IssueKey × Option Nat) :=
  if run.skipped then []
  else if run.failedParts.isEmpty && run.isProblem then [(jobKey run, none)]
  else run.failedParts

def jobRecovers (run : Run) : Bool :=
  decide (run.error = none ∧ (run.components.any fun component =>
    component.phase == "held" || component.incident.isSome) = false ∧
    run.outcome ∈
      ["current", "activated", "staged", "ready", "approved", "completed"])

/-- The run recovers the issues of a key. -/
def recovers (run : Run) (key : IssueKey) : Bool :=
  !run.skipped &&
    ((run.parts.any fun indexed =>
        indexed.1.recovers run && componentKey run indexed.1.name == key) ||
      run.jobRecovers && jobKey run == key)

end Run

theorem foldl_observe (run : Run) (parts : List (Component × Nat))
    (changes : Changes) :
    parts.foldl (Changes.observe run) changes =
      ⟨changes.failures ++ (parts.filter fun indexed => indexed.1.failed).map
          fun indexed => (componentKey run indexed.1.name, some indexed.2),
        changes.recoveries ++ (parts.filter fun indexed =>
          indexed.1.recovers run).map fun indexed =>
            componentKey run indexed.1.name⟩ := by
  induction parts generalizing changes with
  | nil => simp
  | cons indexed parts ih =>
      obtain ⟨component, index⟩ := indexed
      rw [List.foldl_cons, ih, Changes.observe]
      by_cases failed : component.failed = true
      · have stays : component.recovers run = false := by
          rw [Component.recovers, failed]
          rfl
        simp [failed, stays]
      · by_cases works : run.outcome ≠ "interrupted" ∧ component.incident = none ∧
            component.phase ∈ ["current", "activated"]
        · have recovers : component.recovers run = true := by
            simpa [Component.recovers, failed, and_assoc] using works
          simp [failed, works, recovers]
        · have stays : component.recovers run = false := by
            rw [← Bool.not_eq_true]
            intro recovers
            apply works
            simpa [Component.recovers, failed, and_assoc] using recovers
          rw [if_neg failed, if_neg works]
          simp [failed, stays]

/-- What the loop over the components finds. -/
def observed (run : Run) : Changes :=
  ⟨run.failedParts, (run.parts.filter fun indexed => indexed.1.recovers run).map
    fun indexed => componentKey run indexed.1.name⟩

theorem forEntry_eq (run : Run) :
    Changes.forEntry run =
      ⟨if run.failedParts.isEmpty && run.isProblem then [(jobKey run, none)]
        else run.failedParts,
      (observed run).recoveries ++ if run.jobRecovers then [jobKey run] else []⟩ := by
  have found := foldl_observe run run.parts ⟨[], []⟩
  rw [List.nil_append, List.nil_append] at found
  change _ = observed run at found
  rw [Run.parts] at found
  have failed : (if (observed run).failures.isEmpty && run.isProblem then
      { observed run with
        failures := (observed run).failures ++ [(jobKey run, none)] }
      else observed run) =
        ⟨if run.failedParts.isEmpty && run.isProblem then [(jobKey run, none)]
          else run.failedParts, (observed run).recoveries⟩ := by
    change (if run.failedParts.isEmpty && run.isProblem then _ else _) = _
    cases none : run.failedParts.isEmpty && run.isProblem with
    | false => rfl
    | true =>
        have empty := List.isEmpty_iff.mp ((Bool.and_eq_true _ _).mp none).1
        have failures : (observed run).failures = [] := empty
        rw [if_pos rfl, if_pos rfl, failures]
        rfl
  rw [Changes.forEntry, found, failed]
  cases job : run.jobRecovers with
  | true =>
      rw [if_pos (of_decide_eq_true job)]
      rfl
  | false =>
      rw [if_neg (of_decide_eq_false job)]
      simp

/-- The failures that the loop finds. -/
theorem forEntry_failures (counts : run.skipped = false) :
    (Changes.forEntry run).failures = run.failures := by
  rw [forEntry_eq, Run.failures, counts]
  rfl

theorem mem_recoveries (counts : run.skipped = false) (key : IssueKey) :
    key ∈ (Changes.forEntry run).recoveries ↔ run.recovers key = true := by
  rw [forEntry_eq, Run.recovers, counts, observed, List.mem_append, List.mem_map,
    Bool.not_false, Bool.true_and, Bool.or_eq_true, List.any_eq_true]
  apply or_congr
  · constructor
    · rintro ⟨indexed, among, rfl⟩
      obtain ⟨part, works⟩ := List.mem_filter.mp among
      exact ⟨indexed, part, by rw [works, beq_self_eq_true, Bool.true_and]⟩
    · rintro ⟨indexed, part, works⟩
      obtain ⟨works, same⟩ := (Bool.and_eq_true _ _).mp works
      exact ⟨indexed, List.mem_filter.mpr ⟨part, works⟩, beq_iff_eq.mp same⟩
  · cases run.jobRecovers with
    | false => simp
    | true =>
        rw [if_pos rfl, List.mem_singleton, Bool.true_and, beq_iff_eq]
        exact eq_comm

end BarDaemon.UpdateIssues
