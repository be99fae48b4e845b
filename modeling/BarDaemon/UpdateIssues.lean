import BarDaemon.SortedEntries
import Mathlib.Data.List.Sort
import Mathlib.Data.Prod.Lex
import Mathlib.Data.String.Basic

/-!
# Issues of update runs

A run that fails has issues, and a later run may recover them. The issues that
no run has recovered are open.
-/

namespace BarDaemon.UpdateIssues

open SortedEntries

/-! ### Runs -/

structure Component where
  name : String
  phase : String
  incident : Option String
  error : Option String
deriving DecidableEq, Repr

/-- What is read of a run record and its outcome. -/
structure Run where
  id : String
  lane : String
  operation : String
  startedAt : Nat
  finishedAt? : Option Nat
  exitCode : Option Int
  error : Option String
  components : List Component
  outcome : String
  title : String
deriving DecidableEq, Repr

structure RunIssue where
  component : Option Nat
  failedAt : Nat
  recoveredAt : Option Nat
  recoveredRunId : Option String
deriving DecidableEq, Repr

structure Entry where
  run : Run
  issues : List RunIssue
deriving DecidableEq, Repr

structure OpenIssue where
  runId : String
  lane : String
  component : String
  incident : Option String
  error : String
  failedAt : Nat
deriving DecidableEq, Repr

def Run.isProblem (run : Run) : Bool :=
  run.outcome ∈ ["failed", "partial", "blocked", "interrupted"]

def Run.finishedAt (run : Run) : Nat :=
  run.finishedAt?.getD run.startedAt

/-- `recover`: equal times do not establish an order between runs. -/
def RunIssue.recover (issue : RunIssue) (time : Nat) (id : String) :
    RunIssue × Bool :=
  if time ≤ issue.failedAt then (issue, false)
  else ({ issue with recoveredAt := some time, recoveredRunId := some id }, true)

/-! ### Keys -/

/-- Keys are ordered as the texts of the source are. -/
abbrev IssueKey : Type := String ×ₗ String ×ₗ String

/-- Updates of AI tools and their freshness checks observe the same tools. -/
def componentKey (run : Run) (name : String) : IssueKey :=
  toLex (if run.lane = "ai-tools-stale" then "ai-tools" else run.lane,
    toLex ("component", name))

def jobKey (run : Run) : IssueKey :=
  toLex (run.lane, toLex ("operation", run.operation))

/-! ### Changes -/

structure Changes where
  failures : List (IssueKey × Option Nat)
  recoveries : List IssueKey
deriving DecidableEq

def Component.failed (component : Component) : Bool :=
  component.error.any (· != "") || component.phase == "failed"

/-- One component of the loop of `for_entry`. -/
def Changes.observe (run : Run) (changes : Changes)
    (indexed : Component × Nat) : Changes :=
  let (component, index) := indexed
  let key := componentKey run component.name
  if component.failed then
    { changes with failures := changes.failures ++ [(key, some index)] }
  else if run.outcome ≠ "interrupted" ∧ component.incident = none ∧
      component.phase ∈ ["current", "activated"] then
    { changes with recoveries := changes.recoveries ++ [key] }
  else changes

/-- `for_entry`. -/
def Changes.forEntry (run : Run) : Changes :=
  let observed := (run.components.zipIdx.filter fun indexed =>
    indexed.1.phase != "held").foldl (Changes.observe run) ⟨[], []⟩
  let failed :=
    if observed.failures.isEmpty && run.isProblem then
      { observed with failures := observed.failures ++ [(jobKey run, none)] }
    else observed
  if run.error = none ∧ (run.components.any fun component =>
      component.phase == "held" || component.incident.isSome) = false ∧
      run.outcome ∈
        ["current", "activated", "staged", "ready", "approved", "completed"] then
    { failed with recoveries := failed.recoveries ++ [jobKey run] }
  else failed

/-! ### Annotating -/

/-- The issues of each run, and those of a key that are not recovered, each by
the index of its run and its own. -/
structure Progress where
  issues : List (List RunIssue)
  pending : List (IssueKey × List (Nat × Nat))

/-- The issues that are not recovered by a run. -/
def retain (time : Nat) (id : String) :
    List (List RunIssue) → List (Nat × Nat) →
      List (List RunIssue) × List (Nat × Nat)
  | issues, [] => (issues, [])
  | issues, (run, index) :: places =>
      let recovered := (issues[run]?.bind fun own => own[index]?).any fun issue =>
        (issue.recover time id).2
      let updated := issues.modify run fun own =>
        own.modify index fun issue => (issue.recover time id).1
      let (after, kept) := retain time id updated places
      (after, if recovered then kept else (run, index) :: kept)

namespace Progress

def recover (time : Nat) (id : String) (progress : Progress) (key : IssueKey) :
    Progress :=
  match progress.pending.find? (·.1 = key) with
  | none => progress
  | some (_, previous) =>
      let (issues, kept) := retain time id progress.issues previous
      { issues
        pending := progress.pending.map fun entry =>
          if entry.1 = key then (key, kept) else entry }

def fail (index time : Nat) (progress : Progress)
    (failure : IssueKey × Option Nat) : Progress :=
  let issueIndex := (progress.issues[index]?.getD []).length
  { issues := progress.issues.modify index fun own =>
      own ++ [⟨failure.2, time, none, none⟩]
    pending := change failure.1 (fun places => places.getD [] ++ [(index, issueIndex)])
      progress.pending }

/-- A run, in order. -/
def visit (progress : Progress) (indexed : Nat × Run) : Progress :=
  let (index, run) := indexed
  if run.outcome = "running" ∨ run.exitCode = some 130 then progress
  else
    let changes := Changes.forEntry run
    changes.failures.foldl (fail index run.finishedAt)
      (changes.recoveries.foldl (recover run.finishedAt run.id) progress)

end Progress

/-- By the times of the end and of the start, and by the id. -/
def before (left right : Run) : Bool :=
  decide (left.finishedAt < right.finishedAt) ||
    left.finishedAt == right.finishedAt &&
      (decide (left.startedAt < right.startedAt) ||
        left.startedAt == right.startedAt && decide (left.id ≤ right.id))

/-- The indices of the runs in that order, with the runs. -/
def order (runs : List Run) : List (Nat × Run) :=
  (runs.zipIdx.map Prod.swap).insertionSort fun left right =>
    before left.2 right.2 = true

def openIssue (runs : List Run) (issues : List (List RunIssue))
    (place : Nat × Nat) : Option OpenIssue := do
  let run ← runs[place.1]?
  let own ← issues[place.1]?
  let issue ← own[place.2]?
  let part := issue.component.bind fun index => run.components[index]?
  return {
    runId := run.id
    lane := run.lane
    component := match part with
      | none => .ofList (run.operation.toList.take 128)
      | some part => part.name
    incident := part.bind Component.incident
    error := .ofList ((((part.bind Component.error).or run.error).getD
      run.title).toList.take 256)
    failedAt := issue.failedAt }

/-- The latest first. -/
def later (left right : OpenIssue) : Bool :=
  decide (right.failedAt < left.failedAt) ||
    left.failedAt == right.failedAt &&
      (decide (right.runId < left.runId) ||
        left.runId == right.runId && decide (right.component ≤ left.component))

/-- `annotate`: the entries with their issues, and the open issues. -/
def annotate (entries : List Entry) : List Entry × List OpenIssue :=
  let runs := entries.map Entry.run
  let progress := (order runs).foldl Progress.visit
    ⟨runs.map fun _ => [], []⟩
  let latest := progress.pending.filterMap fun entry => entry.2.getLast?
  let opened := latest.filterMap (openIssue runs progress.issues)
  ((entries.zip progress.issues).map fun annotated =>
      { annotated.1 with issues := annotated.2 },
    opened.insertionSort fun left right => later left right = true)

end BarDaemon.UpdateIssues
