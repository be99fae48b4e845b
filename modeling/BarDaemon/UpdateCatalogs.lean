import Mathlib.Data.List.Sort
import Mathlib.Data.String.Basic

/-!
# The catalog of update runs

The runs of the update worker and the manual rebuilds are merged into one
catalog, newest first, of bounded length.
-/

namespace BarDaemon.Updates

/-- `HISTORY_LIMIT` -/
def historyLimit : Nat :=
  1000

structure Component where
  name : String
  phase : String
  changed : Bool
  incident : Option String
deriving DecidableEq, Repr

/-- A run record with its outcome. -/
structure Entry where
  id : String
  lane : String
  operation : String
  startedAt : Nat
  exitCode : Option Int
  error : Option String
  components : List Component
  /-- `notification_owner` is the desktop. -/
  desktop : Bool
  outcome : String
  title : String
deriving DecidableEq, Repr

namespace Entry

def isProblem (entry : Entry) : Bool :=
  entry.outcome ∈ ["failed", "partial", "blocked", "interrupted"]

def isManual (entry : Entry) : Bool :=
  entry.operation == "manual-rebuild"

/-- The run has ended, and the desktop is to tell of it. -/
def finished (entry : Entry) : Bool :=
  entry.outcome != "running" && entry.desktop

end Entry

structure Catalog where
  entries : List Entry
  available : Bool
  errors : List String
deriving DecidableEq, Repr

/-- A source that is absent. -/
def Catalog.default : Catalog :=
  ⟨[], false, []⟩

namespace Catalog

/-- Newest first. -/
def newer (left right : Entry) : Bool :=
  right.startedAt < left.startedAt ||
    left.startedAt == right.startedAt && decide (right.id ≤ left.id)

/-- Running runs are kept; of the others only so many. -/
def retain : Nat → List Entry → List Entry
  | _, [] => []
  | completed, entry :: entries =>
      if entry.outcome = "running" then entry :: retain completed entries
      else if completed + 1 ≤ historyLimit then
        entry :: retain (completed + 1) entries
      else retain (completed + 1) entries

def merge (catalog : Catalog) : Except String Catalog → Catalog
  | .ok source =>
      ⟨catalog.entries ++ source.entries, catalog.available || source.available,
        catalog.errors ++ source.errors⟩
  | .error text =>
      { catalog with errors := catalog.errors ++ ["Update history: " ++ text] }

/-- `load_catalog`, of what the two sources have answered. -/
def load (worker manual : Except String Catalog) : Catalog :=
  let merged := (Catalog.default.merge worker).merge manual
  { merged with entries := retain 0 (merged.entries.insertionSort (newer · ·)) }

end Catalog

end BarDaemon.Updates
