import BarDaemon.OrderedMaps
import BarDaemon.TransitionRuns
import BarDaemon.UpdateCatalogs
import Std.Data.ExtTreeSet.Lemmas

/-!
# Announcing the outcomes of updates

A pass compares the catalog of runs with a ledger of those that have been
seen, announces what is new, and keeps the ledger.
-/

namespace BarDaemon.Updates

open Std TransitionRuns

/-- The ledger, `update-delivery.json`. -/
structure Delivery where
  initialized : Bool
  manualInitialized : Bool
  seen : ExtTreeSet String
  incidents : ExtTreeMap String String

def Delivery.default : Delivery :=
  ⟨false, false, ∅, ∅⟩

/-! ### Incidents -/

/-- The first of the lines of a text. -/
def firstLine (text : List Char) : Option (List Char) :=
  if text = [] then none
  else
    let line := text.takeWhile (· ≠ '\n')
    if line.length = text.length then some line
    else some (if line.getLast? = some '\r' then line.dropLast else line)

def incidentPairs (entry : Entry) : List (String × String) :=
  if entry.outcome = "interrupted" ∧ entry.exitCode = some 130 then []
  else
    let pairs := (entry.components.filter (·.phase ≠ "held")).filterMap
      fun component => component.incident.map fun incident =>
        ("tool:" ++ component.name, incident)
    if pairs.isEmpty && !entry.components.any (·.phase == "held") &&
        entry.isProblem then
      [(entry.lane ++ ":" ++ entry.operation, .ofList
        (((firstLine (entry.error.getD entry.outcome).toList).getD
          "unknown".toList).take 256))]
    else pairs

/-- Not all incidents of the run are open. -/
def Entry.raises (entry : Entry) (incidents : ExtTreeMap String String) :
    Bool :=
  (incidentPairs entry).any fun pair => incidents[pair.1]? != some pair.2

namespace Delivery

/-- Components without an incident close the one of their tool. -/
def closeTools (incidents : ExtTreeMap String String) (entry : Entry) :
    ExtTreeMap String String :=
  entry.components.foldl (fun incidents component =>
    if component.phase = "held" ∨ component.incident = none ∧
        component.phase ∈ ["current", "activated"] then
      incidents.erase ("tool:" ++ component.name)
    else incidents) incidents

/-- `update_incidents`: whether an incident is new. -/
def updateIncidents (ledger : Delivery) (entry : Entry) : Bool × Delivery :=
  let pairs := incidentPairs entry
  let fresh := pairs.any fun pair => ledger.incidents[pair.1]? != some pair.2
  let closed := closeTools ledger.incidents entry
  let settled :=
    if pairs.isEmpty ∧ entry.outcome ∈
        ["current", "activated", "staged", "ready", "approved"] then
      closed.erase (entry.lane ++ ":" ++ entry.operation)
    else closed
  (fresh, { ledger with
    incidents := pairs.foldl (fun incidents pair =>
      incidents.insert pair.1 pair.2) settled })

/-! ### Events -/

end Delivery

def Entry.completed (entry : Entry) : Bool :=
  decide (entry.outcome ∈ ["activated", "staged", "partial"]) ||
    entry.isManual && decide (entry.outcome ∈ ["current", "completed"])

namespace Delivery

/-- The source of the entry is read for the first time. -/
def initial (ledger : Delivery) (entry : Entry) : Bool :=
  if entry.isManual then !ledger.manualInitialized else !ledger.initialized

def see (ledger : Delivery) (entry : Entry) : Delivery :=
  let updated := (ledger.updateIncidents entry).2
  { updated with seen := updated.seen.insert entry.id }

/-- One run of the catalog. -/
def visit (start : Delivery) (progress : Delivery × List Entry)
    (entry : Entry) : Delivery × List Entry :=
  if entry.id ∈ progress.1.seen then progress
  else (progress.1.see entry,
    if (progress.1.updateIncidents entry).1 ||
        (!start.initial entry && entry.completed) then
      progress.2 ++ [entry]
    else progress.2)

/-- The finished runs, oldest first. -/
def due (catalog : Catalog) : List Entry :=
  catalog.entries.reverse.filter (·.finished)

/-- The runs to announce, and the ledger afterwards. -/
def events (ledger : Delivery) (catalog : Catalog) : List Entry × Delivery :=
  let visited := (due catalog).foldl ledger.visit (ledger, [])
  let after := { visited.1 with
    initialized := true
    manualInitialized := true
    seen := visited.1.seen.filter fun id =>
      catalog.entries.any (·.id == id) }
  (visited.2.filter fun entry => !ledger.initial entry ||
    (incidentPairs entry).any fun pair =>
      after.incidents[pair.1]? == some pair.2, after)

end Delivery

/-! ### The publisher -/

def outcomeBody (entry : Entry) : String :=
  if entry.isProblem then
    "Review the recorded outcome and diagnostics in Updates."
  else if entry.outcome = "staged" then
    "The candidate is staged for the next boot, not activated in this session."
  else if entry.outcome = "current" ∧ entry.isManual then
    "The rebuild completed without changing the recorded system."
  else if entry.outcome = "completed" ∧ entry.isManual then
    "Rebuild command completed. Review the recorded deployment status in " ++
      "Updates."
  else if entry.lane = "system" then
    "System activation completed. Review the recorded run for details."
  else toString (entry.components.countP (·.changed)) ++
    " component(s) changed. Review the run for details."

/-- What the notification of a pass says. -/
structure Announcement where
  key : String
  target : String
  summary : String
  body : String
  /-- The runs that it counts. -/
  counted : List String
deriving DecidableEq, Repr

def announcement (firstScan : Bool) (events : List Entry) (last : Entry)
    (unresolved : Nat) : Announcement :=
  let catchup := firstScan || decide (1 < events.length)
  { key := "updates:run:" ++ last.id
    target := if catchup then "" else last.id
    summary := if catchup then "Recent updates to review" else last.title
    body := if catchup then toString events.length ++
        " update outcome(s); " ++ toString unresolved ++
        " unresolved issue(s). Open Updates to review."
      else outcomeBody last
    counted := events.map (·.id) }

/-- What has happened, in order. -/
inductive UpdateMark
  /-- A finished run is seen for the first time, or again after it had been
  forgotten. -/
  | finished (entry : Entry) (initial : Bool)
      (incidents : ExtTreeMap String String)
  | passed (finished : List Entry)
  | announced (announcement : Announcement)

/-- Where a pass may fail, and when it takes place. -/
structure PassEffects where
  readable : Bool
  sent : Bool
  written : Bool
  /-- Milliseconds since the epoch. -/
  now : Nat

structure Publisher where
  file : Delivery
  firstScan : Bool
  /-- The notification engine is the daemon's own. -/
  native : Bool
  /-- `notification_once`, the keys of the engine with their times. -/
  once : List (String × Nat)
  /-- For the statements only. -/
  trace : List UpdateMark

inductive UpdateEvent
  | pass (worker manual : Except String Catalog) (effects : PassEffects)
  | restart (native : Bool)

/-- A run with the incidents that are open when it is judged. -/
abbrev Judgement : Type :=
  Entry × ExtTreeMap String String

/-- The runs of a pass that are not in the ledger. -/
def Delivery.judged (start : Delivery) :
    Delivery → List Entry → List Judgement
  | _, [] => []
  | ledger, entry :: entries =>
      if entry.id ∈ ledger.seen then start.judged ledger entries
      else (entry, ledger.incidents) ::
        start.judged (ledger.see entry) entries

namespace Publisher

/-- `save_once`: a key is used once while it is remembered. -/
def saveOnce (once : List (String × Nat)) (key : String) (now : Nat) :
    Bool × List (String × Nat) :=
  let known := once.any (·.1 == key)
  let inserted := if known then once else once ++ [(key, now)]
  (!known, inserted.filter fun entry =>
    now - 180 * 86400 * 1000 ≤ entry.2)

/-- The native engine drops a notification whose key it knows. -/
def send (publisher : Publisher) (announcement : Announcement) (now : Nat) :
    Publisher :=
  if publisher.native then
    let saved := saveOnce publisher.once announcement.key now
    { publisher with
      once := saved.2
      trace := publisher.trace ++
        if saved.1 then [.announced announcement] else [] }
  else { publisher with
    trace := publisher.trace ++ [.announced announcement] }

def announce (publisher : Publisher) (events : List Entry) (unresolved : Nat)
    (now : Nat) : Publisher :=
  match events.getLast? with
  | none => publisher
  | some last => publisher.send
      (announcement publisher.firstScan events last unresolved) now

/-- The ledger after the pass is kept. -/
def keep (publisher : Publisher) (ledger : Delivery) : Publisher :=
  { publisher with file := ledger, firstScan := false }

/-- What a pass has found out. -/
def note (publisher : Publisher) (catalog : Catalog) : Publisher :=
  { publisher with
    trace := publisher.trace ++
      ((publisher.file.judged publisher.file (Delivery.due catalog)).map
        fun judged => .finished judged.1
          (publisher.file.initial judged.1) judged.2) ++
      [.passed (Delivery.due catalog)] }

def reconcile (publisher : Publisher) (catalog : Catalog)
    (effects : PassEffects) : Publisher :=
  if !catalog.available || !catalog.errors.isEmpty then publisher
  else if !effects.readable then publisher
  else
    let found := publisher.file.events catalog
    let noted := publisher.note catalog
    if !effects.sent && !found.1.isEmpty then publisher
    else
      let announced := noted.announce found.1 found.2.incidents.size
        effects.now
      if effects.written then announced.keep found.2 else announced

def step (publisher : Publisher) : UpdateEvent → Publisher
  | .pass worker manual effects =>
      publisher.reconcile (Catalog.load worker manual) effects
  | .restart native => { publisher with firstScan := true, native := native }

/-- A publisher with a ledger that may be an older one. -/
def initial (file : Delivery) (native : Bool) : Publisher :=
  ⟨file, true, native, [], []⟩

def after (file : Delivery) (native : Bool) (events : List UpdateEvent) :
    Publisher :=
  run step (initial file native) events

end Publisher

end BarDaemon.Updates
