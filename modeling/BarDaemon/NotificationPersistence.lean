import BarDaemon.NotificationStore

/-!
# The persistence worker

One thread owns the store and takes commands from one queue, in order.  Nothing
sees the store between two commands, so a batch is applied when it is enqueued;
what stays open is when the worker gets to it, which is why it reads a clock of
its own.  The first failed mutation is remembered: storage that is behind is
never labelled with a newer revision.
-/

namespace BarDaemon.Notifications

open FallibleSteps

/-- What one transaction or read of the worker meets. -/
structure WorkerMoment where
  now : UnixMs
  fate : Fate := .committed

structure Persistence where
  store : NotificationStore
  /-- Moments that the worker has consumed. -/
  used : Nat := 0
  historyError : Option String := none
  /-- The queue takes no more commands. -/
  stopped : Bool := false
  /-- Not in the worker: the mutations of all batches so far. -/
  submitted : List Mutation := []

namespace Persistence

def stoppedError : String :=
  "notification persistence worker stopped"

variable (lookups : Lookups) (worker : Nat → WorkerMoment)

/-- Run one transaction at the worker's next moment. -/
def transact {Value : Type} (persistence : Persistence)
    (body : Nat → Tables → Except String (Value × Tables)) :
    Except String Value × Persistence :=
  let moment := worker persistence.used
  let (result, store) :=
    persistence.store.transact moment.fate (body moment.now.val)
  (result, { persistence with store := store, used := persistence.used + 1 })

theorem transact_eq_ok {Value : Type} {persistence after : Persistence}
    {body : Nat → Tables → Except String (Value × Tables)} {value : Value}
    (succeeded : persistence.transact worker body = (.ok value, after)) :
    persistence.store.blocked = false ∧ ∃ tables,
      body (worker persistence.used).now.val persistence.store.tables =
        .ok (value, tables) ∧
      after = { persistence with
        store := { persistence.store with tables := tables }
        used := persistence.used + 1 } := by
  unfold transact at succeeded
  cases transacted : persistence.store.transact (worker persistence.used).fate
    (body (worker persistence.used).now.val) with
  | mk result store =>
      simp only [transacted, Prod.mk.injEq] at succeeded
      obtain ⟨rfl, rfl⟩ := succeeded
      obtain ⟨notBlocked, tables, performed, rfl⟩ :=
        NotificationStore.transact_eq_ok transacted
      exact ⟨notBlocked, tables, performed, rfl⟩

/-- Keep the first error of a mutation batch. -/
def noteError {Value : Type} (result : Except String Value)
    (persistence : Persistence) : Persistence :=
  match result with
  | .ok _ => persistence
  | .error error =>
      { persistence with
        historyError := persistence.historyError.or (some error) }

def applyOne (persistence : Persistence) (mutation : Mutation) :
    Persistence :=
  let (result, persistence) := persistence.transact worker fun _ tables =>
    (tables.apply lookups mutation).map ((), ·)
  { persistence.noteError result with
    submitted := persistence.submitted ++ [mutation] }

def pruneOne (persistence : Persistence) : Persistence :=
  let (result, persistence) := persistence.transact worker fun now tables =>
    tables.pruneInner now
  persistence.noteError result

def applyMutations (persistence : Persistence) (mutations : List Mutation) :
    Persistence :=
  (mutations.foldl (applyOne lookups worker) persistence).pruneOne worker

/-! ## Commands that answer -/

/-- A command is refused when the worker is gone or behind. -/
def request {Value : Type} (persistence : Persistence)
    (operation : Persistence → Except String Value × Persistence) :
    Except String Value × Persistence :=
  if persistence.stopped then (.error stoppedError, persistence)
  else
    match persistence.historyError with
    | some error => (.error error, persistence)
    | none => operation persistence

def write {Value : Type} (persistence : Persistence)
    (body : Nat → Tables → Except String (Value × Tables)) :
    Except String Value × Persistence :=
  persistence.request fun persistence => persistence.transact worker body

/-- A read needs a healthy store and may fail, but changes nothing. -/
def read {Value : Type} (persistence : Persistence)
    (query : Tables → Except String Value) :
    Except String Value × Persistence :=
  persistence.request fun persistence =>
    let result :=
      if persistence.store.blocked then .error NotificationStore.fenced
      else
        match (worker persistence.used).fate with
        | .committed => query persistence.store.tables
        | .refused error | .uncertain error _ => .error error
    (result, { persistence with used := persistence.used + 1 })

def settings (persistence : Persistence) (value : Settings) :
    Except String Settings × Persistence :=
  persistence.write worker fun now tables => tables.setSettings value now

def prune (persistence : Persistence) : Except String Nat × Persistence :=
  persistence.write worker fun now tables => tables.pruneInner now

def saveOnce (persistence : Persistence) (key : String)
    (item : ActiveNotification) : Except String Bool × Persistence :=
  persistence.write worker fun now tables =>
    tables.saveOnce lookups key item now

def delete (persistence : Persistence) (positions : List Position) :
    Except String Unit × Persistence :=
  persistence.write worker fun _ tables =>
    (tables.delete positions).map ((), ·)

def setPolicy (persistence : Persistence) (key : String)
    (policy : AppPolicy) : Except String Unit × Persistence :=
  persistence.write worker fun _ tables =>
    (tables.setPolicy key policy).map ((), ·)

def targets (persistence : Persistence) (appKey : Option String)
    (selected : Option Position) :
    Except String (List Position) × Persistence :=
  persistence.read worker fun tables => tables.targets appKey selected

def query (persistence : Persistence) (query : String)
    (before : Option Position) (limit : Nat) (excluded : List Position) :
    Except String (List CatalogRecord) × Persistence :=
  persistence.read worker fun tables =>
    tables.query query before limit excluded

/-- Close the queue; everything admitted before has been applied. -/
def shutdown (persistence : Persistence) :
    Except String Unit × Persistence :=
  if persistence.stopped then (.error stoppedError, persistence)
  else
    let result :=
      match persistence.historyError with
      | some error => .error error
      | none =>
          if persistence.store.blocked then .error NotificationStore.fenced
          else
            match (worker persistence.used).fate with
            | .committed => .ok ()
            | .refused error | .uncertain error _ => .error error
    (result, { persistence with
      used := persistence.used + 1, stopped := true })

/-- What `open` hands to the engine. -/
structure Opened where
  persistence : Persistence
  lastId : Nat
  dnd : Bool
  dndUntilUnixMs : Option Nat

/-- Open a store: stored content is history, never a surviving
conversation. -/
def openStore (tables : Tables) : Except String Opened :=
  let lastId := tables.lastNotificationId
  let fresh : Persistence := { store := { tables := tables } }
  let (cleared, fresh) := fresh.transact worker fun now tables =>
    (tables.apply lookups (.clear now CloseReason.undefined)).map ((), ·)
  match cleared with
  | .error error => .error error
  | .ok _ =>
      let (pruned, fresh) := fresh.transact worker fun now tables =>
        tables.pruneInner now
      match pruned with
      | .error error => .error error
      | .ok _ => .ok {
          persistence := fresh
          lastId := lastId
          dnd := fresh.store.tables.dnd
          dndUntilUnixMs := fresh.store.tables.dndUntilUnixMs }

/-- A store that opened has closed every conversation and has been pruned. -/
theorem openStore_eq_ok {tables : Tables} {opened : Opened}
    (opens : openStore lookups worker tables = .ok opened) :
    ∃ removed cleared pruned,
      tables.apply lookups
        (.clear (worker 0).now.val CloseReason.undefined) = .ok cleared ∧
      cleared.pruneInner (worker 1).now.val = .ok (removed, pruned) ∧
      opened = {
        persistence := { store := { tables := pruned }, used := 2 }
        lastId := tables.lastNotificationId
        dnd := pruned.dnd
        dndUntilUnixMs := pruned.dndUntilUnixMs } := by
  unfold openStore at opens
  simp only at opens
  generalize clears : transact _ _ _ = cleared at opens
  obtain ⟨clearedResult, afterClear⟩ := cleared
  cases clearedResult with
  | error error => cases opens
  | ok _ =>
      obtain ⟨-, clearedTables, performed, rfl⟩ := transact_eq_ok worker clears
      obtain ⟨_, applied, rebuilt⟩ := map_eq_ok_iff.mp performed
      obtain ⟨-, rfl⟩ := Prod.mk.inj rebuilt
      simp only at opens
      generalize prunes : transact _ _ _ = pruned at opens
      obtain ⟨prunedResult, afterPrune⟩ := pruned
      cases prunedResult with
      | error error => cases opens
      | ok removed =>
          obtain ⟨-, prunedTables, pruned, rfl⟩ := transact_eq_ok worker prunes
          exact ⟨removed, _, prunedTables, applied, pruned,
            (Except.ok.inj opens).symm⟩

end Persistence

end BarDaemon.Notifications
