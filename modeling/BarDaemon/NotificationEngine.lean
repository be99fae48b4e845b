import Mathlib.Data.List.Destutter
import BarDaemon.NotificationEngineData
import BarDaemon.NotificationPersistence

/-!
# The notification engine

Every operation holds the mutation lock from beginning to end, so a run of the
engine is a sequence of whole operations.  A look outside (the clock, the
workspace state, the icon registry, a semaphore, the random device) reads the
next moment of an arbitrary sequence.  The trace records what leaves the
engine, signals and publications, and when the content of an identifier
begins.
-/

namespace BarDaemon.Notifications

open Std

/-- What the engine sees when it looks outside. -/
structure Moment where
  now : UnixMs
  workspaces : Workspaces := {}
  icons : IconRegistry := fun _ _ => ""
  /-- A token of sixteen random bytes, when the device can be read. -/
  token : Except String String := .ok ""
  /-- Whether the ingress or reader semaphore has a free permit. -/
  admitted : Bool := true
  /-- `updates::open`. -/
  openRun : String → Option String → Except String Unit := fun _ _ => .ok ()

/-- Everything around one engine. -/
structure Surroundings where
  lookups : Lookups
  parse : CursorParser
  moments : Nat → Moment
  worker : Nat → WorkerMoment

inductive Event
  /-- A notification begins, with the internal route that it brings. -/
  | allocated (id : Nat) (route : Option String)
  /-- An active notification gets new content. -/
  | replaced (id : Nat)
  | snoozed (id : Nat)
  /-- A signal, and what was active when it was sent. -/
  | signal (signal : NotificationSignal)
      (active : ExtTreeMap Nat ActiveNotification)
  | published (state : NotificationState) (active : NotificationActiveState)

structure Engine where
  data : EngineData
  nextId : Nat
  persistence : Option Persistence
  historyEpoch : String
  /-- The notification summary in the shared state. -/
  state : NotificationState := {}
  /-- Moments that the engine has consumed. -/
  ticks : Nat := 0
  trace : List Event := []

/-- The reserved batch of one operation; absent without storage. -/
abbrev PendingWrites := Option (List Mutation)

namespace PendingWrites

def push (writes : PendingWrites) (mutation : Mutation) : PendingWrites :=
  writes.map (· ++ [mutation])

end PendingWrites

structure DeleteConfirmation where
  token : String
  count : Nat
  appKey : Option String
  selected : Option Position
  expiresUnixMs : Nat
  deriving DecidableEq, Repr

namespace Engine

/-- `NotificationPolicy::default`, the only policy that engines are built
with. -/
def policy : NotificationPolicy := {}

variable (world : Surroundings)

/-! ## Shared steps -/

/-- The moment that a look outside sees after `offset` earlier ones. -/
def moment (engine : Engine) (offset : Nat) : Moment :=
  world.moments (engine.ticks + offset)

def now (engine : Engine) (offset : Nat) : Nat :=
  (engine.moment world offset).now.val

def tick (engine : Engine) (count : Nat) : Engine :=
  { engine with ticks := engine.ticks + count }

def log (engine : Engine) (event : Event) : Engine :=
  { engine with trace := engine.trace ++ [event] }

def emit (engine : Engine) (signal : NotificationSignal) : Engine :=
  engine.log (.signal signal engine.data.active)

def withData (engine : Engine) (data : EngineData) : Engine :=
  { engine with data := data }

def withPersistence (engine : Engine) (persistence : Persistence) : Engine :=
  { engine with persistence := some persistence }

@[simp]
theorem tick_data (engine : Engine) (count : Nat) :
    (engine.tick count).data = engine.data :=
  rfl

@[simp]
theorem tick_ticks (engine : Engine) (count : Nat) :
    (engine.tick count).ticks = engine.ticks + count :=
  rfl

@[simp]
theorem tick_trace (engine : Engine) (count : Nat) :
    (engine.tick count).trace = engine.trace :=
  rfl

@[simp]
theorem emit_data (engine : Engine) (signal : NotificationSignal) :
    (engine.emit signal).data = engine.data :=
  rfl

@[simp]
theorem emit_ticks (engine : Engine) (signal : NotificationSignal) :
    (engine.emit signal).ticks = engine.ticks :=
  rfl

@[simp]
theorem emit_trace (engine : Engine) (signal : NotificationSignal) :
    (engine.emit signal).trace =
      engine.trace ++ [.signal signal engine.data.active] :=
  rfl

@[simp]
theorem log_data (engine : Engine) (event : Event) :
    (engine.log event).data = engine.data :=
  rfl

@[simp]
theorem log_ticks (engine : Engine) (event : Event) :
    (engine.log event).ticks = engine.ticks :=
  rfl

@[simp]
theorem log_trace (engine : Engine) (event : Event) :
    (engine.log event).trace = engine.trace ++ [event] :=
  rfl

@[simp]
theorem withData_data (engine : Engine) (data : EngineData) :
    (engine.withData data).data = data :=
  rfl

@[simp]
theorem withData_ticks (engine : Engine) (data : EngineData) :
    (engine.withData data).ticks = engine.ticks :=
  rfl

@[simp]
theorem withData_trace (engine : Engine) (data : EngineData) :
    (engine.withData data).trace = engine.trace :=
  rfl

@[simp]
theorem withPersistence_data (engine : Engine) (persistence : Persistence) :
    (engine.withPersistence persistence).data = engine.data :=
  rfl

@[simp]
theorem withPersistence_ticks (engine : Engine) (persistence : Persistence) :
    (engine.withPersistence persistence).ticks = engine.ticks :=
  rfl

/-- Reserve a queue slot before anything changes. -/
def reservePersistence (engine : Engine) : Except String PendingWrites :=
  match engine.persistence with
  | none => .ok none
  | some persistence =>
      if persistence.stopped then .error Persistence.stoppedError
      else .ok (some [])

/-- Put a question to the storage, if there is one. -/
def ask {Value : Type} (engine : Engine) (absent : Value)
    (command : Persistence → Except String Value × Persistence) :
    Except String Value × Engine :=
  match engine.persistence with
  | none => (.ok absent, engine)
  | some store =>
      let (result, store) := command store
      (result, engine.withPersistence store)

/-- Hand the batch to the worker; an empty batch releases its slot. -/
def enqueue (engine : Engine) (writes : PendingWrites) : Engine :=
  match engine.persistence, writes with
  | some persistence, some (first :: rest) =>
      engine.withPersistence
        (persistence.applyMutations world.lookups world.worker (first :: rest))
  | _, _ => engine

@[simp]
theorem ask_data {Value : Type} (engine : Engine) (absent : Value)
    (command : Persistence → Except String Value × Persistence) :
    (engine.ask absent command).2.data = engine.data := by
  unfold ask
  split <;> rfl

@[simp]
theorem ask_ticks {Value : Type} (engine : Engine) (absent : Value)
    (command : Persistence → Except String Value × Persistence) :
    (engine.ask absent command).2.ticks = engine.ticks := by
  unfold ask
  split <;> rfl

@[simp]
theorem ask_trace {Value : Type} (engine : Engine) (absent : Value)
    (command : Persistence → Except String Value × Persistence) :
    (engine.ask absent command).2.trace = engine.trace := by
  unfold ask
  split <;> rfl

@[simp]
theorem enqueue_data (engine : Engine) (writes : PendingWrites) :
    (engine.enqueue world writes).data = engine.data := by
  unfold enqueue
  split <;> rfl

@[simp]
theorem enqueue_ticks (engine : Engine) (writes : PendingWrites) :
    (engine.enqueue world writes).ticks = engine.ticks := by
  unfold enqueue
  split <;> rfl

@[simp]
theorem enqueue_trace (engine : Engine) (writes : PendingWrites) :
    (engine.enqueue world writes).trace = engine.trace := by
  unfold enqueue
  split <;> rfl

/-- Publish the summary and the toast decks. -/
def publishSummary (engine : Engine) : Engine :=
  let data := engine.data.route (engine.moment world 0).workspaces
  let shown := data.visible fun index => engine.now world (index + 1)
  let (toastDecks, decks) := data.decks.project shown data.dnd
  let state := data.summary shown
  { engine with
    data := { data with decks := decks }
    state := state
    ticks := engine.ticks + (1 + 2 * shown.length)
    trace := engine.trace ++ [.published state {
      available := true
      revision := data.historyRevision
      notifications := shown
      toastDecks := toastDecks
      error := none }] }

/-- Try successive identifiers from the counter; zero is never one. -/
def allocate (active : ExtTreeMap Nat ActiveNotification) :
    Nat → Nat → Option Nat × Nat
  | 0, counter => (none, counter)
  | tries + 1, counter =>
      let next := (counter + 1) % (u32Max + 1)
      let id := max next 1
      if active.contains id then allocate active tries next
      else (some id, next)

def allocateId (engine : Engine) : Option Nat × Engine :=
  let outcome := allocate engine.data.active u32Max engine.nextId
  (outcome.1, { engine with nextId := outcome.2 })

def exhausted : String :=
  "notification ID space is exhausted"

/-- Remove one notification with its close signal.  The caller holds a
reserved batch. -/
def closeLocked (engine : Engine) (id reason : Nat) (writes : PendingWrites) :
    Bool × Engine × PendingWrites :=
  let removed := engine.data.active.contains id
  let engine := engine.withData (engine.data.remove id)
  if removed then
    let closed := engine.now world 0
    let engine := (engine.withData (engine.data.bumped 1)).tick 1
    (true, engine.emit (.closed id reason),
      writes.push (.close id closed reason))
  else
    (false, engine, writes)

def closeAll (engine : Engine) (ids : List Nat) (reason : Nat)
    (writes : PendingWrites) : Engine × PendingWrites :=
  ids.foldl (fun (engine, writes) id =>
    (engine.closeLocked world id reason writes).2) (engine, writes)

/-! ## Arrivals -/

/-- Insert new content under an identifier; an eviction is signalled and
stored after it. -/
def insertIncoming (engine : Engine) (replaces : Bool) (id : Nat)
    (incoming : IncomingNotification) (outside : Moment) (now : Nat)
    (writes : PendingWrites) : Engine × PendingWrites :=
  let (data, stored, evicted) := EngineData.upsert world.lookups
    outside.icons engine.data id incoming
    (outside.workspaces.focusedMonitor.getD "") now policy.maximumActive
  let engine := (engine.withData data).log
    (if replaces then .replaced id else .allocated id none)
  let writes := writes.push (.save stored)
  match evicted with
  | none => (engine, writes)
  | some oldest =>
      (engine.emit (.closed oldest CloseReason.undefined),
        writes.push (.close oldest now CloseReason.undefined))

def notify (engine : Engine) (replacesId : Nat)
    (incoming : IncomingNotification) : Except String Nat × Engine :=
  if ¬ (engine.moment world 0).admitted then
    (.error "notification ingress is full", engine.tick 1)
  else
    let engine := engine.tick 1
    match policy.validate incoming, engine.reservePersistence with
    | .error error, _ => (.error error, engine)
    | .ok _, .error error => (.error error, engine)
    | .ok _, .ok writes =>
        let now := engine.now world 0
        let outside := engine.moment world 1
        let engine := engine.tick 2
        let replaces :=
          replacesId != 0 && engine.data.active.contains replacesId
        let (id, engine) :=
          if replaces then (some replacesId, engine) else engine.allocateId
        match id with
        | none => (.error exhausted, engine)
        | some id =>
            let (engine, writes) := engine.insertIncoming world replaces id
              incoming outside now writes
            (.ok id, (engine.publishSummary world).enqueue world writes)

/-- The content of an update outcome, before it is stored. -/
def updateContent (engine : Engine) (id : Nat) (incoming : IncomingNotification)
    (outside : Moment) (now : Nat) : ActiveNotification :=
  let stored := ActiveNotification.fromIncoming world.lookups outside.icons id
    incoming now
  let stored := { stored with
    sourceMonitor := outside.workspaces.focusedMonitor.getD "" }
  engine.data.hush stored now

/-- Insert an acknowledged update outcome with its route. -/
def installUpdate (engine : Engine) (id : Nat) (runId : String)
    (stored : ActiveNotification) : Engine :=
  let data := engine.data
  let data := { data with
    active := data.active.insert id stored
    updateTargets := data.updateTargets.insert id runId }
  (engine.withData (data.bumped 1)).log (.allocated id (some runId))

/-- The normal close path, including persistence, makes room. -/
def evictForUpdate (engine : Engine) : Except String Engine :=
  let evicted :=
    if policy.maximumActive ≤ engine.data.active.size then
      oldest engine.data.active.values
    else
      none
  match evicted with
  | none => .ok engine
  | some item =>
      engine.reservePersistence.map fun writes =>
        let (_, engine, writes) := engine.closeLocked world item.id
          CloseReason.undefined writes
        engine.enqueue world writes

/-- A durable, idempotent update outcome: published only after storage has
acknowledged it. -/
def notifyUpdateOnce (engine : Engine) (key runId : String)
    (incoming : IncomingNotification) : Except String Unit × Engine :=
  if ¬ (byteLength key ≤ 1024 ∧
      (runId = "" ∨ world.lookups.validRunId runId = true)) then
    (.error "Invalid update notification identity", engine)
  else
    match policy.validate incoming, engine.persistence with
    | .error error, _ => (.error error, engine)
    | .ok _, none =>
        (.error "Update notifications require persistent storage", engine)
    | .ok _, some store =>
        let allocated := engine.allocateId
        let engine := allocated.2
        match allocated.1 with
        | none => (.error exhausted, engine)
        | some id =>
            let stored := engine.updateContent world id incoming
              (engine.moment world 1) (engine.now world 0)
            let engine := engine.tick 2
            let saved := store.saveOnce world.lookups world.worker key stored
            let engine := engine.withPersistence saved.2
            match saved.1 with
            | .error error => (.error error, engine)
            | .ok false => (.ok (), engine)
            | .ok true =>
                match engine.evictForUpdate world with
                | .error error => (.error error, engine)
                | .ok engine =>
                    (.ok (), (engine.installUpdate id runId
                      stored).publishSummary world)

/-! ## Presentation -/

def observeSharing (engine : Engine) (observation : Option Bool) : Engine :=
  let now := engine.now world 0
  let engine := engine.tick 1
  (engine.withData
    (engine.data.observeSharing observation now)).publishSummary world

def snoozeSharing (engine : Engine) (generation minutes : Nat) :
    Except String NotificationState × Engine :=
  let now := engine.now world 0
  let engine := engine.tick 1
  match engine.data.sharing.snooze generation minutes now with
  | .error error => (.error error, engine)
  | .ok sharing =>
      let engine := (engine.withData
        { engine.data with sharing := sharing }).publishSummary world
      (.ok engine.state, engine)

def setSettings (engine : Engine) (patch : SettingsPatch) :
    Except String NotificationState × Engine :=
  match engine.data.settings.patched patch with
  | .error error => (.error error, engine)
  | .ok settings =>
      let (saved, engine) := engine.ask settings fun store =>
        store.settings world.worker settings
      match saved with
      | .error error => (.error error, engine)
      | .ok _ =>
          let data := { engine.data with settings := settings }
          let engine :=
            (engine.withData (data.bumped 1)).publishSummary world
          (.ok engine.state, engine)

def validAppKey (key : String) : Bool :=
  key ≠ "" && byteLength key ≤ 1100 &&
    ["desktop:", "named:", "unknown:"].any fun beginning =>
      startsWith key beginning

def setAppPolicy (engine : Engine) (key : String) (policy : AppPolicy) :
    Except String NotificationState × Engine :=
  if ¬ validAppKey key then
    (.error "invalid notification app key", engine)
  else
    let valid := policy.validate (engine.now world 0) (engine.now world 1)
    let engine := engine.tick 2
    match valid with
    | .error error => (.error error, engine)
    | .ok _ =>
        if ¬ (engine.data.appPolicies.contains key ∨
            engine.data.appPolicies.size < 256) then
          (.error "Application policy limit reached", engine)
        else
          let (saved, engine) := engine.ask () fun store =>
            store.setPolicy world.worker key policy
          match saved with
          | .error error => (.error error, engine)
          | .ok _ =>
              let now := engine.now world 0
              let engine := engine.tick 1
              let data := engine.data.applyAppPolicy key policy now
              let engine :=
                (engine.withData (data.bumped 1)).publishSummary world
              (.ok engine.state, engine)

def setReading (engine : Engine) (monitor : String) (reading : Bool) :
    Except String Unit × Engine :=
  if ¬ (monitor ≠ "" ∧ byteLength monitor ≤ 256) then
    (.error "Invalid toast monitor", engine)
  else
    let outside := engine.moment world 0
    let now := engine.now world 1
    if ¬ outside.workspaces.monitors.contains monitor then
      (.error "Toast monitor unavailable", engine.tick 1)
    else
      let engine := engine.tick 2
      (.ok (), (engine.withData
        (engine.data.setReading monitor reading now)).publishSummary world)

/-- `run_routes`: the compositor state has changed. -/
def workspacesChanged (engine : Engine) : Engine :=
  engine.publishSummary world

/-! ## Deletion -/

def prepareDelete (engine : Engine) (appKey : Option String)
    (selected : Option Position) :
    Except String DeleteConfirmation × Engine :=
  if ¬ (appKey.all (fun key => key ≠ "" && byteLength key ≤ 4096) &&
      selected.all fun position =>
        0 < position.id && 0 < position.created) then
    (.error "Invalid delete scope", engine)
  else
    let (stored, engine) := engine.ask [] fun store =>
      store.targets world.worker appKey selected
    match stored with
    | .error error => (.error error, engine)
    | .ok stored =>
        let live := (engine.data.active.values.filter fun item =>
          appKey.all (fun key => key == item.appKey) &&
            selected.all fun position => position == item.position).map
              ActiveNotification.position
        let records := ((stored ++ live).insertionSort Position.upTo).destutter
          (· ≠ ·)
        if records.isEmpty then
          (.error "No notifications to delete", engine)
        else
          match (engine.moment world 0).token with
          | .error error => (.error error, engine.tick 1)
          | .ok token =>
              let expires := engine.now world 1 + 60000
              -- One clock reading for each ticket that is examined.
              let tickets := engine.data.deleteTickets.toList.zipIdx.filter
                fun (ticket, index) =>
                  engine.now world (2 + index) < ticket.2.1
              let kept := ExtTreeMap.ofList (tickets.map Prod.fst)
              let engine :=
                (engine.withData { engine.data with deleteTickets := kept }).tick
                  (2 + engine.data.deleteTickets.size)
              if 8 ≤ kept.size then
                (.error "Too many pending delete confirmations", engine)
              else
                let data : EngineData := { engine.data with
                  deleteTickets := kept.insert token (expires, records) }
                (.ok ⟨token, records.length, appKey, selected, expires⟩,
                  engine.withData data)

def cancelDelete (engine : Engine) (token : String) : Engine :=
  engine.withData { engine.data with
    deleteTickets := engine.data.deleteTickets.erase token }

def deleteExpired : String :=
  "Delete confirmation expired; request a new confirmation"

/-- Remove the notification at a position, if it is still the same one. -/
def deleteOne (engine : Engine) (position : Position) : Engine :=
  if engine.data.active[position.id]?.any fun item =>
      item.createdUnixMs == position.created then
    (engine.withData (engine.data.remove position.id)).emit
      (.closed position.id CloseReason.dismissed)
  else
    engine

def deleteConfirmed (engine : Engine) (token : String) :
    Except String Nat × Engine :=
  match engine.data.deleteTickets[token]? with
  | none => (.error deleteExpired, engine)
  | some (expires, positions) =>
      let engine := engine.cancelDelete token
      let now := engine.now world 0
      let engine := engine.tick 1
      if expires ≤ now then (.error deleteExpired, engine)
      else
        -- Persistent removal is committed before anything is published.
        let (deleted, engine) := engine.ask () fun store =>
          store.delete world.worker positions
        match deleted with
        | .error error => (.error error, engine)
        | .ok _ =>
            let engine := positions.foldl deleteOne engine
            let engine := engine.withData (engine.data.bumped 1)
            (.ok positions.length, engine.publishSummary world)

/-! ## Closing -/

def close (engine : Engine) (id reason : Nat) : Except String Bool × Engine :=
  match engine.reservePersistence with
  | .error error => (.error error, engine)
  | .ok writes =>
      let (removed, engine, writes) :=
        engine.closeLocked world id reason writes
      if removed then
        (.ok true, (engine.publishSummary world).enqueue world writes)
      else
        (.ok false, engine)

def dismiss (engine : Engine) (id : Nat) : Except String Bool × Engine :=
  engine.close world id CloseReason.dismissed

/-- Remove everything, with one close signal for each notification. -/
def clearActive (engine : Engine) : Engine :=
  let ids := engine.data.active.keys
  let data := { engine.data with active := ∅, updateTargets := ∅ }
  let data := if ids.isEmpty then data else data.bumped 1
  ids.foldl
    (fun engine id => engine.emit (.closed id CloseReason.dismissed))
    (engine.withData data)

def clear (engine : Engine) : Except String Nat × Engine :=
  match engine.reservePersistence with
  | .error error => (.error error, engine)
  | .ok writes =>
      let ids := engine.data.active.keys
      if ids.isEmpty then (.ok 0, engine.clearActive)
      else
        let writes := writes.push
          (.clear (engine.now world 0) CloseReason.dismissed)
        let engine := (engine.tick 1).clearActive
        (.ok ids.length, (engine.publishSummary world).enqueue world writes)

def clearGroup (engine : Engine) (groupKey : String) :
    Except String Nat × Engine :=
  match engine.reservePersistence with
  | .error error => (.error error, engine)
  | .ok writes =>
      let ids := (engine.data.active.values.filter fun item =>
        item.groupKey == groupKey).map ActiveNotification.id
      let (engine, writes) :=
        engine.closeAll world ids CloseReason.dismissed writes
      if ids.isEmpty then (.ok 0, engine)
      else
        (.ok ids.length, (engine.publishSummary world).enqueue world writes)

/-! ## Do not disturb and snoozing -/

def setDndLocked (engine : Engine) (enabled : Bool) (limit : Option Nat)
    (writes : PendingWrites) : Engine × PendingWrites :=
  let limit := if enabled then limit else none
  let data := engine.data
  let changed := data.dnd ≠ enabled ∨ data.dndUntilUnixMs ≠ limit
  let engine := engine.withData (data.setDnd enabled limit)
  if changed then
    (engine.publishSummary world, writes.push (.setDnd enabled limit))
  else
    (engine, writes)

def setDnd (engine : Engine) (enabled : Bool) (limit : Option Nat) :
    Except String NotificationState × Engine :=
  match engine.reservePersistence with
  | .error error => (.error error, engine)
  | .ok writes =>
      let (engine, writes) := engine.setDndLocked world enabled limit writes
      (.ok engine.state, engine.enqueue world writes)

def toggleDnd (engine : Engine) : Except String Bool × Engine :=
  match engine.reservePersistence with
  | .error error => (.error error, engine)
  | .ok writes =>
      let enabled := !engine.data.dnd
      let (engine, writes) := engine.setDndLocked world enabled none writes
      (.ok enabled, engine.enqueue world writes)

/-- Snooze one active notification. -/
def snoozeActive (engine : Engine) (id : Nat) (stored : ActiveNotification) :
    Engine :=
  let data := engine.data
  let data := { data with active := data.active.insert id stored }
  (engine.withData (data.bumped 1)).log (.snoozed id)

def snooze (engine : Engine) (id limit : Nat) : Except String Bool × Engine :=
  match engine.reservePersistence with
  | .error error => (.error error, engine)
  | .ok writes =>
      let now := engine.now world 0
      let engine := engine.tick 1
      if limit ≤ now then (.ok false, engine)
      else
        match engine.data.active[id]? with
        | none => (.ok false, engine)
        | some item =>
            let stored := EngineData.snoozeItem item limit now
            let engine := engine.snoozeActive id stored
            (.ok true, (engine.publishSummary world).enqueue world
              (writes.push (.save stored)))

/-! ## Actions -/

def offers (item : ActiveNotification) (key : String) : Bool :=
  item.actions.any fun action => action.key == key

def reply (engine : Engine) (id : Nat) (text : String) : Bool × Engine :=
  if trim text = "" ∨ 4096 < byteLength text then (false, engine)
  else if engine.data.active[id]?.any fun item =>
      offers item "inline-reply" then
    (true, engine.emit (.replied id text))
  else
    (false, engine)

def invokeAction (engine : Engine) (id : Nat) (actionKey : String)
    (token : Option String) : Except String Bool × Engine :=
  match engine.reservePersistence with
  | .error error => (.error error, engine)
  | .ok writes =>
      match engine.data.active[id]? with
      | none => (.ok false, engine)
      | some item =>
          if ¬ offers item actionKey then (.ok false, engine)
          else
            let opened :=
              match engine.data.updateTargets[id]? with
              | some runId =>
                  if actionKey = "default" then
                    (engine.moment world 0).openRun runId token
                  else
                    .ok ()
              | none => .ok ()
            let engine := engine.tick 1
            match opened with
            | .error error => (.error error, engine)
            | .ok _ =>
                let engine :=
                  match token with
                  | some token => engine.emit (.activationToken id token)
                  | none => engine
                let engine := engine.emit (.actionInvoked id actionKey)
                if item.hints.resident then (.ok true, engine)
                else
                  let (_, engine, writes) := engine.closeLocked world id
                    CloseReason.dismissed writes
                  (.ok true,
                    (engine.publishSummary world).enqueue world writes)

/-! ## Expiry -/

/-- The retention pass of `expire_due`, when it is due. -/
def pruneDue (engine : Engine) : Engine :=
  let due := engine.data.nextPruneMs ≤ engine.now world 0
  let engine := engine.tick 1
  if due then
    let (result, engine) := engine.ask 0 fun store =>
      store.prune world.worker
    (engine.withData
      (engine.data.retentionRan (engine.now world 0) result)).tick 1
  else
    engine

/-- The due work of `expire_due`, up to publication. -/
def dueWork (engine : Engine) (writes : PendingWrites) :
    Engine × PendingWrites :=
  let engine := engine.pruneDue world
  let now := engine.now world 0
  let engine := engine.tick 1
  let (data, batch) := engine.data.expire now
  let engine := engine.withData data
  let writes := batch.changed.foldl
    (fun writes item => writes.push (.save item)) writes
  let writes :=
    if batch.dndExpired then writes.push (.setDnd false none) else writes
  engine.closeAll world batch.expiredIds CloseReason.expired writes

def expireDue (engine : Engine) : Engine :=
  match engine.reservePersistence with
  | .error _ => engine
  | .ok writes =>
      let (engine, writes) := engine.dueWork world writes
      (engine.publishSummary world).enqueue world writes

/-! ## Catalog reads -/

/-- The revision and the overlay describe the same persistence boundary as the
storage read. -/
def queryHistory (engine : Engine) (query : HistoryQuery) :
    Except HistoryError HistoryPage × Engine :=
  match query.normalize world.lookups with
  | .error error => (.error error, engine)
  | .ok query =>
      if ¬ (engine.moment world 0).admitted then (.error .busy, engine.tick 1)
      else
        let engine := engine.tick 1
        let revision := engine.data.historyRevision
        let active := engine.data.awake
        let now := engine.now world 0
        let engine := engine.tick 1
        match query.position world.parse engine.historyEpoch revision now with
        | .error error => (.error error, engine)
        | .ok before =>
            let (persisted, engine) := engine.ask [] fun store =>
              store.query world.worker query.query before query.limit
                (active.map ActiveNotification.position)
            match persisted with
            | .error error => (.error (.unavailable error), engine)
            | .ok persisted =>
                (History.page world.lookups persisted active query before
                  engine.historyEpoch revision now, engine)

def shutdown (engine : Engine) : Except String Unit × Engine :=
  engine.ask () fun store => store.shutdown world.worker

end Engine

end BarDaemon.Notifications
