import BarDaemon.NotificationEngine
import BarDaemon.TransitionRuns

/-!
# Runs of the notification engine

The requests that an engine serves, the engine that starts from a database or
without one, and the states that runs reach.
-/

namespace BarDaemon.Notifications

open FallibleSteps Std TransitionRuns

inductive Request
  | notify (replacesId : Nat) (incoming : IncomingNotification)
  | notifyUpdateOnce (key runId : String) (incoming : IncomingNotification)
  | observeSharing (observation : Option Bool)
  | snoozeSharing (generation minutes : Nat)
  | setSettings (patch : SettingsPatch)
  | setAppPolicy (key : String) (policy : AppPolicy)
  | setReading (monitor : String) (reading : Bool)
  | workspacesChanged
  | prepareDelete (appKey : Option String) (selected : Option Position)
  | cancelDelete (token : String)
  | deleteConfirmed (token : String)
  | close (id reason : Nat)
  | dismiss (id : Nat)
  | clear
  | clearGroup (groupKey : String)
  | setDnd (enabled : Bool) (limit : Option Nat)
  | toggleDnd
  | snooze (id limit : Nat)
  | reply (id : Nat) (text : String)
  | invokeAction (id : Nat) (actionKey : String) (token : Option String)
  | expireDue
  | queryHistory (query : HistoryQuery)
  | shutdown

namespace Engine

variable (world : Surroundings)

/-- Serve one request. -/
def step (engine : Engine) : Request → Engine
  | .notify replacesId incoming =>
      (engine.notify world replacesId incoming).2
  | .notifyUpdateOnce key runId incoming =>
      (engine.notifyUpdateOnce world key runId incoming).2
  | .observeSharing observation => engine.observeSharing world observation
  | .snoozeSharing generation minutes =>
      (engine.snoozeSharing world generation minutes).2
  | .setSettings patch => (engine.setSettings world patch).2
  | .setAppPolicy key policy => (engine.setAppPolicy world key policy).2
  | .setReading monitor reading =>
      (engine.setReading world monitor reading).2
  | .workspacesChanged => engine.workspacesChanged world
  | .prepareDelete appKey selected =>
      (engine.prepareDelete world appKey selected).2
  | .cancelDelete token => engine.cancelDelete token
  | .deleteConfirmed token => (engine.deleteConfirmed world token).2
  | .close id reason => (engine.close world id reason).2
  | .dismiss id => (engine.dismiss world id).2
  | .clear => (engine.clear world).2
  | .clearGroup groupKey => (engine.clearGroup world groupKey).2
  | .setDnd enabled limit => (engine.setDnd world enabled limit).2
  | .toggleDnd => (engine.toggleDnd world).2
  | .snooze id limit => (engine.snooze world id limit).2
  | .reply id text => (engine.reply id text).2
  | .invokeAction id actionKey token =>
      (engine.invokeAction world id actionKey token).2
  | .expireDue => engine.expireDue world
  | .queryHistory query => (engine.queryHistory world query).2
  | .shutdown => (engine.shutdown world).2

/-- The policies that were stored, each without a quiet period that is over.
The clock is read once for each. -/
def restoredPolicies (engine : Engine)
    (policies : ExtTreeMap String AppPolicy) : ExtTreeMap String AppPolicy :=
  policies.toList.zipIdx.foldl
    (fun restored (entry, index) => restored.insert entry.1
      (entry.2.expire (engine.now world index)).1) ∅

/-- `build`: an engine with nothing active. -/
def build (epoch : String) (opened : Option Persistence.Opened) : Except String Engine :=
  let dnd := opened.any Persistence.Opened.dnd
  let dndUntil := opened.bind Persistence.Opened.dndUntilUnixMs
  let blank : Engine := {
    data := {}
    nextId := (opened.map Persistence.Opened.lastId).getD 0
    persistence := opened.map Persistence.Opened.persistence
    historyEpoch := epoch }
  let (dnd, dndUntil, dndExpired) :=
    expireFlag dnd dndUntil (blank.now world 0)
  let engine := blank.tick 1
  let (policies, engine) := engine.ask ∅ fun store =>
    store.read world.worker fun tables => .ok tables.appPolicies
  match policies with
  | .error error => .error error
  | .ok policies =>
      let restored := engine.restoredPolicies world policies
      let engine := engine.tick policies.size
      let (settings, engine) := engine.ask {} fun store =>
        store.read world.worker fun tables => do
          tables.settings.validate
          return tables.settings
      match settings with
      | .error error => .error error
      | .ok settings =>
          let data : EngineData := {
            dnd := dnd
            dndUntilUnixMs := dndUntil
            appPolicies := restored
            settings := settings
            nextPruneMs := saturatingAdd (engine.now world 0) 60000 }
          let engine := (engine.withData data).tick 1
          match engine.reservePersistence with
          | .error error => .error error
          | .ok writes =>
              let writes :=
                if dndExpired then writes.push (.setDnd false none)
                else none
              .ok ((engine.enqueue world writes).publishSummary world)

/-- An engine over a stored database. -/
def persistent (epoch : String) (tables : Tables) : Except String Engine := do
  let opened ← Persistence.openStore world.lookups world.worker tables
  build world epoch (some opened)

end Engine

/-! ## Databases -/

/-- What the schema guarantees about stored tables. -/
structure Tables.Schema (tables : Tables) : Prop where
  ascending : (tables.rows.map HistoryRow.historyId).Pairwise (· < ·)
  sequenced : ∀ row ∈ tables.rows, row.historyId ≤ tables.sequence
  /-- `notifications_active_session` is a unique index. -/
  openDistinct : ((tables.rows.filter HistoryRow.isOpen).map
    HistoryRow.sessionId).Nodup
  /-- Columns are signed 64-bit integers. -/
  createdFits : ∀ row ∈ tables.rows, row.createdUnixMs ≤ i64Max
  /-- `CHECK(dnd=1 OR dnd_until_unix_ms IS NULL)`. -/
  dndLimit : tables.dnd = false → tables.dndUntilUnixMs = none

/-- A database that can be opened. -/
structure Database where
  tables : Tables
  schema : tables.Schema

/-- Opening a store does not change its do-not-disturb columns. -/
theorem Persistence.openStore_dnd {lookups : Lookups}
    {worker : Nat → WorkerMoment} {tables : Tables} {opened : Opened}
    (consistent : tables.dnd = false → tables.dndUntilUnixMs = none)
    (opens : openStore lookups worker tables = .ok opened) :
    opened.dnd = false → opened.dndUntilUnixMs = none := by
  obtain ⟨removed, cleared, pruned, applied, prunes, rfl⟩ :=
    openStore_eq_ok lookups worker opens
  have unchanged : pruned.dnd = tables.dnd ∧
      pruned.dndUntilUnixMs = tables.dndUntilUnixMs := by
    obtain ⟨_, _, rebuilt⟩ := bind_eq_ok_iff.mp applied
    rw [← Except.ok.inj rebuilt] at prunes
    obtain ⟨_, _, cutoffs⟩ := bind_eq_ok_iff.mp prunes
    obtain ⟨_, _, rebuilt⟩ := bind_eq_ok_iff.mp cutoffs
    rw [← (Prod.mk.inj (Except.ok.inj rebuilt)).2]
    exact ⟨rfl, rfl⟩
  rw [unchanged.1, unchanged.2]
  exact consistent

/-- An engine right after it was built, without storage or over a database. -/
inductive Starts (world : Surroundings) : Engine → Prop
  | volatile {epoch : String} {engine : Engine}
      (built : Engine.build world epoch none = .ok engine) :
      Starts world engine
  | persistent (database : Database) {epoch : String} {engine : Engine}
      (built : Engine.persistent world epoch database.tables = .ok engine) :
      Starts world engine

/-- What an engine is before its first publication. -/
structure Engine.Blank (engine : Engine) : Prop where
  active : engine.data.active = ∅
  updateTargets : engine.data.updateTargets = ∅
  decks : engine.data.decks = {}
  sharing : engine.data.sharing = {}
  revisions : engine.data.revisions = 0
  dndLimit : engine.data.dnd = false → engine.data.dndUntilUnixMs = none
  trace : engine.trace = []

theorem expireFlag_limit {enabled : Bool} {deadline : Option Nat}
    (consistent : enabled = false → deadline = none) (now : Nat) :
    (expireFlag enabled deadline now).1 = false →
      (expireFlag enabled deadline now).2.1 = none := by
  unfold expireFlag takeDue
  cases enabled with
  | false => simp [consistent rfl]
  | true =>
      cases deadline with
      | none => simp
      | some limit => by_cases due : limit ≤ now <;> simp [due]

/-- Whatever was stored, an engine starts blank with one publication. -/
theorem Engine.build_spec {world : Surroundings} {epoch : String}
    {opened : Option Persistence.Opened} {engine : Engine}
    (consistent : ∀ store ∈ opened, store.dnd = false →
      store.dndUntilUnixMs = none)
    (built : Engine.build world epoch opened = .ok engine) :
    ∃ blank : Engine, blank.Blank ∧ engine = blank.publishSummary world := by
  unfold build at built
  simp only at built
  split at built
  · cases built
  · split at built
    · cases built
    · split at built
      · cases built
      · rename_i writes _
        refine ⟨_, ?_, (Except.ok.inj built).symm⟩
        refine ⟨by simp, by simp, by simp, by simp, by simp, ?_, by simp⟩
        simp only [enqueue_data, tick_data, withData_data]
        apply expireFlag_limit
        cases opened with
        | none => simp
        | some store =>
            intro disabled
            exact consistent store rfl (by simpa using disabled)

theorem Starts.blank {world : Surroundings} {engine : Engine}
    (starts : Starts world engine) :
    ∃ blank : Engine, blank.Blank ∧ engine = blank.publishSummary world := by
  cases starts with
  | volatile built =>
      exact Engine.build_spec (by simp) built
  | persistent database built =>
      obtain ⟨opened, opens, built⟩ := bind_eq_ok_iff.mp built
      refine Engine.build_spec ?_ built
      intro store same
      rw [← Option.some.inj same]
      exact Persistence.openStore_dnd database.schema.dndLimit opens

/-- A database that opens starts an engine; what can be computed of the engine
holds of it. -/
theorem exists_starts (world : Surroundings) (database : Database)
    (check : Engine → Bool)
    (passes : (Engine.persistent world "epoch" database.tables).toOption.any
      check = true) :
    ∃ start, Starts world start ∧ check start = true := by
  cases built : Engine.persistent world "epoch" database.tables with
  | error error => simp [built, Except.toOption] at passes
  | ok start =>
      rw [built] at passes
      exact ⟨start, .persistent database built, passes⟩

/-- Surroundings with one monitor, a working database and a given clock. -/
def Surroundings.calm (clock : Nat → UnixMs) : Surroundings where
  lookups := {
    contextActions := fun _ _ => []
    toLowercase := fun text => text
    validRunId := fun _ => true }
  parse := fun _ => none
  moments := fun index => {
    now := clock index
    workspaces := { focusedMonitor := some "A", monitors := ["A"] } }
  worker := fun index => { now := clock index }

/-- A clock that is read at equal distances. -/
def UnixMs.every (first distance index : Nat) : UnixMs :=
  ⟨min (first + distance * index) lastUnixMs, Nat.min_le_right _ _⟩

/-- A database right after its tables were created. -/
def Database.empty : Database where
  tables := {}
  schema := ⟨by simp, by simp, by simp, by simp, by simp⟩

/-- A chat message with one action. -/
def IncomingNotification.chat : IncomingNotification where
  appName := "chat"
  appIcon := ""
  summary := "hello"
  body := ""
  actions := [⟨"default", "open"⟩]
  hints := {}
  expireTimeout := -1

/-- A chat message whose popup stays until it is dismissed. -/
def IncomingNotification.lasting : IncomingNotification :=
  { IncomingNotification.chat with expireTimeout := 0 }

end BarDaemon.Notifications
