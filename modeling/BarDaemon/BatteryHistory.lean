import BarDaemon.BinaryFloats
import BarDaemon.MachineIntegers
import Mathlib.Data.List.Basic

/-!
# Battery history

Observations of the battery are summed up in points on a timescale of active
time. Old points are pruned from the front.
-/

namespace BarDaemon.BatteryHistory

/-! ### Data -/

def fileVersion : Nat := 2

def retentionDays : Nat := 7

def retentionMs : Nat := retentionDays * 24 * 60 * 60 * 1000

def bucketMs : Nat := 15 * 60 * 1000

def maxObservationGapMs : Nat := 2 * 60 * 1000

def legacyPointGapMs : Nat := bucketMs + maxObservationGapMs

def clockToleranceMs : Nat := 1000

structure BatteryHistoryPoint where
  timestampMs : Nat
  activeTimeMs : Nat
  /-- Whether a line may be drawn from the preceding point. -/
  continuous : Bool
  mode : String
  percentage : Nat
  powerWatts : Binary64
  powerValid : Option Bool
  timeToFullSeconds : Option Nat
  charging : Bool
  plugged : Bool
deriving DecidableEq, Repr

structure HistoryFile where
  version : Nat := 0
  lastChargeTimestampMs : Nat := 0
  points : List BatteryHistoryPoint := []
deriving DecidableEq, Repr

structure HistoryStore where
  lastChargeTimestampMs : Nat := 0
  points : List BatteryHistoryPoint := []
  activeTimeMs : Nat := 0
  /-- By the wall clock, in milliseconds, and by the clock that does not run
  during suspend, in nanoseconds. -/
  lastObservation : Option (Nat × Nat) := none
  currentPoint : Option BatteryHistoryPoint := none
deriving DecidableEq, Repr

structure BatteryState where
  available : Bool
  charging : Bool
  plugged : Bool
  percentage : Nat
  powerWatts : Binary64
  powerAvailable : Bool
  timeToFullSeconds : Nat
deriving DecidableEq, Repr

/-- What `record` is called with. -/
structure Observation where
  state : BatteryState
  nowMs : Nat
  awakeNow : Nat
deriving DecidableEq, Repr

/-! ### Pruning and loading -/

def cutoff (nowMs : Nat) : Nat :=
  nowMs - retentionMs

def isOld (nowMs : Nat) (point : BatteryHistoryPoint) : Bool :=
  point.timestampMs < cutoff nowMs

/-- Only the front is looked at. -/
def HistoryStore.prune (store : HistoryStore) (nowMs : Nat) : HistoryStore :=
  { store with points := store.points.dropWhile (isOld nowMs) }

def mode (charging plugged : Bool) : String :=
  if charging then "charging" else if plugged then "holding" else "discharging"

def normalizeMode (point : BatteryHistoryPoint) : BatteryHistoryPoint :=
  if point.mode.isEmpty then
    { point with mode := mode point.charging point.plugged }
  else point

/-- `migrate_legacy_points`, from a point on. -/
def migrateLegacyPoints (activeTimeMs : Nat) (previousMs : Option Nat) :
    List BatteryHistoryPoint → List BatteryHistoryPoint
  | [] => []
  | point :: points =>
      let delta := previousMs.bind fun previous =>
        if previous ≤ point.timestampMs ∧
            point.timestampMs - previous ≤ legacyPointGapMs then
          some (point.timestampMs - previous)
        else none
      let activeTimeMs := saturatingAdd activeTimeMs (delta.getD 0)
      { point with
          continuous := delta.isSome
          activeTimeMs := activeTimeMs } ::
        migrateLegacyPoints activeTimeMs (some point.timestampMs) points

/-- The points of a file, in the form of this version. -/
def HistoryFile.loaded (file : HistoryFile) : List BatteryHistoryPoint :=
  (if file.version < fileVersion then migrateLegacyPoints 0 none file.points
    else file.points).map normalizeMode

/-- `load`, from what could be read. -/
def HistoryStore.load (read : Option HistoryFile) (nowMs : Nat) :
    HistoryStore :=
  let file := (read.filter fun file =>
    1 ≤ file.version ∧ file.version ≤ fileVersion).getD {}
  let points := file.loaded
  let store : HistoryStore := {
    lastChargeTimestampMs := file.lastChargeTimestampMs
    points := points
    activeTimeMs := (points.getLast?.map (·.activeTimeMs)).getD 0 }
  store.prune nowMs

/-! ### Recording -/

/-- The active time since the last observation, if it continues that one. -/
def activeDelta (last : Option (Nat × Nat)) (nowMs awakeNow : Nat) :
    Option Nat := do
  let (wall, awake) ← last
  let wallDelta ← if wall ≤ nowMs then some (nowMs - wall) else none
  let duration ← if awake ≤ awakeNow then some (awakeNow - awake) else none
  let awakeDelta ← if duration / 1000000 ≤ u64Max then
      some (duration / 1000000) else none
  if awakeDelta ≤ maxObservationGapMs ∧
      max wallDelta awakeDelta - min wallDelta awakeDelta ≤ clockToleranceMs then
    some awakeDelta
  else none

def bucket (timestampMs : Nat) : Nat :=
  timestampMs - timestampMs % bucketMs

section Recording

-- Of a number, `(value * 100.0).round() / 100.0`.
variable (hundredths : Binary64 → Binary64)

def finiteNonnegative (value : Binary64) : Binary64 :=
  if value.isFinite && (Binary64.ofNat 0).atMost value then hundredths value
  else Binary64.ofNat 0

/-- The point of an observation. -/
def pointOf (observation : Observation) (activeTimeMs : Nat)
    (continuous : Bool) : BatteryHistoryPoint :=
  let state := observation.state
  { timestampMs := observation.nowMs
    activeTimeMs := activeTimeMs
    continuous := continuous
    mode := mode state.charging state.plugged
    percentage := state.percentage
    powerWatts := finiteNonnegative hundredths state.powerWatts
    powerValid := some (state.powerAvailable && state.powerWatts.isFinite &&
      (Binary64.ofNat 0).atMost state.powerWatts)
    timeToFullSeconds :=
      if state.charging && decide (0 < state.timeToFullSeconds) then
        some state.timeToFullSeconds
      else none
    charging := state.charging
    plugged := state.plugged }

def HistoryStore.delta (store : HistoryStore) (observation : Observation) :
    Option Nat :=
  activeDelta store.lastObservation observation.nowMs observation.awakeNow

def HistoryStore.nextPoint (store : HistoryStore) (observation : Observation) :
    BatteryHistoryPoint :=
  let delta := store.delta observation
  pointOf hundredths observation
    (saturatingAdd store.activeTimeMs (delta.getD 0))
    (delta.isSome && store.points.getLast?.isSome)

/-- The store of an available battery, before its point is stored. -/
def HistoryStore.noted (store : HistoryStore) (observation : Observation) :
    HistoryStore :=
  let state := observation.state
  let previous := store.points.getLast?
  let point := store.nextPoint hundredths observation
  { lastChargeTimestampMs :=
      if !state.plugged && (store.lastChargeTimestampMs == 0 ||
          previous.any (·.plugged)) then observation.nowMs
      else store.lastChargeTimestampMs
    points := store.points
    activeTimeMs := point.activeTimeMs
    lastObservation := some (observation.nowMs, observation.awakeNow)
    currentPoint := some point }

/-- Whether the point of an observation is stored: where the stretch ends, in
each bucket, and when power comes or goes. -/
def HistoryStore.samples (store : HistoryStore) (observation : Observation) :
    Bool :=
  let state := observation.state
  let previous := store.points.getLast?
  let powerTransition := previous.any fun point =>
    point.plugged != state.plugged || point.charging != state.charging
  let bucketChanged := previous.all fun point =>
    bucket point.timestampMs != bucket observation.nowMs
  (store.delta observation).isNone || bucketChanged || powerTransition

/-- What `record` makes of an available battery, once it has pruned. -/
def HistoryStore.observe (store : HistoryStore) (observation : Observation) :
    HistoryStore × Bool :=
  let next := store.noted hundredths observation
  if store.samples observation then
    ({ next with
        points := next.points ++ [store.nextPoint hundredths observation]
      }.prune observation.nowMs, true)
  else (next, false)

def HistoryStore.record (store : HistoryStore) (observation : Observation) :
    HistoryStore × Bool :=
  if !observation.state.available then
    ({ store with lastObservation := none, currentPoint := none }, false)
  else (store.prune observation.nowMs).observe hundredths observation

end Recording

/-- `persist`, what is written. -/
def HistoryStore.file (store : HistoryStore) : HistoryFile where
  version := fileVersion
  lastChargeTimestampMs := store.lastChargeTimestampMs
  points := store.points

/-! ### Runs -/

inductive HistoryEvent
  /-- `attach_summary`; a point may not get written. -/
  | observe (observation : Observation) (written : Bool)
  | snapshot (nowMs : Nat)
  /-- A new process loads the file, if that can be read. -/
  | restart (nowMs : Nat) (readable : Bool)
deriving DecidableEq, Repr

/-- The store of the process and the file. -/
structure Session where
  store : HistoryStore := {}
  file : Option HistoryFile := none
deriving DecidableEq, Repr

def Session.step (hundredths : Binary64 → Binary64) (session : Session) :
    HistoryEvent → Session
  | .observe observation written =>
      let (store, sampled) := session.store.record hundredths observation
      { store := store
        file := if sampled && written then some store.file else session.file }
  | .snapshot nowMs => { session with store := session.store.prune nowMs }
  | .restart nowMs readable =>
      { session with
        store := .load (if readable then session.file else none) nowMs }

end BarDaemon.BatteryHistory
