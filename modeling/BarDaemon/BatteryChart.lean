import BarDaemon.BatteryEnergy
import Mathlib.Data.List.SplitBy

/-!
# The battery history chart

The points in a window are drawn as segments, and a segment goes on for as long
as the readings do. Coordinates are exact numbers; the texts of the axis and of
the duration are left out.
-/

namespace BarDaemon.BatteryChart

open BatteryHistory

-- `fixed_decimal` of the daemon framework.
variable (fixedDecimal : Binary64 → Nat → Option String)

/-! ### Readings -/

def observed (point : BatteryHistoryPoint) : Bool :=
  0 < point.timestampMs

def metric (point : BatteryHistoryPoint) (power : Bool) : Option Binary64 :=
  let value :=
    if power then point.powerWatts else Binary64.ofNat point.percentage
  if !observed point || !value.isFinite || value.below (Binary64.ofNat 0) then none
  else if power then
    if point.powerValid == some false ||
        (point.powerValid != some true && value.equals (Binary64.ofNat 0)) then none
    else some value
  else if (Binary64.ofNat 100).below value then none
  else some value

/-- Nonnegative telemetry with one decimal place. -/
def measurement (value : Binary64) (suffix : String) : Option String :=
  if (Binary64.ofNat 0).atMost value then
    (fixedDecimal value 1).map fun text => text ++ suffix
  else none

structure Point where
  x : Rat
  value : Binary64
  timestampMs : Nat
  charging : Bool
  label : String
deriving DecidableEq, Repr

/-- Where a time stands in a duration; the subtraction may stop the program. -/
def coordinate (time first duration : Nat) : Option Rat :=
  if 0 < duration then do
    let offset ← checkedSub time first
    BatteryEnergy.ratio offset duration
  else some (1 / 2)

/-- `Point::new`; there is no point without a reading. -/
def Point.new (point : BatteryHistoryPoint) (first duration : Nat) (power : Bool) :
    Option (Option Point) :=
  match metric point power with
  | none => some none
  | some value => do
      let x ← coordinate point.activeTimeMs first duration
      let label :=
        if power then measurement fixedDecimal value " W"
        else some (toString point.percentage ++ "%")
      return label.map fun label => {
        x
        value
        timestampMs := point.timestampMs
        charging := point.charging
        label }

/-! ### Series -/

structure Break where
  origin : Point
  target : Point
deriving DecidableEq, Repr

structure Series where
  segments : List (List Point)
  breaks : List Break
  maximum : Binary64
  activeDurationMs : Nat
  hasActiveTimeline : Bool
deriving DecidableEq, Repr

/-- `f64::max` of finite numbers. -/
def greater (left right : Binary64) : Binary64 :=
  if left.below right then right else left

def Series.push (series : Series) (next : Point)
    (continuous previousValid : Bool) : Series :=
  let series := { series with maximum := greater series.maximum next.value }
  match continuous, series.segments.getLast? with
  | true, some segment =>
      { series with
        segments := series.segments.dropLast ++ [segment ++ [next]] }
  | _, last =>
      let breaks :=
        match previousValid, last.bind List.getLast? with
        | true, some origin => series.breaks ++ [⟨origin, next⟩]
        | _, _ => series.breaks
      { series with
        segments := series.segments ++ [[next]]
        breaks := breaks }

/-- A point goes on from an older one. -/
def continues (old point : BatteryHistoryPoint) : Bool :=
  point.continuous && old.activeTimeMs < point.activeTimeMs &&
    old.timestampMs < point.timestampMs

/-- A round of the loop, with the previous point if it had a reading. -/
def Series.follow (first duration : Nat) (power : Bool)
    (state : Series × Option BatteryHistoryPoint) (point : BatteryHistoryPoint) :
    Option (Series × Option BatteryHistoryPoint) := do
  match ← Point.new fixedDecimal point first duration power with
  | none => return (state.1, none)
  | some next =>
      let continuous := state.2.any fun old => continues old point
      return (state.1.push next continuous state.2.isSome, some point)

def firstActive (points : List BatteryHistoryPoint) : Nat :=
  (points.map BatteryHistoryPoint.activeTimeMs).min?.getD 0

def activeDuration (points : List BatteryHistoryPoint) : Nat :=
  (points.map BatteryHistoryPoint.activeTimeMs).max?.getD (firstActive points) -
    firstActive points

def series (points : List BatteryHistoryPoint) (power : Bool) : Option Series := do
  let first := firstActive points
  let duration := activeDuration points
  let empty : Series := {
    segments := []
    breaks := []
    maximum := Binary64.ofNat (if power then 1 else 100)
    activeDurationMs := duration
    hasActiveTimeline := !points.isEmpty }
  let (result, _) ←
    points.foldlM (Series.follow fixedDecimal first duration power) (empty, none)
  return result

/-! ### Projection -/

structure BatteryHistoryState where
  points : List BatteryHistoryPoint
  currentPoint : Option BatteryHistoryPoint
deriving DecidableEq, Repr

structure Chart where
  percentage : Series
  power : Series
deriving DecidableEq, Repr

/-- The points that are observed, the current one too when it is the latest. -/
def observedPoints (history : BatteryHistoryState) : List BatteryHistoryPoint :=
  let points := history.points.filter observed
  match history.currentPoint.filter observed with
  | some current =>
      if points.getLast?.all fun last => last.timestampMs < current.timestampMs then
        points ++ [current]
      else points
  | none => points

/-- Those of them in a window of so many hours, a `u16`. -/
def windowPoints (history : BatteryHistoryState) (hours : Fin 65536) :
    List BatteryHistoryPoint :=
  let points := observedPoints history
  let last := (points.map BatteryHistoryPoint.activeTimeMs).max?.getD 0
  let cutoff := last - hours * 3600000
  points.filter fun point => cutoff ≤ point.activeTimeMs

def project (history : BatteryHistoryState) (hours : Fin 65536) : Option Chart := do
  let points := windowPoints history hours
  return {
    percentage := ← series fixedDecimal points false
    power := ← series fixedDecimal points true }

end BarDaemon.BatteryChart
