import BarDaemon.BatteryHistory
import BarDaemon.SortedEntries
import Mathlib.Algebra.Order.Field.Rat
import Mathlib.Tactic.FieldSimp
import Mathlib.Tactic.Linarith
import Mathlib.Tactic.Ring

/-!
# Battery energy

The energy that was discharged is counted between pairs of points, into bins of
active time. Times are `u64`; powers and energies are exact numbers.
-/

namespace BarDaemon.BatteryEnergy

open BatteryHistory SortedEntries

/-! ### Pairs of points -/

/-- `/` of exact numbers, where a division by zero stops the program. -/
def ratio (numerator denominator : Rat) : Option Rat :=
  if denominator = 0 then none else some (numerator / denominator)

/-- The exact number of watts. -/
def watts (power : Binary64) : Rat :=
  power.value / 2 ^ 1074

def powerAvailable (point : BatteryHistoryPoint) : Bool :=
  point.powerValid.getD ((Binary64.ofNat 0).below point.powerWatts) &&
    point.powerWatts.isFinite && (Binary64.ofNat 0).atMost point.powerWatts

def discharge (point : BatteryHistoryPoint) : Bool :=
  point.mode == "discharging" ||
    (point.mode == "" && !point.charging && !point.plugged)

structure DischargeSegment where
  start : Nat
  stop : Nat
  startWatts : Rat
  endWatts : Rat
deriving DecidableEq, Repr

/-- The samples of a pair are continuous, ordered and measured. -/
def qualifies (previous point : BatteryHistoryPoint) : Bool :=
  !(previous.timestampMs == 0 || point.timestampMs ≤ previous.timestampMs ||
    !point.continuous || point.activeTimeMs ≤ previous.activeTimeMs ||
    !discharge previous || !discharge point || !powerAvailable previous ||
    !powerAvailable point)

namespace DischargeSegment

def between (previous point : BatteryHistoryPoint) (origin : Nat) :
    Option DischargeSegment :=
  if qualifies previous point then
    some {
      start := previous.activeTimeMs - origin
      stop := point.activeTimeMs - origin
      startWatts := watts previous.powerWatts
      endWatts := watts point.powerWatts }
  else none

def powerAt (segment : DischargeSegment) (time : Nat) : Option Rat := do
  let elapsed ← checkedSub time segment.start
  let length ← checkedSub segment.stop segment.start
  let change ← ratio ((segment.endWatts - segment.startWatts) * elapsed) length
  return segment.startWatts + change

end DischargeSegment

/-! ### Bins -/

structure EnergyBin where
  x0 : Rat
  x1 : Rat
  value : Rat
  observedMs : Nat
deriving DecidableEq, Repr

def EnergyBin.add (energy : Rat) (time : Nat) (bin : EnergyBin) : EnergyBin :=
  { bin with
    value := bin.value + energy
    observedMs := saturatingAdd bin.observedMs time }

namespace DischargeSegment

/-- A round of the loop: where it stops, and the bins after it. A new bin is
made whether or not it is needed. -/
def round (segment : DischargeSegment) (duration interval offset : Nat)
    (bins : List (Nat × EnergyBin)) : Option (Nat × List (Nat × EnergyBin)) := do
  let index ← checkedDiv offset interval
  let next ← checkedAdd index 1
  let boundary := saturatingMul next interval
  let stop := min segment.stop boundary
  let x0 ← ratio (← checkedMul index interval) duration
  let x1 ← ratio (min duration boundary : Nat) duration
  let time ← checkedSub stop offset
  let energy := ((← segment.powerAt offset) / 2 + (← segment.powerAt stop) / 2) *
    time / 3600000
  return (stop, change index
    (fun bin => (bin.getD ⟨x0, x1, 0, 0⟩).add energy time) bins)

/-- The loop, for so many rounds at most. -/
def accumulate (segment : DischargeSegment) (duration interval : Nat) :
    Nat → Nat → List (Nat × EnergyBin) → Option (List (Nat × EnergyBin))
  | 0, offset, bins => if offset < segment.stop then none else some bins
  | rounds + 1, offset, bins =>
      if offset < segment.stop then do
        let (stop, bins) ← segment.round duration interval offset bins
        segment.accumulate duration interval rounds stop bins
      else some bins

end DischargeSegment

/-! ### Energy -/

structure EnergyHistory where
  bars : List EnergyBin
  maximum : Rat
  totalWh : Rat
  intervalMs : Nat
  activeDurationMs : Nat
  observedMs : Nat
deriving DecidableEq, Repr

def accumulatePair (origin duration interval : Nat)
    (bins : List (Nat × EnergyBin))
    (pair : BatteryHistoryPoint × BatteryHistoryPoint) :
    Option (List (Nat × EnergyBin)) :=
  match DischargeSegment.between pair.1 pair.2 origin with
  | some segment =>
      segment.accumulate duration interval (segment.stop - segment.start)
        segment.start bins
  | none => some bins

/-- The active times of the points that were observed. -/
def observedTimes (points : List BatteryHistoryPoint) : List Nat :=
  (points.filter fun point => 0 < point.timestampMs).map
    BatteryHistoryPoint.activeTimeMs

/-- `energy`; an exact number is always finite. -/
def energy (points : List BatteryHistoryPoint) : Option EnergyHistory := do
  let first := (observedTimes points).min?.getD 0
  let last := (observedTimes points).max?.getD 0
  let duration ← checkedSub last first
  let parts := duration / (48 * 900000) +
    if duration % (48 * 900000) = 0 then 0 else 1
  let interval ← checkedMul (max parts 1) 900000
  let bins ← (points.zip points.tail).foldlM
    (accumulatePair first duration interval) []
  let bars := bins.map Prod.snd
  let observedMs ← bars.foldlM (fun total bin =>
    checkedAdd total bin.observedMs) 0
  return {
    bars
    maximum := (bars.map EnergyBin.value).foldl max 0
    totalWh := (bars.map EnergyBin.value).sum
    intervalMs := interval
    activeDurationMs := duration
    observedMs }

end BarDaemon.BatteryEnergy
