import BarDaemon.Latches
import Mathlib.Data.List.Induction

/-!
# Battery alerts

Whether the alert of a level is due is a latch: readings in the level set it,
and readings that have recovered from the level, or are plugged, reset it.
-/

namespace BarDaemon.BatteryAlerts

open Latches

/-! ### Readings -/

def recoveryMargin : Nat := 3

/-- `recovered`, with sums that stay within a byte. -/
def recovered (percentage threshold : Nat) : Bool :=
  percentage > min (min (threshold + recoveryMargin) 255) 100

/-- An alert policy that was validated. -/
structure BatteryPolicyState where
  warningPercent : Nat
  criticalPercent : Nat
  ordered : criticalPercent ≤ warningPercent
  bounded : warningPercent ≤ 100
  notifyWarning : Bool
  notifyCritical : Bool
deriving Repr

structure BatteryProtectionState where
  enabled : Bool
  endPercent : Option Nat
  chargeOnceActive : Bool
deriving DecidableEq, Repr

structure BatteryState where
  available : Bool
  plugged : Bool
  percentage : Nat
  /-- Every source of a reading clamps it. -/
  bounded : percentage ≤ 100
  policy : BatteryPolicyState
  protection : BatteryProtectionState
deriving Repr

inductive BatteryAlert
  | warning
  | critical
  | chargeComplete (percent : Nat)
deriving DecidableEq, Repr

/-! ### The tracker -/

structure AlertTracker where
  initialized : Bool := false
  warningSent : Bool := false
  criticalSent : Bool := false
  fullSent : Bool := false
deriving DecidableEq, Repr

def chargeCompletePercent (state : BatteryState) : Nat :=
  if state.protection.chargeOnceActive then 100
  else if state.protection.enabled then state.protection.endPercent.getD 100
  else 100

/-- `initialize` -/
def AlertTracker.start (state : BatteryState) (completeAt : Nat) :
    AlertTracker where
  initialized := true
  warningSent :=
    !state.plugged && decide (state.percentage ≤ state.policy.warningPercent)
  criticalSent :=
    !state.plugged && decide (state.percentage ≤ state.policy.criticalPercent)
  fullSent := state.plugged && decide (completeAt ≤ state.percentage)

def AlertTracker.observeCharging (tracker : AlertTracker)
    (percentage completeAt : Nat) (notifyWhenFull : Bool) :
    AlertTracker × Option BatteryAlert :=
  let tracker := { tracker with warningSent := false, criticalSent := false }
  if percentage < completeAt then ({ tracker with fullSent := false }, none)
  else if tracker.fullSent then (tracker, none)
  else
    ({ tracker with fullSent := true },
      if notifyWhenFull then some (.chargeComplete completeAt) else none)

def AlertTracker.observeDischarging (tracker : AlertTracker)
    (state : BatteryState) : AlertTracker × Option BatteryAlert :=
  let warningSent := tracker.warningSent &&
    !recovered state.percentage state.policy.warningPercent
  let criticalSent := tracker.criticalSent &&
    !recovered state.percentage state.policy.criticalPercent
  let tracker := { tracker with
    fullSent := false
    warningSent := warningSent
    criticalSent := criticalSent }
  if state.percentage ≤ state.policy.criticalPercent then
    -- Both levels in one reading are one alert, the critical one.
    ({ tracker with warningSent := true, criticalSent := true },
      if criticalSent then none
      else if state.policy.notifyCritical then some .critical else none)
  else if state.percentage ≤ state.policy.warningPercent then
    ({ tracker with warningSent := true },
      if warningSent then none
      else if state.policy.notifyWarning then some .warning else none)
  else (tracker, none)

def AlertTracker.observe (tracker : AlertTracker) (state : BatteryState)
    (notifyWhenFull : Bool) : AlertTracker × Option BatteryAlert :=
  if !state.available then (tracker, none)
  else
    let completeAt := chargeCompletePercent state
    if !tracker.initialized then (.start state completeAt, none)
    else if state.plugged then
      tracker.observeCharging state.percentage completeAt notifyWhenFull
    else tracker.observeDischarging state

/-! ### Runs -/

/-- What the tracker is given at once. -/
structure Reading where
  state : BatteryState
  notifyWhenFull : Bool
deriving Repr

def track (readings : List Reading) : AlertTracker :=
  readings.foldl (fun tracker reading =>
    (tracker.observe reading.state reading.notifyWhenFull).1) {}

/-- The alert for a reading after others. -/
def alertAfter (before : List Reading) (reading : Reading) :
    Option BatteryAlert :=
  ((track before).observe reading.state reading.notifyWhenFull).2

/-! ### Levels -/

inductive Level
  | warning
  | critical
deriving DecidableEq, Repr

def Level.alert : Level → BatteryAlert
  | .warning => .warning
  | .critical => .critical

def Level.threshold : Level → BatteryPolicyState → Nat
  | .warning, policy => policy.warningPercent
  | .critical, policy => policy.criticalPercent

def Level.notified : Level → BatteryPolicyState → Bool
  | .warning, policy => policy.notifyWarning
  | .critical, policy => policy.notifyCritical

def Level.sent : Level → AlertTracker → Bool
  | .warning, tracker => tracker.warningSent
  | .critical, tracker => tracker.criticalSent

/-- A reading on battery at or below the threshold of a level. -/
def Level.reached (level : Level) (reading : Reading) : Bool :=
  reading.state.available && !reading.state.plugged &&
    decide (reading.state.percentage ≤ level.threshold reading.state.policy)

/-- A reading that is plugged, or above the threshold of a level by more than
the margin. -/
def Level.left (level : Level) (reading : Reading) : Bool :=
  reading.state.available && (reading.state.plugged ||
    decide (level.threshold reading.state.policy + recoveryMargin <
      reading.state.percentage))

/-- Whether a reading is in a level, and in no graver one. -/
def Level.entered : Level → Reading → Bool
  | .warning, reading => reached .warning reading && !reached .critical reading
  | .critical, reading => reached .critical reading

theorem Level.threshold_le (level : Level) (policy : BatteryPolicyState) :
    level.threshold policy ≤ 100 := by
  cases level with
  | warning => exact policy.bounded
  | critical => exact Nat.le_trans policy.ordered policy.bounded

/-- No sum is cut off where percentages are percentages. -/
theorem recovered_eq {percentage threshold : Nat} (most : percentage ≤ 100)
    (small : threshold ≤ 100) :
    recovered percentage threshold =
      decide (threshold + recoveryMargin < percentage) := by
  rw [recovered, decide_eq_decide, recoveryMargin]
  omega

theorem Level.reached_iff {level : Level} {reading : Reading} :
    level.reached reading = true ↔ reading.state.available = true ∧
      reading.state.plugged = false ∧
      reading.state.percentage ≤ level.threshold reading.state.policy := by
  rw [Level.reached, Bool.and_eq_true, Bool.and_eq_true, Bool.not_eq_true',
    decide_eq_true_eq, and_assoc]

theorem Level.left_iff {level : Level} {reading : Reading} :
    level.left reading = true ↔ reading.state.available = true ∧
      (reading.state.plugged = true ∨
        level.threshold reading.state.policy + recoveryMargin <
          reading.state.percentage) := by
  rw [Level.left, Bool.and_eq_true, Bool.or_eq_true, decide_eq_true_eq]

theorem Level.not_left_of_reached {level : Level} {reading : Reading}
    (reached : level.reached reading = true) : level.left reading = false := by
  obtain ⟨_, unplugged, below⟩ := reached_iff.mp reached
  apply Bool.eq_false_iff.mpr
  intro left
  rcases (left_iff.mp left).2 with plugged | above
  · rw [unplugged] at plugged
    cases plugged
  · omega

theorem Level.reached_warning {reading : Reading}
    (reached : reached .critical reading = true) :
    Level.reached .warning reading = true := by
  obtain ⟨available, unplugged, below⟩ := reached_iff.mp reached
  exact reached_iff.mpr ⟨available, unplugged,
    Nat.le_trans below reading.state.policy.ordered⟩

theorem Level.left_critical {reading : Reading}
    (left : Level.left .warning reading = true) :
    Level.left .critical reading = true := by
  obtain ⟨available, plugged | above⟩ := left_iff.mp left
  · exact left_iff.mpr ⟨available, .inl plugged⟩
  · have ordered : threshold .critical reading.state.policy ≤
        threshold .warning reading.state.policy :=
      reading.state.policy.ordered
    exact left_iff.mpr ⟨available, .inr (by omega)⟩

theorem Level.reached_of_entered {level : Level} {reading : Reading}
    (entered : level.entered reading = true) :
    level.reached reading = true := by
  cases level with
  | warning => exact (Bool.and_eq_true_iff.mp entered).1
  | critical => exact entered

theorem Level.entered_iff {level : Level} {reading : Reading} :
    level.entered reading = true ↔ level.reached reading = true ∧
      (level = .warning → ¬reading.state.percentage ≤
        reading.state.policy.criticalPercent) := by
  cases level with
  | critical =>
      constructor
      · exact fun entered => ⟨entered, nofun⟩
      · exact And.left
  | warning =>
      rw [Level.entered, Bool.and_eq_true, Bool.not_eq_true',
        Bool.eq_false_iff, Ne, reached_iff, reached_iff]
      constructor
      · rintro ⟨⟨available, unplugged, below⟩, above⟩
        exact ⟨⟨available, unplugged, below⟩,
          fun _ grave => above ⟨available, unplugged, grave⟩⟩
      · rintro ⟨reached, above⟩
        exact ⟨reached, fun grave => above rfl grave.2.2⟩

/-! ### Steps of the tracker -/

/-- A tracker that has seen no reading has sent nothing. -/
def AlertTracker.Sound (tracker : AlertTracker) : Prop :=
  tracker.initialized = false → ∀ level, Level.sent level tracker = false

section Steps

variable {tracker : AlertTracker} {reading : Reading}

theorem observe_unavailable (unavailable : reading.state.available = false) :
    tracker.observe reading.state reading.notifyWhenFull = (tracker, none) := by
  rw [AlertTracker.observe, unavailable]
  rfl

theorem observe_first (available : reading.state.available = true)
    (fresh : tracker.initialized = false) :
    tracker.observe reading.state reading.notifyWhenFull =
      (.start reading.state (chargeCompletePercent reading.state), none) := by
  rw [AlertTracker.observe, available, fresh]
  rfl

theorem observe_plugged (available : reading.state.available = true)
    (started : tracker.initialized = true)
    (plugged : reading.state.plugged = true) :
    tracker.observe reading.state reading.notifyWhenFull =
      tracker.observeCharging reading.state.percentage
        (chargeCompletePercent reading.state) reading.notifyWhenFull := by
  rw [AlertTracker.observe, available, started, plugged]
  rfl

theorem observe_unplugged (available : reading.state.available = true)
    (started : tracker.initialized = true)
    (unplugged : reading.state.plugged = false) :
    tracker.observe reading.state reading.notifyWhenFull =
      tracker.observeDischarging reading.state := by
  rw [AlertTracker.observe, available, started, unplugged]
  rfl

/-- Charging clears both levels. -/
theorem observeCharging_spec (percentage completeAt : Nat)
    (notifyWhenFull : Bool) (level : Level) :
    (tracker.observeCharging percentage completeAt notifyWhenFull).1.initialized =
        tracker.initialized ∧
      level.sent
          (tracker.observeCharging percentage completeAt notifyWhenFull).1 =
        false ∧
      (tracker.observeCharging percentage completeAt notifyWhenFull).2 ≠
        some level.alert := by
  rw [AlertTracker.observeCharging]
  cases level <;> split_ifs <;> simp [Level.sent, Level.alert]

/-- On battery, a level that is reached is sent, and one that is not is sent
if it was and has not recovered. -/
theorem observeDischarging_spec (state : BatteryState) (level : Level) :
    (tracker.observeDischarging state).1.initialized = tracker.initialized ∧
      level.sent (tracker.observeDischarging state).1 =
        (decide (state.percentage ≤ level.threshold state.policy) ||
          (level.sent tracker &&
            !recovered state.percentage (level.threshold state.policy))) := by
  rw [AlertTracker.observeDischarging]
  by_cases critical : state.percentage ≤ state.policy.criticalPercent
  · have warning : state.percentage ≤ state.policy.warningPercent :=
      Nat.le_trans critical state.policy.ordered
    rw [if_pos critical]
    cases level <;> simp [Level.sent, Level.threshold, critical, warning]
  · by_cases warning : state.percentage ≤ state.policy.warningPercent
    · rw [if_neg critical, if_pos warning]
      cases level <;> simp [Level.sent, Level.threshold, critical, warning]
    · rw [if_neg critical, if_neg warning]
      cases level <;> simp [Level.sent, Level.threshold, critical, warning]

/-- On battery, the alert of a level is given when the level is entered, was
not sent and is notified. -/
theorem observeDischarging_alert_iff (state : BatteryState) (level : Level) :
    (tracker.observeDischarging state).2 = some level.alert ↔
      state.percentage ≤ level.threshold state.policy ∧
        (level = .warning →
          ¬state.percentage ≤ state.policy.criticalPercent) ∧
        (level.sent tracker &&
          !recovered state.percentage (level.threshold state.policy)) = false ∧
        level.notified state.policy = true := by
  rw [AlertTracker.observeDischarging]
  by_cases critical : state.percentage ≤ state.policy.criticalPercent
  · rw [if_pos critical]
    cases level <;>
      simp [Level.sent, Level.threshold, Level.alert, Level.notified, critical]
  · by_cases warning : state.percentage ≤ state.policy.warningPercent
    · rw [if_neg critical, if_pos warning]
      cases level <;> simp [Level.sent, Level.threshold, Level.alert,
        Level.notified, critical, warning]
    · rw [if_neg critical, if_neg warning]
      cases level <;> simp [Level.threshold, critical, warning]

/-- What one reading does to a level: it is a latch. -/
theorem sent_observe (sound : tracker.Sound) (level : Level) :
    level.sent (tracker.observe reading.state reading.notifyWhenFull).1 =
      latch level.reached level.left (level.sent tracker) reading := by
  have recovers := recovered_eq reading.state.bounded
    (level.threshold_le reading.state.policy)
  rw [latch, Level.reached, Level.left]
  cases available : reading.state.available with
  | false =>
      rw [observe_unavailable available]
      simp
  | true =>
      cases started : tracker.initialized with
      | false =>
          rw [observe_first available started, sound started level,
            Bool.false_and, Bool.or_false, Bool.true_and]
          cases level <;> rfl
      | true =>
          cases plugged : reading.state.plugged with
          | true =>
              rw [observe_plugged available started plugged,
                (observeCharging_spec _ _ _ level).2.1]
              simp
          | false =>
              rw [observe_unplugged available started plugged,
                (observeDischarging_spec _ level).2, recovers]
              simp

theorem initialized_observe :
    (tracker.observe reading.state reading.notifyWhenFull).1.initialized =
      (tracker.initialized || reading.state.available) := by
  cases available : reading.state.available with
  | false =>
      rw [observe_unavailable available, Bool.or_false]
  | true =>
      rw [Bool.or_true]
      cases started : tracker.initialized with
      | false =>
          rw [observe_first available started]
          rfl
      | true =>
          cases plugged : reading.state.plugged with
          | true =>
              rw [observe_plugged available started plugged,
                (observeCharging_spec _ _ _ .critical).1, started]
          | false =>
              rw [observe_unplugged available started plugged,
                (observeDischarging_spec _ .critical).1, started]

theorem sound_observe (sound : tracker.Sound) :
    (tracker.observe reading.state reading.notifyWhenFull).1.Sound := by
  intro fresh level
  rw [initialized_observe, Bool.or_eq_false_iff] at fresh
  rw [observe_unavailable fresh.2]
  exact sound fresh.1 level

/-- The alert of a level is given when it is entered, was not sent and is
notified. -/
theorem observe_alert_iff (level : Level) :
    (tracker.observe reading.state reading.notifyWhenFull).2 =
        some level.alert ↔
      tracker.initialized = true ∧ level.entered reading = true ∧
        level.sent tracker = false ∧
        level.notified reading.state.policy = true := by
  rw [Level.entered_iff, Level.reached_iff]
  cases available : reading.state.available with
  | false =>
      rw [observe_unavailable available]
      simp
  | true =>
      cases started : tracker.initialized with
      | false =>
          rw [observe_first available started]
          simp
      | true =>
          cases plugged : reading.state.plugged with
          | true =>
              rw [observe_plugged available started plugged]
              simp [(observeCharging_spec _ _ _ level).2.2]
          | false =>
              rw [observe_unplugged available started plugged,
                observeDischarging_alert_iff, recovered_eq reading.state.bounded
                  (level.threshold_le reading.state.policy)]
              constructor
              · rintro ⟨below, above, unsent, notified⟩
                have low : ¬level.threshold reading.state.policy +
                    recoveryMargin < reading.state.percentage := by omega
                rw [decide_eq_false low, Bool.not_false, Bool.and_true] at unsent
                exact ⟨rfl, ⟨⟨rfl, rfl, below⟩, above⟩, unsent, notified⟩
              · rintro ⟨_, ⟨⟨_, _, below⟩, above⟩, unsent, notified⟩
                rw [unsent, Bool.false_and]
                exact ⟨below, above, rfl, notified⟩

end Steps

/-! ### Runs of readings -/

theorem track_append (before : List Reading) (reading : Reading) :
    track (before ++ [reading]) =
      ((track before).observe reading.state reading.notifyWhenFull).1 :=
  List.foldl_concat ..

/-- The flags of the tracker after any readings. -/
theorem track_spec (readings : List Reading) :
    (track readings).initialized = readings.any (·.state.available) ∧
      (track readings).Sound ∧
      ∀ level, Level.sent level (track readings) =
        latched level.reached level.left false readings := by
  induction readings using List.reverseRecOn with
  | nil =>
      refine ⟨rfl, fun _ level => ?_, fun level => ?_⟩
      · cases level <;> rfl
      · cases level <;> rfl
  | append_singleton readings reading ih =>
      obtain ⟨started, sound, sent⟩ := ih
      rw [track_append]
      refine ⟨?_, sound_observe sound, fun level => ?_⟩
      · rw [initialized_observe, started, List.any_append, List.any_cons,
          List.any_nil, Bool.or_false]
      · rw [sent_observe sound, sent, latched_append]
        rfl

theorem alertAfter_iff {before : List Reading} {reading : Reading}
    (level : Level) :
    alertAfter before reading = some level.alert ↔
      before.any (·.state.available) = true ∧ level.entered reading = true ∧
        latched level.reached level.left false before = false ∧
        level.notified reading.state.policy = true := by
  obtain ⟨started, _, sent⟩ := track_spec before
  rw [alertAfter, observe_alert_iff, started, sent]

/-- After a reading in a level there is no alert of it before a recovery. -/
theorem silent_until_left {before more : List Reading}
    {entry reading : Reading} {level : Level}
    (reached : level.reached entry = true)
    (stays : ∀ other ∈ more, level.left other = false) :
    alertAfter (before ++ entry :: more) reading ≠ some level.alert := by
  rw [Ne, alertAfter_iff, latched_after_set reached stays]
  simp

/-- Off the plug there are no alerts but those of levels. -/
theorem alert_of_unplugged {before : List Reading} {reading : Reading}
    (unplugged : reading.state.plugged = false) :
    alertAfter before reading = none ∨
      ∃ level : Level, alertAfter before reading = some level.alert := by
  have discharging (tracker : AlertTracker) (state : BatteryState) :
      (tracker.observeDischarging state).2 = none ∨
        ∃ level : Level,
          (tracker.observeDischarging state).2 = some level.alert := by
    rw [AlertTracker.observeDischarging]
    split_ifs
    · exact .inl rfl
    · exact .inr ⟨.critical, rfl⟩
    · exact .inl rfl
    · exact .inl rfl
    · exact .inr ⟨.warning, rfl⟩
    · exact .inl rfl
    · exact .inl rfl
  rw [alertAfter]
  cases available : reading.state.available with
  | false => exact .inl (congrArg Prod.snd (observe_unavailable available))
  | true =>
      cases started : (track before).initialized with
      | false => exact .inl (congrArg Prod.snd (observe_first available started))
      | true =>
          rw [observe_unplugged available started unplugged]
          exact discharging _ _

theorem Level.entered_unique {first second : Level} {reading : Reading}
    (one : first.entered reading = true)
    (other : second.entered reading = true) : first = second := by
  cases first <;> cases second
  · rfl
  · exact absurd (reached_iff.mp other).2.2 ((entered_iff.mp one).2 rfl)
  · exact absurd (reached_iff.mp one).2.2 ((entered_iff.mp other).2 rfl)
  · rfl

/-- A reading in a level whose alert is not sent gives it and no other, unless
it is disabled. -/
theorem alert_of_unsent {before : List Reading} {entry : Reading}
    {level : Level} (started : before.any (·.state.available) = true)
    (unsent : latched level.reached level.left false before = false)
    (entered : level.entered entry = true) :
    alertAfter before entry =
      if level.notified entry.state.policy then some level.alert else none := by
  cases notified : level.notified entry.state.policy with
  | true =>
      exact (alertAfter_iff level).mpr ⟨started, entered, unsent, notified⟩
  | false =>
      have unplugged := (Level.reached_iff.mp
        (Level.reached_of_entered entered)).2.1
      rcases alert_of_unplugged unplugged with none | ⟨other, given⟩
      · exact none
      · obtain ⟨_, also, _, told⟩ := (alertAfter_iff other).mp given
        rw [Level.entered_unique also entered, notified] at told
        cases told

/-- The first reading in a level after a recovery is such a reading. -/
theorem alert_of_entry {before middle : List Reading}
    {recovery entry : Reading} {level : Level}
    (left : level.left recovery = true)
    (above : ∀ other ∈ middle, level.reached other = false)
    (entered : level.entered entry = true) :
    alertAfter (before ++ recovery :: middle) entry =
      if level.notified entry.state.policy then some level.alert else none := by
  have keeps : level.reached recovery = false := by
    apply Bool.eq_false_iff.mpr
    intro reached
    rw [Level.not_left_of_reached reached] at left
    cases left
  have started : (before ++ recovery :: middle).any (·.state.available) =
      true := by
    apply List.any_eq_true.mpr
    exact ⟨recovery, by simp, (Level.left_iff.mp left).1⟩
  exact alert_of_unsent started (latched_after_reset left keeps above) entered

/-- For all readings and policies: between two alerts of a level there is a
reading that has recovered from it; the first reading in a level after one
gives its alert, unless that is disabled; where it is in both levels, and the
critical alert is not sent, that is the critical alert only; and after a reading
in a level, with or without its alert, there is none of it before a recovery. -/
theorem alerts_once_per_episode :
    (∀ (level : Level) (before middle : List Reading) (first second : Reading),
      alertAfter before first = some level.alert →
      alertAfter (before ++ first :: middle) second = some level.alert →
      ∃ reading ∈ middle, level.left reading = true) ∧
    (∀ (level : Level) (before middle : List Reading)
      (recovery entry : Reading), level.left recovery = true →
      (∀ other ∈ middle, level.reached other = false) →
      level.entered entry = true →
      alertAfter (before ++ recovery :: middle) entry =
        if level.notified entry.state.policy then some level.alert
        else none) ∧
    (∀ (before middle more : List Reading) (recovery entry reading : Reading),
      Level.left .warning recovery = true →
      (∀ other ∈ middle, Level.reached .warning other = false) →
      Level.reached .critical entry = true →
      alertAfter (before ++ recovery :: middle) entry =
          (if entry.state.policy.notifyCritical then some .critical
          else none) ∧
        ((∀ other ∈ more, Level.left .warning other = false) →
          alertAfter (before ++ recovery :: middle ++ entry :: more) reading ≠
            some .warning)) ∧
    (∀ (before : List Reading) (entry : Reading),
      before.any (·.state.available) = true →
      latched (Level.reached .critical) (Level.left .critical) false before =
        false →
      Level.reached .critical entry = true →
      alertAfter before entry =
        if entry.state.policy.notifyCritical then some .critical else none) ∧
    ∀ (level : Level) (before more : List Reading) (entry reading : Reading),
      level.reached entry = true →
      (∀ other ∈ more, level.left other = false) →
      alertAfter (before ++ entry :: more) reading ≠ some level.alert := by
  refine ⟨?_, fun level before middle recovery entry => alert_of_entry, ?_,
    fun before entry => @alert_of_unsent before entry .critical,
    fun level before more entry reading => silent_until_left⟩
  · intro level before middle first second alerted again
    have reached := Level.reached_of_entered ((alertAfter_iff level).mp alerted).2.1
    by_contra none
    apply silent_until_left reached _ again
    intro other among
    exact Bool.eq_false_iff.mpr fun left => none ⟨other, among, left⟩
  · intro before middle more recovery entry reading left above reached
    constructor
    · apply alert_of_entry (Level.left_critical left) _ reached
      intro other among
      apply Bool.eq_false_iff.mpr
      intro grave
      have never := above other among
      rw [Level.reached_warning grave] at never
      cases never
    · intro stays
      exact @silent_until_left _ more entry reading .warning
        (Level.reached_warning reached) stays

end BarDaemon.BatteryAlerts
