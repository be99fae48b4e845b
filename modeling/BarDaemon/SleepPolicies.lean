import Mathlib.Data.Nat.Notation

/-!
# The sleep policy

What the user has chosen for the lid, for inactivity and for a critical
battery, as it is kept in `sleep.json`.
-/

namespace BarDaemon.SleepPolicies

inductive LidAction
  | system
  | ignore
  | lock
  | suspend
  | hibernate
  | profile
deriving DecidableEq, Repr

/-- `critical::Policy`. -/
structure CriticalPolicy where
  enabled : Bool
  percent : Nat
  graceSeconds : Nat
deriving DecidableEq, Repr

def CriticalPolicy.default : CriticalPolicy :=
  ⟨false, 5, 60⟩

def CriticalPolicy.validate (policy : CriticalPolicy) : Except String Unit :=
  if 1 ≤ policy.percent ∧ policy.percent ≤ 20 ∧ 30 ≤ policy.graceSeconds ∧
      policy.graceSeconds ≤ 300 then .ok ()
  else .error
    "critical battery requires 1–20 percent and a 30–300 second grace period"

structure SleepProfile where
  sleepMinutes : Nat
  hibernateMinutes : Nat
deriving DecidableEq, Repr

def SleepProfile.default : SleepProfile :=
  ⟨30, 0⟩

structure SleepPolicy where
  lidAction : LidAction
  criticalBattery : CriticalPolicy
  sameProfile : Bool
  battery : SleepProfile
  plugged : SleepProfile
deriving DecidableEq, Repr

namespace SleepPolicy

def default : SleepPolicy :=
  ⟨.system, .default, true, .default, .default⟩

def maxMinutes : Nat :=
  7 * 24 * 60

def validate (policy : SleepPolicy) : Except String Unit := do
  policy.criticalBattery.validate
  for profile in [policy.battery, policy.plugged] do
    if maxMinutes < profile.sleepMinutes ∨
        maxMinutes < profile.hibernateMinutes then
      throw "sleep and hibernate delays must be 0 (Never) or 1–10080 minutes"

/-- `load`: what is read from the file is used only when it is valid. -/
def load (file : Except String SleepPolicy) : Except String SleepPolicy := do
  let policy ← file
  policy.validate
  return policy

theorem default_valid : default.validate = .ok () :=
  rfl

end SleepPolicy

theorem CriticalPolicy.grace_of_valid {policy : CriticalPolicy}
    (valid : policy.validate = .ok ()) :
    30 ≤ policy.graceSeconds ∧ policy.graceSeconds ≤ 300 := by
  unfold validate at valid
  split at valid
  · rename_i bounds
    exact ⟨bounds.2.2.1, bounds.2.2.2⟩
  · nomatch valid

end BarDaemon.SleepPolicies
