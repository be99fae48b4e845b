import BarDaemon.BinaryFloats
import BarDaemon.SleepPolicies

/-!
# The critical-battery engine

The engine looks at one sample of the battery at a time.  It asks for a
warning, counts a grace period down, and asks for hibernation once.
-/

namespace BarDaemon.SleepPolicies

/-- What the service publishes of the protection. -/
structure CriticalState where
  phase : String
  remainingSeconds : Nat
  error : Option String
deriving DecidableEq, Repr

def CriticalState.default : CriticalState :=
  ⟨"", 0, none⟩

def CriticalState.inPhase (phase : String) : CriticalState :=
  ⟨phase, 0, none⟩

/-- There is no evidence to act on. -/
def CriticalState.blind : CriticalState :=
  ⟨"blocked", 0, some ("Fresh battery evidence unavailable; " ++
    "automatic hibernation cancelled")⟩

/-! ### Samples -/

structure Sample where
  percent : Binary64
  onBattery : Bool
  discharging : Bool
deriving DecidableEq, Repr

namespace Sample

def critical (sample : Sample) (policy : CriticalPolicy) : Bool :=
  sample.onBattery && sample.discharging &&
    sample.percent.atMost (.ofNat policy.percent)

def recovered (sample : Sample) (policy : CriticalPolicy) : Bool :=
  !sample.onBattery ||
    (Binary64.ofNat (min (policy.percent + 3) 255)).atMost sample.percent

end Sample

/-- What UPower answers about its aggregate battery. -/
structure BatteryReading where
  present : Bool
  percentage : Binary64
  warningLevel : Nat
  state : Nat
  onBattery : Bool

/-- `sample`: what has been read is evidence only when it is valid. -/
def sample (read : Except String BatteryReading) : Except String Sample := do
  let reading ← read
  if !reading.present then throw "no aggregate battery present"
  if !(reading.percentage.isFinite &&
      reading.percentage.within (.ofNat 0) (.ofNat 100)) then
    throw "invalid battery percentage"
  if 5 ≤ reading.warningLevel then
    throw "UPower is already at its emergency-action level; not competing with it"
  return ⟨reading.percentage, reading.onBattery, reading.state == 2⟩

/-! ### The engine -/

structure CriticalEngine where
  policy : Option CriticalPolicy
  deadline : Option Nat
  token : Nat
  latched : Bool
  state : CriticalState
deriving DecidableEq, Repr

namespace CriticalEngine

def stop (engine : CriticalEngine) (phase : String) (error : Option String) :
    CriticalEngine :=
  { engine with
    deadline := none
    latched := true
    state := ⟨phase, 0, error⟩ }

/-- Another policy begins a new episode. -/
def adopt (engine : CriticalEngine) (policy : CriticalPolicy) :
    CriticalEngine :=
  if engine.policy = some policy then engine
  else { engine with policy := some policy, deadline := none, latched := false }

/-- `u64::saturating_add` -/
def deadlineAfter (now : Nat) (policy : CriticalPolicy) : Nat :=
  min (now + policy.graceSeconds) (2 ^ 64 - 1)

/-- The remaining time of a countdown, which may begin now. -/
def count (engine : CriticalEngine) (policy : CriticalPolicy)
    (now token : Nat) : (Bool × Bool) × CriticalEngine :=
  let warning := engine.deadline.isNone
  let deadline := engine.deadline.getD (deadlineAfter now policy)
  let counting := { engine with
    token := if warning then token else engine.token
    deadline := some deadline }
  if deadline - now = 0 then ((false, true), counting.stop "acting" none)
  else ((warning, false), { counting with
    state := ⟨"countdown", (deadline - now) % 2 ^ 32, none⟩ })

/-- The countdown has been cancelled since it began. -/
def notice (engine : CriticalEngine) (token : Nat) : CriticalEngine :=
  if engine.deadline.isSome && token != engine.token then
    engine.stop "cancelled" none
  else engine

/-- A new warning that is needed, and a request that is to be made now. -/
def observe (engine : CriticalEngine) (policy : CriticalPolicy)
    (sample : Option Sample) (now token : Nat) :
    (Bool × Bool) × CriticalEngine :=
  let engine := engine.adopt policy
  if !policy.enabled then
    ((false, false), { engine with state := .inPhase "disabled" })
  else match sample with
    | none =>
        ((false, false), { engine with deadline := none, state := .blind })
    | some sample =>
        if sample.recovered policy then
          ((false, false), { engine with
            latched := false
            deadline := none
            state := .inPhase "armed" })
        else
          let engine := engine.notice token
          if engine.latched then ((false, false), engine)
          else if !sample.critical policy then
            ((false, false), { engine with
              deadline := none
              state := .inPhase "armed" })
          else engine.count policy now token

/-- The grace period begins when the warning has been delivered. -/
def warningDelivered (engine : CriticalEngine) (policy : CriticalPolicy)
    (now : Nat) : Except String Unit → CriticalEngine
  | .ok () => { engine with
      deadline := some (deadlineAfter now policy)
      state := { engine.state with
        remainingSeconds := policy.graceSeconds } }
  | .error text =>
      engine.stop "blocked"
        (some ("Cannot deliver critical battery warning: " ++ text))

/-! ### What an observation does -/

@[simp]
theorem latched_stop (engine : CriticalEngine) (phase : String)
    (error : Option String) : (engine.stop phase error).latched = true :=
  rfl

@[simp]
theorem deadline_stop (engine : CriticalEngine) (phase : String)
    (error : Option String) : (engine.stop phase error).deadline = none :=
  rfl

@[simp]
theorem policy_stop (engine : CriticalEngine) (phase : String)
    (error : Option String) :
    (engine.stop phase error).policy = engine.policy :=
  rfl

@[simp]
theorem policy_adopt (engine : CriticalEngine) (policy : CriticalPolicy) :
    (engine.adopt policy).policy = some policy := by
  unfold adopt
  split
  · assumption
  · rfl

theorem adopt_same {engine : CriticalEngine} {policy : CriticalPolicy}
    (same : engine.policy = some policy) : engine.adopt policy = engine :=
  if_pos same

theorem adopt_deadline {engine : CriticalEngine} {policy : CriticalPolicy}
    {deadline : Nat} (runs : (engine.adopt policy).deadline = some deadline) :
    engine.adopt policy = engine := by
  unfold adopt at runs ⊢
  split
  · rfl
  · rename_i other
    rw [if_neg other] at runs
    nomatch runs

theorem deadlineAfter_eq {now : Nat} {policy : CriticalPolicy}
    (bounded : now < 2 ^ 63) (valid : policy.validate = .ok ()) :
    deadlineAfter now policy = now + policy.graceSeconds := by
  have grace := CriticalPolicy.grace_of_valid valid
  unfold deadlineAfter
  omega

theorem notice_eq_of_free {engine : CriticalEngine} {token : Nat}
    (free : (engine.notice token).latched = false) :
    engine.notice token = engine ∧ engine.latched = false ∧
      ∀ deadline, engine.deadline = some deadline → engine.token = token := by
  unfold notice at free ⊢
  split
  · rename_i cancelled
    rw [if_pos cancelled] at free
    nomatch free
  · rename_i kept
    rw [if_neg kept] at free
    refine ⟨rfl, free, fun deadline runs => ?_⟩
    have equal : ¬ token ≠ engine.token := by simpa [runs] using kept
    exact (Decidable.not_not.mp equal).symm

/-- The answers of an observation, with the evidence for them. -/
inductive Observes (engine : CriticalEngine) (policy : CriticalPolicy)
    (now token : Nat) :
    Option Sample → (Bool × Bool) × CriticalEngine → Prop
  | disabled (sample : Option Sample) (off : policy.enabled = false) :
      Observes engine policy now token sample ((false, false),
        { engine.adopt policy with state := .inPhase "disabled" })
  | missing (enabled : policy.enabled = true) :
      Observes engine policy now token none ((false, false),
        { engine.adopt policy with deadline := none, state := .blind })
  | recovered (seen : Sample) (enabled : policy.enabled = true)
      (evidence : seen.recovered policy = true) :
      Observes engine policy now token (some seen) ((false, false),
        { engine.adopt policy with
          latched := false
          deadline := none
          state := .inPhase "armed" })
  /-- The episode is over, or it has just been cancelled. -/
  | latched (seen : Sample) (enabled : policy.enabled = true)
      (low : seen.recovered policy = false)
      (spent : ((engine.adopt policy).notice token).latched = true) :
      Observes engine policy now token (some seen)
        ((false, false), (engine.adopt policy).notice token)
  | away (seen : Sample) (enabled : policy.enabled = true)
      (low : seen.recovered policy = false)
      (free : ((engine.adopt policy).notice token).latched = false) :
      Observes engine policy now token (some seen) ((false, false),
        { engine.adopt policy with
          deadline := none
          state := .inPhase "armed" })
  | warned (seen : Sample) (enabled : policy.enabled = true)
      (low : seen.recovered policy = false)
      (free : ((engine.adopt policy).notice token).latched = false)
      (idle : (engine.adopt policy).deadline = none)
      (remaining : Nat) :
      Observes engine policy now token (some seen) ((true, false),
        { engine.adopt policy with
          token := token
          deadline := some (now + policy.graceSeconds)
          state := ⟨"countdown", remaining, none⟩ })
  | counting (seen : Sample) (enabled : policy.enabled = true)
      (low : seen.recovered policy = false)
      (evidence : seen.critical policy = true)
      (free : (engine.notice token).latched = false)
      (deadline : Nat) (same : engine.policy = some policy)
      (runs : engine.deadline = some deadline) (remaining : Nat) :
      Observes engine policy now token (some seen) ((false, false),
        { engine with state := ⟨"countdown", remaining, none⟩ })
  | fired (seen : Sample) (enabled : policy.enabled = true)
      (low : seen.recovered policy = false)
      (evidence : seen.critical policy = true)
      (free : (engine.notice token).latched = false)
      (deadline : Nat) (same : engine.policy = some policy)
      (runs : engine.deadline = some deadline) (reached : deadline ≤ now) :
      Observes engine policy now token (some seen)
        ((false, true), engine.stop "acting" none)

theorem observes_count {engine : CriticalEngine} {policy : CriticalPolicy}
    {seen : Sample} {now token : Nat} (bounded : now < 2 ^ 63)
    (valid : policy.validate = .ok ()) (enabled : policy.enabled = true)
    (low : seen.recovered policy = false)
    (evidence : seen.critical policy = true)
    (free : ((engine.adopt policy).notice token).latched = false) :
    Observes engine policy now token (some seen)
      ((engine.adopt policy).count policy now token) := by
  have grace := CriticalPolicy.grace_of_valid valid
  cases runs : (engine.adopt policy).deadline with
  | none =>
      have ahead : ¬ now + policy.graceSeconds - now = 0 := by omega
      have counted : (engine.adopt policy).count policy now token =
          ((true, false), { engine.adopt policy with
            token := token
            deadline := some (now + policy.graceSeconds)
            state := ⟨"countdown", (now + policy.graceSeconds - now) % 2 ^ 32,
              none⟩ }) := by
        simp [count, runs, deadlineAfter_eq bounded valid]
        omega
      rw [counted]
      exact .warned seen enabled low free runs _
  | some deadline =>
      have same := adopt_deadline runs
      have adopted : engine.policy = some policy := by
        rw [← same, policy_adopt]
      rw [same] at runs free ⊢
      by_cases reached : deadline - now = 0
      · have counted : engine.count policy now token =
            ((false, true), engine.stop "acting" none) := by
          simp [count, runs, reached, stop]
        rw [counted]
        exact .fired seen enabled low evidence free deadline adopted runs
          (by omega)
      · have counted : engine.count policy now token =
            ((false, false), { engine with state :=
              ⟨"countdown", (deadline - now) % 2 ^ 32, none⟩ }) := by
          simp [count, runs, reached]
        rw [counted]
        exact .counting seen enabled low evidence free deadline adopted runs _

theorem observes {engine : CriticalEngine} {policy : CriticalPolicy}
    {now : Nat} (bounded : now < 2 ^ 63) (valid : policy.validate = .ok ())
    (sample : Option Sample) (token : Nat) :
    Observes engine policy now token sample
      (engine.observe policy sample now token) := by
  unfold observe
  dsimp only
  split
  · rename_i off
    exact .disabled sample (by simpa using off)
  · rename_i on
    have enabled : policy.enabled = true := by simpa using on
    cases sample with
    | none => exact .missing enabled
    | some seen =>
        dsimp only
        split
        · rename_i evidence
          exact .recovered seen enabled evidence
        · rename_i unrecovered
          have low : seen.recovered policy = false := by
            simpa using unrecovered
          split
          · rename_i spent
            exact .latched seen enabled low spent
          · rename_i unlatched
            have free : ((engine.adopt policy).notice token).latched =
                false := by
              simpa using unlatched
            rw [(notice_eq_of_free free).1]
            split
            · exact .away seen enabled low free
            · rename_i critical
              exact observes_count bounded valid enabled low
                (by simpa using critical) free

end CriticalEngine

end BarDaemon.SleepPolicies
