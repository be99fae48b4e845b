import BarDaemon.BatteryEffects

/-!
# The passes of the battery protection

After every reading of the batteries a pass resumes what had been started,
restores what is due, and applies the configured thresholds.  A failure is
told with the reading, and the next pass tries again.
-/

namespace BarDaemon.BatteryProtection

open Attempt Effect

/-- What a pass has in its memory. -/
structure Pass where
  state : State
  config : Config
  runtime : Runtime
  policyError : Option String

namespace Pass

def complain (pass : Pass) (message : String) : Pass :=
  { pass with policyError := appendError pass.policyError message }

def complainOf {Value : Type} (pass : Pass) :
    Except Failure Value → Pass
  | .ok _ => pass
  | .error failure => pass.complain failure.message

@[simp]
theorem runtime_complain (pass : Pass) (message : String) :
    (pass.complain message).runtime = pass.runtime :=
  rfl

@[simp]
theorem runtime_complainOf {Value : Type} (pass : Pass)
    (outcome : Except Failure Value) :
    (pass.complainOf outcome).runtime = pass.runtime := by
  cases outcome <;> rfl

@[simp]
theorem config_complainOf {Value : Type} (pass : Pass)
    (outcome : Except Failure Value) :
    (pass.complainOf outcome).config = pass.config := by
  cases outcome <;> rfl

/-! ### Loading and saving -/

/-- `policy_or_default` of the configuration. -/
def loadPolicy (state : State) : Effect Pass := do
  match ← attempt loadConfig with
  | .ok config => return ⟨state, config, .default, none⟩
  | .error failure =>
      return ⟨state, .default, .default, some failure.message⟩

/-- `load_policy_data` -/
def load (state : State) : Effect Pass := do
  let pass ← loadPolicy state
  match ← attempt loadRuntime with
  | .ok runtime => return { pass with runtime := runtime }
  | .error failure => do
      note .unread
      return pass.complain failure.message

/-- `save_runtime` -/
def persist (pass : Pass) : Effect Pass := do
  let saved ← attempt (saveRuntime pass.runtime)
  return pass.complainOf saved

def migrateChargeOnceBattery (pass : Pass) : Effect Pass :=
  if pass.runtime.chargeOnceActive = true ∧
      pass.runtime.chargeOnceBatteryId = "" then
    persist { pass with runtime :=
      { pass.runtime with chargeOnceBatteryId := pass.state.nativePath } }
  else pure pass

/-! ### A running operation -/

/-- What a part of a pass has done to a battery, and whether the runtime
record is to be saved. -/
structure Turn where
  settled : Bool
  device : Device
  pass : Pass

def Turn.remembers (turn : Turn) (runtime : Runtime) : Turn :=
  { turn with pass := { turn.pass with runtime := runtime } }

def ensureChargeBehaviour (pass : Pass) (device : Device)
    (desired : String) : Effect Turn :=
  if device.protection.chargeBehaviour = some desired then
    pure ⟨true, device, pass⟩
  else do
    match ← attempt (setChargeBehaviour device.id desired) with
    | .ok actual => return ⟨true, device.behaves actual, pass⟩
    | .error failure => return ⟨false, device, pass.complain failure.message⟩

/-- Record that a calibration is to be restored, before the hardware is
touched. -/
def enterRestoring (pass : Pass) : Effect (Bool × Pass) :=
  if pass.runtime.operationPhase = .restoring then pure (true, pass)
  else do
    let pass := { pass with runtime :=
      { pass.runtime with operationPhase := .restoring } }
    match ← attempt (saveRuntime pass.runtime) with
    | .ok _ => return (true, pass)
    | .error failure => return (false, pass.complain failure.message)

def restoreThresholds (pass : Pass) (device : Device) :
    Effect (Except Failure ThresholdWriteResult) :=
  match pass.runtime.operationRestoration with
  | some target => attempt (setThresholds device.id target)
  | none =>
      pure (.error (.known "calibration restoration thresholds are missing"))

/-- The hardware has answered to a restoration. -/
def restored (pass : Pass) (device : Device)
    (behaviour : Except Failure String)
    (thresholds : Except Failure ThresholdWriteResult) : Turn :=
  match behaviour, thresholds with
  | .ok actual, .ok written =>
      let device := (device.behaves actual).observes written.actual
      match pass.runtime.completeCalibrationRestoration written.actual
        written.verified with
      | .ok runtime => ⟨true, device, { pass with runtime := runtime }⟩
      | .error message => ⟨false, device, pass.complain message⟩
  | behaviour, thresholds =>
      ⟨false, device, (pass.complainOf behaviour).complainOf thresholds⟩

def finishRuntimeOperation (pass : Pass) (device : Device) : Effect Turn := do
  let (persisted, pass) ← enterRestoring pass
  if persisted then
    let behaviour ← attempt (setChargeBehaviour device.id "auto")
    let thresholds ← restoreThresholds pass device
    return restored pass device behaviour thresholds
  else return ⟨false, device, pass⟩

def reconcileCalibrationDischarge (pass : Pass) (device : Device) :
    Effect Turn :=
  if 1 < device.percentage then do
    let turn ← ensureChargeBehaviour pass device "force-discharge"
    return { turn with settled := false }
  else do
    let turn ← ensureChargeBehaviour pass device "auto"
    if turn.settled then
      return turn.remembers
        { turn.pass.runtime with operationPhase := .charging }
    else return turn

def reconcileCalibration (pass : Pass) (device : Device) : Effect Turn := do
  let now ← unixMs
  if pass.runtime.operationPhase = .restoring ∨
      pass.runtime.operationExpired now = true ∨
      pass.state.plugged = false then
    finishRuntimeOperation pass device
  else
    match pass.runtime.operationPhase with
    | .discharging => reconcileCalibrationDischarge pass device
    | .charging =>
        if 100 ≤ device.percentage then finishRuntimeOperation pass device
        else do
          let turn ← ensureChargeBehaviour pass device "auto"
          return { turn with settled := false }
    | phase =>
        finishRuntimeOperation
          (pass.complain ("invalid calibration phase: " ++ phase.text)) device

/-- Restore a calibration whose last write has not been answered. -/
def reconcileUncertain (pass : Pass) (device : Device) : Effect Turn :=
  if pass.runtime.operation = .calibration then do
    let turn ← finishRuntimeOperation pass device
    if turn.settled then
      return turn.remembers (turn.pass.runtime.unfence device.id)
    else return turn
  else pure ⟨false, device, pass⟩

/-- `reconcile_runtime_operation`, for the battery of the operation. -/
def reconcileOperation (pass : Pass) (device : Device) : Effect Turn :=
  if pass.runtime.authorizationUncertainBatteries.contains device.id then
    reconcileUncertain pass device
  else
    match pass.runtime.operation with
    | .inhibit => do
        let turn ← ensureChargeBehaviour pass device "inhibit-charge"
        return { turn with settled := false }
    | .calibration => reconcileCalibration pass device
    | .none => pure ⟨false, device, pass⟩

/-- The battery as it is after a turn stands where it was found. -/
def put (pass : Pass) (device : Device) : Pass :=
  { pass with state := { pass.state with
      devices := pass.state.devices.set
        (pass.state.devices.findIdx (·.id == device.id)) device } }

/-- Whether the runtime record is to be saved. -/
def reconcileRuntimeOperation (pass : Pass) : Effect (Bool × Pass) :=
  if pass.runtime.operation = .none then pure (false, pass)
  else
    match pass.state.devices.find?
      (·.id == pass.runtime.operationBatteryId) with
    | none =>
        pure (false, pass.complain ("cannot resume " ++
          pass.runtime.operation.text ++ " operation: battery " ++
          pass.runtime.operationBatteryId ++ " is unavailable"))
    | some device => do
        let turn ← reconcileOperation pass device
        return (turn.settled, turn.pass.put turn.device)

/-! ### The thresholds -/

def chargeOnceIsDue (pass : Pass) (now : Nat) : Bool :=
  let percentage := ((pass.state.devices.find?
    (·.id == pass.runtime.chargeOnceBatteryId)).map Device.percentage).getD 0
  pass.runtime.chargeOnceActive &&
    (!pass.state.plugged || 100 ≤ percentage || pass.runtime.isExpired now)

def reconciliationTarget (device : DeviceConfig) (runtime : Runtime)
    (shouldFinishChargeOnce : Bool) (batteryId : String) :
    Option Thresholds :=
  let chargeOnce := runtime.chargeOnceTargets batteryId
  let safetyRestoration := chargeOnce && shouldFinishChargeOnce
  let configured := if device.manageThresholds then
    some device.desiredThresholds else none
  if runtime.authorizationUncertainBatteries.contains batteryId = true ∧
      safetyRestoration = false then none
  else if runtime.calibrates batteryId then
    if runtime.operationPhase = .restoring then none else some (0, 100)
  else if chargeOnce = true ∧ shouldFinishChargeOnce = false then
    some (0, 100)
  else if safetyRestoration then runtime.restoration.or configured
  else configured

structure ThresholdIntent where
  target : Option Thresholds
  observed : Option Nat × Option Nat
  accepted : Option Thresholds
  temporary : Bool
  restoration : Bool
  policy : Bool
  canControl : Bool

def thresholdIntent (pass : Pass) (finishChargeOnce : Bool)
    (device : Device) : ThresholdIntent :=
  let devicePolicy := pass.config.device device.id
  let chargeOnce := pass.runtime.chargeOnceTargets device.id
  let temporary := pass.runtime.calibrates device.id ||
    (chargeOnce && !finishChargeOnce)
  let restoration := chargeOnce && finishChargeOnce
  { target := reconciliationTarget devicePolicy pass.runtime finishChargeOnce
      device.id
    observed := (device.protection.startPercent, device.protection.endPercent)
    accepted := thresholds devicePolicy.acceptedReportedStartPercent
      devicePolicy.acceptedReportedEndPercent
    temporary := temporary
    restoration := restoration
    policy := !temporary && !restoration
    canControl := device.protection.supportsStart &&
      device.protection.supportsEnd }

def targetIsApplied (observed : Option Nat × Option Nat)
    (target : Thresholds) (accepted : Option Thresholds)
    (temporaryTarget policyTarget : Bool) : Bool :=
  observed == (some target.1, some target.2) ||
    (temporaryTarget && observed.2 == some 100) ||
    (policyTarget && accepted.any fun accepted =>
      observed == (some accepted.1, some accepted.2))

/-- Whether a battery has its thresholds, and whether that has changed the
configuration. -/
structure Applied where
  applied : Bool
  changed : Bool
  device : Device
  pass : Pass

/-- The helper has answered. -/
def written (pass : Pass) (device : Device) (intent : ThresholdIntent)
    (target : Thresholds) (result : ThresholdWriteResult) : Applied :=
  let device := device.observes result.actual
  if intent.restoration = true ∧ result.verified = false then
    ⟨false, false, device, pass.complain ("battery " ++ device.id ++
      " reported thresholds " ++ toString result.actual.1 ++ "–" ++
      toString result.actual.2 ++ " after restoring " ++
      toString target.1 ++ "–" ++ toString target.2)⟩
  else if intent.policy then
    let config := pass.config.deviceMut device.id
      (·.accepts (some result.actual))
    ⟨true, true, device, { pass with config := config }⟩
  else ⟨true, false, device, pass⟩

def applyTarget (pass : Pass) (device : Device) (intent : ThresholdIntent)
    (target : Thresholds) : Effect Applied :=
  if targetIsApplied intent.observed target intent.accepted intent.temporary
      intent.policy then do
    if intent.restoration = true ∧
        intent.observed = (some target.1, some target.2) then
      note (.found device.id target)
    return ⟨true, false, device, pass⟩
  else if !intent.canControl then pure ⟨false, false, device, pass⟩
  else do
    match ← attempt (setThresholds device.id target) with
    | .ok result => return written pass device intent target result
    | .error failure =>
        return ⟨false, false, device, pass.complain failure.message⟩

def applyThreshold (pass : Pass) (device : Device)
    (intent : ThresholdIntent) : Effect Applied :=
  match intent.target with
  | none => pure ⟨false, false, device, pass⟩
  | some target => applyTarget pass device intent target

/-- How far a pass is with the thresholds of the batteries. -/
structure Progress where
  restored : Bool
  changed : Bool
  devices : List Device
  pass : Pass

def reconcileDevice (finishChargeOnce : Bool) (progress : Progress)
    (device : Device) : Effect Progress := do
  let pass := progress.pass
  let applied ← applyThreshold pass device
    (pass.thresholdIntent finishChargeOnce device)
  return {
    restored :=
      if pass.runtime.chargeOnceActive = true ∧
          device.id = pass.runtime.chargeOnceBatteryId then applied.applied
      else progress.restored
    changed := progress.changed || applied.changed
    devices := progress.devices ++ [applied.device]
    pass := applied.pass }

def reconcileDevices (finishChargeOnce : Bool) :
    Progress → List Device → Effect Progress
  | progress, [] => pure progress
  | progress, device :: devices => do
      let progress ← reconcileDevice finishChargeOnce progress device
      reconcileDevices finishChargeOnce progress devices

def reconcileThresholds (pass : Pass) (finishChargeOnce : Bool) :
    Effect Progress := do
  let progress ← reconcileDevices finishChargeOnce ⟨false, false, [], pass⟩
    pass.state.devices
  return { progress with pass := { progress.pass with state :=
    { progress.pass.state with devices := progress.devices } } }

/-- Save the configuration after a battery has been written. -/
def persistConfig (pass : Pass) (changed : Bool) : Effect Pass :=
  if changed then do
    let saved ← attempt (saveConfig pass.config)
    return pass.complainOf saved
  else pure pass

/-- The record after charging once, without the battery that is known again. -/
def chargedOnce (runtime : Runtime) : Runtime :=
  Runtime.default.uncertainOf (runtime.unfence runtime.chargeOnceBatteryId)

def finishChargeOnceIfDue (pass : Pass) (due restored : Bool) : Effect Pass :=
  if !due then pure pass
  else if !restored then
    pure (pass.complain ("cannot verify restored charge thresholds for " ++
      pass.runtime.chargeOnceBatteryId ++ ": the battery is absent, " ++
      "unsupported, or reported different values"))
  else persist { pass with runtime := chargedOnce pass.runtime }

/-! ### A pass -/

def warnOfUncertain (pass : Pass) : Pass :=
  if pass.runtime.authorizationUncertainBatteries.isEmpty then pass
  else pass.complain ("Battery write outcome unknown; automatic writes for " ++
    "the affected battery paused. Inspect current state before another action.")

def resume (pass : Pass) : Effect Pass := do
  let (settled, pass) ← reconcileRuntimeOperation pass
  if settled then persist pass else return pass

/-- `reconcile_and_decorate` -/
def reconcileAndDecorate (state : State) : Effect State := do
  let pass ← load state
  let pass ← migrateChargeOnceBattery pass
  let pass ← resume (warnOfUncertain pass)
  let now ← unixMs
  let due := pass.chargeOnceIsDue now
  let progress ← reconcileThresholds pass due
  let pass ← persistConfig progress.pass progress.changed
  let pass ← finishChargeOnceIfDue pass due progress.restored
  return decorate pass.state pass.config pass.runtime pass.policyError

end Pass

end BarDaemon.BatteryProtection
