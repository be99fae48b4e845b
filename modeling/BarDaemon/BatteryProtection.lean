import BarDaemon.MachineIntegers
import BarDaemon.OrderedMaps
import BarDaemon.PowerAutomation

/-!
# The records of the battery protection

The configuration says how every battery is protected.  The runtime record
says what has been lifted for a while, which thresholds are to be restored
then, and for which batteries a write has ended without an answer.
-/

namespace BarDaemon.BatteryProtection

open Std PowerProfiles

/-! ### The configuration -/

/-- Charging starts below the first threshold and ends at the second. -/
abbrev Thresholds : Type :=
  Nat × Nat

/-- `Option::zip` -/
def thresholds : Option Nat → Option Nat → Option Thresholds
  | some start, some finish => some (start, finish)
  | _, _ => none

@[simp]
theorem thresholds_eq_some_iff {start finish : Option Nat}
    {target : Thresholds} :
    thresholds start finish = some target ↔
      start = some target.1 ∧ finish = some target.2 := by
  cases start <;> cases finish <;> simp [thresholds, Prod.ext_iff]

def validThresholds (start finish : Nat) : Bool :=
  start < finish && finish ≤ 100

def validateBatteryId (batteryId : String) : Except String Unit :=
  match batteryId.toList with
  | 'B' :: 'A' :: 'T' :: suffix =>
      if suffix.isEmpty || !suffix.all Char.isDigit then
        .error "battery id must match BAT followed by digits"
      else .ok ()
  | _ => .error ("battery id " ++ batteryId ++ " must start with BAT")

/-- `BatteryDeviceConfig` -/
structure DeviceConfig where
  manageThresholds : Bool
  protectionEnabled : Bool
  protectedStartPercent : Nat
  protectedEndPercent : Nat
  acceptedReportedStartPercent : Option Nat
  acceptedReportedEndPercent : Option Nat
deriving DecidableEq, Repr

namespace DeviceConfig

def default : DeviceConfig :=
  ⟨false, false, 75, 80, none, none⟩

def desiredThresholds (device : DeviceConfig) : Thresholds :=
  if device.protectionEnabled then
    (device.protectedStartPercent, device.protectedEndPercent)
  else (0, 100)

def validate (device : DeviceConfig) : Except String Unit :=
  if !validThresholds device.protectedStartPercent
      device.protectedEndPercent then
    .error "protection thresholds must satisfy 0 <= start < end <= 100"
  else
    match device.acceptedReportedStartPercent,
      device.acceptedReportedEndPercent with
    | some _, some _ => .ok ()
    | none, none => .ok ()
    | _, _ =>
        .error "accepted reported thresholds must both be present or absent"

/-- What the helper has read back is taken for the desired thresholds. -/
def accepts (device : DeviceConfig) (reported : Option Thresholds) :
    DeviceConfig :=
  { device with
    acceptedReportedStartPercent := reported.map Prod.fst
    acceptedReportedEndPercent := reported.map Prod.snd }

end DeviceConfig

/-- `BatteryPolicyState` -/
structure PolicyState where
  warningPercent : Nat
  criticalPercent : Nat
  notifyWarning : Bool
  notifyCritical : Bool
  warningProfile : ProfileAction
  criticalProfile : ProfileAction
  recoveryMarginPercent : Nat
  notifyWhenFull : Bool
  autoPowerSaver : Bool
deriving DecidableEq, Repr

/-- `BatteryConfig` -/
structure Config where
  warningPercent : Nat
  criticalPercent : Nat
  notifyWhenFull : Bool
  autoPowerSaver : Bool
  notifyWarning : Bool
  notifyCritical : Bool
  warningProfile? : Option ProfileAction
  criticalProfile? : Option ProfileAction
  manageThresholds : Bool
  protectionEnabled : Bool
  protectedStartPercent : Nat
  protectedEndPercent : Nat
  devices : ExtTreeMap String DeviceConfig

namespace Config

def default : Config where
  warningPercent := 25
  criticalPercent := 12
  notifyWhenFull := true
  autoPowerSaver := true
  notifyWarning := true
  notifyCritical := true
  warningProfile? := none
  criticalProfile? := none
  manageThresholds := false
  protectionEnabled := false
  protectedStartPercent := 75
  protectedEndPercent := 80
  devices := ∅

def legacyProfile (config : Config) : ProfileAction :=
  if config.autoPowerSaver then .powerSaver else .keepCurrent

def warningProfile (config : Config) : ProfileAction :=
  config.warningProfile?.getD config.legacyProfile

def criticalProfile (config : Config) : ProfileAction :=
  config.criticalProfile?.getD config.legacyProfile

def policy (config : Config) : PolicyState where
  warningPercent := config.warningPercent
  criticalPercent := config.criticalPercent
  notifyWhenFull := config.notifyWhenFull
  notifyWarning := config.notifyWarning
  notifyCritical := config.notifyCritical
  warningProfile := config.warningProfile
  criticalProfile := config.criticalProfile
  recoveryMarginPercent := recoveryMargin
  autoPowerSaver := config.warningProfile.profile.isSome ||
    config.criticalProfile.profile.isSome

def validate (config : Config) : Except String Unit :=
  if config.warningPercent < config.criticalPercent ∨
      100 < config.warningPercent then
    .error "alert percentages must satisfy 0 <= critical <= warning <= 100"
  else if !validThresholds config.protectedStartPercent
      config.protectedEndPercent then
    .error "protection thresholds must satisfy 0 <= start < end <= 100"
  else config.devices.toList.forM fun entry => do
    validateBatteryId entry.1
    entry.2.validate

/-- What the configuration says of a battery that it does not name. -/
def inherited (config : Config) : DeviceConfig :=
  { DeviceConfig.default with
    manageThresholds := config.manageThresholds
    protectionEnabled := config.protectionEnabled
    protectedStartPercent := config.protectedStartPercent
    protectedEndPercent := config.protectedEndPercent }

def device (config : Config) (batteryId : String) : DeviceConfig :=
  config.devices[batteryId]?.getD config.inherited

/-- Change a battery through `device_mut`. -/
def deviceMut (config : Config) (batteryId : String)
    (update : DeviceConfig → DeviceConfig) : Config :=
  { config with
    devices := config.devices.insert batteryId
      (update (config.device batteryId)) }

theorem device_deviceMut (config : Config) (batteryId other : String)
    (update : DeviceConfig → DeviceConfig) :
    (config.deviceMut batteryId update).device other =
      if batteryId = other then update (config.device batteryId)
      else config.device other := by
  rw [device, deviceMut, ExtTreeMap.getElem?_insert]
  by_cases same : batteryId = other
  · simp [same]
  · simp [same, device, inherited]

theorem device_default (batteryId : String) :
    default.device batteryId = DeviceConfig.default := by
  simp [device, default, inherited, DeviceConfig.default]

end Config

/-! ### The runtime record -/

/-- `CHARGE_ONCE_MAX_AGE` -/
def chargeOnceMaxAge : Nat :=
  24 * 60 * 60 * 1000

/-- `CALIBRATION_MAX_AGE` -/
def calibrationMaxAge : Nat :=
  48 * 60 * 60 * 1000

inductive OperationKind
  | none
  | inhibit
  | calibration
deriving DecidableEq, Repr

def OperationKind.text : OperationKind → String
  | .none => ""
  | .inhibit => "inhibit"
  | .calibration => "calibration"

inductive OperationPhase
  | none
  | paused
  | discharging
  | charging
  | restoring
deriving DecidableEq, Repr

def OperationPhase.text : OperationPhase → String
  | .none => ""
  | .paused => "paused"
  | .discharging => "discharging"
  | .charging => "charging"
  | .restoring => "restoring"

/-- `BatteryRuntimeState` -/
structure Runtime where
  authorizationUncertainBatteries : List String
  chargeOnceActive : Bool
  chargeOnceBatteryId : String
  chargeOnceStartedUnixMs : Nat
  chargeOnceExpiresUnixMs : Nat
  restoreStartPercent : Option Nat
  restoreEndPercent : Option Nat
  operation : OperationKind
  operationBatteryId : String
  operationPhase : OperationPhase
  operationStartedUnixMs : Nat
  operationExpiresUnixMs : Nat
  operationRestoreStartPercent : Option Nat
  operationRestoreEndPercent : Option Nat
deriving DecidableEq, Repr

namespace Runtime

def default : Runtime :=
  ⟨[], false, "", 0, 0, none, none, .none, "", .none, 0, 0, none, none⟩

def startChargeOnce (now : Nat) (batteryId : String)
    (restore : Thresholds) : Runtime :=
  { default with
    chargeOnceActive := true
    chargeOnceBatteryId := batteryId
    chargeOnceStartedUnixMs := now
    chargeOnceExpiresUnixMs := saturatingAdd now chargeOnceMaxAge
    restoreStartPercent := some restore.1
    restoreEndPercent := some restore.2 }

def startInhibit (now : Nat) (batteryId : String) : Runtime :=
  { default with
    operation := .inhibit
    operationBatteryId := batteryId
    operationPhase := .paused
    operationStartedUnixMs := now }

def startCalibration (now : Nat) (batteryId : String)
    (restore : Thresholds) : Runtime :=
  { default with
    operation := .calibration
    operationBatteryId := batteryId
    operationPhase := .discharging
    operationStartedUnixMs := now
    operationExpiresUnixMs := saturatingAdd now calibrationMaxAge
    operationRestoreStartPercent := some restore.1
    operationRestoreEndPercent := some restore.2 }

/-- The record of an operation that starts keeps the uncertain batteries. -/
def uncertainOf (runtime previous : Runtime) : Runtime :=
  { runtime with authorizationUncertainBatteries :=
      previous.authorizationUncertainBatteries }

def chargeOnceTargets (runtime : Runtime) (batteryId : String) : Bool :=
  runtime.chargeOnceActive && (runtime.chargeOnceBatteryId == "" ||
    runtime.chargeOnceBatteryId == batteryId)

def calibrates (runtime : Runtime) (batteryId : String) : Bool :=
  runtime.operation == .calibration && runtime.operationBatteryId == batteryId

def isExpired (runtime : Runtime) (now : Nat) : Bool :=
  runtime.chargeOnceActive && runtime.chargeOnceExpiresUnixMs != 0 &&
    runtime.chargeOnceExpiresUnixMs ≤ now

def hasDurableOperation (runtime : Runtime) : Bool :=
  runtime.chargeOnceActive || runtime.operation != .none

def operationExpired (runtime : Runtime) (now : Nat) : Bool :=
  runtime.operation != .none && runtime.operationExpiresUnixMs != 0 &&
    runtime.operationExpiresUnixMs ≤ now

/-- The thresholds from before charging once. -/
def restoration (runtime : Runtime) : Option Thresholds :=
  thresholds runtime.restoreStartPercent runtime.restoreEndPercent

/-- The thresholds from before the calibration. -/
def operationRestoration (runtime : Runtime) : Option Thresholds :=
  thresholds runtime.operationRestoreStartPercent
    runtime.operationRestoreEndPercent

def clearOperation (runtime : Runtime) : Runtime :=
  { runtime with
    operation := .none
    operationBatteryId := ""
    operationPhase := .none
    operationStartedUnixMs := 0
    operationExpiresUnixMs := 0
    operationRestoreStartPercent := none
    operationRestoreEndPercent := none }

def completeCalibrationRestoration (runtime : Runtime)
    (reported : Thresholds) (verified : Bool) : Except String Runtime :=
  if runtime.operation != .calibration then
    .error "no calibration to restore"
  else if verified && some reported.1 == runtime.operationRestoreStartPercent &&
      some reported.2 == runtime.operationRestoreEndPercent then
    .ok runtime.clearOperation
  else
    .error ("battery " ++ runtime.operationBatteryId ++
      " reported thresholds " ++ toString reported.1 ++ "–" ++
      toString reported.2 ++
      " after calibration restoration; recovery remains pending")

/-- A write to the battery has ended without an answer. -/
def fence (runtime : Runtime) (batteryId : String) : Runtime :=
  if runtime.authorizationUncertainBatteries.contains batteryId then runtime
  else
    { runtime with authorizationUncertainBatteries :=
        runtime.authorizationUncertainBatteries ++ [batteryId] }

theorem mem_fence (runtime : Runtime) (batteryId : String) : batteryId ∈
    (runtime.fence batteryId).authorizationUncertainBatteries := by
  unfold fence
  split_ifs with fenced
  · simpa using fenced
  · simp

/-- The state of the battery is known again. -/
def unfence (runtime : Runtime) (batteryId : String) : Runtime :=
  { runtime with authorizationUncertainBatteries :=
      runtime.authorizationUncertainBatteries.filter (· != batteryId) }

end Runtime

/-! ### What is read of the batteries -/

/-- `BatteryProtectionState` -/
structure ProtectionState where
  managed : Bool
  enabled : Bool
  startPercent : Option Nat
  endPercent : Option Nat
  desiredStartPercent : Option Nat
  desiredEndPercent : Option Nat
  desiredEnabled : Bool
  thresholdsVerified : Bool
  chargeOnceActive : Bool
  supportsStart : Bool
  supportsEnd : Bool
  chargeBehaviour : Option String
  availableBehaviours : List String
  error : Option String
deriving DecidableEq, Repr

def ProtectionState.default : ProtectionState :=
  ⟨false, false, none, none, none, none, false, false, false, false, false,
    none, [], none⟩

/-- `BatteryDeviceState` -/
structure Device where
  id : String
  percentage : Nat
  protection : ProtectionState
deriving DecidableEq, Repr

namespace Device

def observed (device : Device) : Option Thresholds :=
  thresholds device.protection.startPercent device.protection.endPercent

/-- `update_observed_thresholds` -/
def observes (device : Device) (reported : Thresholds) : Device :=
  { device with protection :=
      { device.protection with
        startPercent := some reported.1
        endPercent := some reported.2
        enabled := 0 < reported.1 || reported.2 < 100 } }

def behaves (device : Device) (behaviour : String) : Device :=
  { device with protection :=
      { device.protection with chargeBehaviour := some behaviour } }

end Device

/-- `BatteryOperationState` -/
structure OperationState where
  kind : String
  batteryId : String
  phase : String
  startedUnixMs : Nat
  expiresUnixMs : Nat
deriving DecidableEq, Repr

/-- `BatteryState` -/
structure State where
  available : Bool
  nativePath : String
  percentage : Nat
  state : String
  charging : Bool
  plugged : Bool
  warning : Bool
  critical : Bool
  policy : PolicyState
  operation : OperationState
  protection : ProtectionState
  devices : List Device
deriving DecidableEq, Repr

def appendError (error : Option String) (addition : String) :
    Option String :=
  some (match error with
    | some existing => existing ++ "; " ++ addition
    | none => addition)

def decorateProtection (protection : ProtectionState)
    (config : DeviceConfig) (runtime : Runtime) (batteryId : String)
    (policyError : Option String) : ProtectionState :=
  { protection with
    managed := config.manageThresholds
    desiredStartPercent := some config.protectedStartPercent
    desiredEndPercent := some config.protectedEndPercent
    desiredEnabled := config.protectionEnabled
    thresholdsVerified := thresholds protection.startPercent
      protection.endPercent == some config.desiredThresholds
    chargeOnceActive := runtime.chargeOnceTargets batteryId
    error := match policyError with
      | some error => appendError protection.error error
      | none => protection.error }

def semanticState (state : State) : String :=
  if state.operation.kind = "calibration" then "calibrating"
  else if state.operation.kind = "inhibit" then "charging-inhibited"
  else if state.charging then "charging"
  else if !state.plugged then
    if state.state = "fully-charged" then "fully-charged" else "discharging"
  else if state.protection.chargeBehaviour = some "force-discharge" then
    "calibrating"
  else if state.protection.chargeBehaviour = some "inhibit-charge" ∨
      state.protection.chargeBehaviour = some "inhibit-charge-awake" then
    "charging-inhibited"
  else if state.state = "fully-charged" then "fully-charged"
  else if state.state = "pending-charge" then "charge-paused"
  else if state.protection.enabled then "charge-paused"
  else "not-charging"

/-- `decorate`, before the texts that are shown. -/
def decorate (state : State) (config : Config) (runtime : Runtime)
    (policyError : Option String) : State :=
  let devices : List Device := state.devices.map fun device =>
    { device with
      protection := decorateProtection device.protection
        (config.device device.id) runtime device.id policyError }
  let state := { state with
    warning := state.available && !state.plugged &&
      state.percentage ≤ config.warningPercent
    critical := state.available && !state.plugged &&
      state.percentage ≤ config.criticalPercent
    policy := config.policy
    operation := ⟨runtime.operation.text, runtime.operationBatteryId,
      runtime.operationPhase.text, runtime.operationStartedUnixMs,
      runtime.operationExpiresUnixMs⟩
    devices := devices
    protection := match devices.find? fun device : Device =>
        device.id == state.nativePath with
      | some device => device.protection
      | none => .default }
  { state with state := semanticState state }

end BarDaemon.BatteryProtection
