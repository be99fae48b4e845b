import BarDaemon.BatteryPasses

/-!
# The requests of the battery protection

A request that lifts the thresholds first records which thresholds are to be
restored, and a start that the helper refuses is taken back.  A policy is
saved before it is applied, and restored where it is not.
-/

namespace BarDaemon.BatteryProtection

open Attempt Effect

inductive ErrorCode
  | configFailed
  | notPlugged
  | operationActive
  | operationFailed
  | operationInactive
  | operationUnsupported
  | protectionUnsupported
  | stateFailed
  | unavailable
  | validationError
deriving DecidableEq, Repr

namespace ErrorCode

def text : ErrorCode → String
  | .configFailed => "battery-config-failed"
  | .notPlugged => "battery-not-plugged"
  | .operationActive => "battery-operation-active"
  | .operationFailed => "battery-operation-failed"
  | .operationInactive => "battery-operation-inactive"
  | .operationUnsupported => "battery-operation-unsupported"
  | .protectionUnsupported => "battery-protection-unsupported"
  | .stateFailed => "battery-state-failed"
  | .unavailable => "battery-unavailable"
  | .validationError => "validation-error"

def fault (code : ErrorCode) (message : String) : Fault :=
  .refused code.text message

/-- An error of the daemon under this code. -/
def because (code : ErrorCode) (failure : Failure) : Fault :=
  code.fault failure.message

end ErrorCode

/-- `outcome-unknown` -/
def unknownFault (message : String) : Fault :=
  .refused "outcome-unknown" message

def helperError (failure : Failure) : Fault :=
  if failure.unknown then unknownFault failure.message
  else ErrorCode.operationFailed.because failure

/-! ### What a request needs -/

def requirePower (battery : State) (action : String) : Except Fault Unit :=
  if battery.plugged then .ok ()
  else .error (ErrorCode.notPlugged.fault
    (action ++ " requires external power"))

def requestedDevice (requested : Option String) (battery : State) :
    Except Fault Device :=
  match requested with
  | some id =>
      match battery.devices.find? (·.id == id) with
      | some device => .ok device
      | none => .error (ErrorCode.unavailable.fault
          ("battery " ++ id ++ " is unavailable"))
  | none =>
      match battery.devices.head? with
      | some device => .ok device
      | none => .error (ErrorCode.unavailable.fault
          "no controllable system battery is available")

def restorationThresholds (device : Device) (action : String) :
    Except Fault Thresholds :=
  match device.observed with
  | some thresholds => .ok thresholds
  | none => .error (ErrorCode.protectionUnsupported.fault
      (action ++ " requires readable charge thresholds"))

def requireBehaviour (battery : State) (batteryId behaviour action : String) :
    Except Fault Device := do
  let device ← requestedDevice (some batteryId) battery
  if device.protection.availableBehaviours.contains behaviour then
    return device
  else throw (ErrorCode.operationUnsupported.fault
    ("battery " ++ batteryId ++ " cannot " ++ action))

def optionalThresholds (start finish : Option Nat) :
    Except String (Option Thresholds) :=
  match start, finish with
  | none, none => .ok none
  | some start, some finish =>
      if validThresholds start finish then .ok (some (start, finish))
      else .error "battery start_percent must be lower than end_percent"
  | _, _ =>
      .error "battery start_percent and end_percent must be supplied together"

/-! ### Requests -/

/-- `AlertPolicyRequest` -/
structure AlertPolicyRequest where
  warningPercent : Option Nat
  criticalPercent : Option Nat
  notifyWhenFull : Option Bool
  autoPowerSaver : Option Bool
  notifyWarning : Option Bool
  notifyCritical : Option Bool
  warningProfile : Option PowerProfiles.ProfileAction
  criticalProfile : Option PowerProfiles.ProfileAction
deriving DecidableEq, Repr

namespace AlertPolicyRequest

def default : AlertPolicyRequest :=
  ⟨none, none, none, none, none, none, none, none⟩

/-- Set the profiles of both levels at once. -/
def profileOr (request : AlertPolicyRequest)
    (profile : PowerProfiles.ProfileAction) : PowerProfiles.ProfileAction :=
  match request.autoPowerSaver with
  | some true => .powerSaver
  | some false => .keepCurrent
  | none => profile

def applied (request : AlertPolicyRequest) (config : Config) : Config :=
  let config := { config with
    warningPercent := request.warningPercent.getD config.warningPercent
    criticalPercent := request.criticalPercent.getD config.criticalPercent
    notifyWhenFull := request.notifyWhenFull.getD config.notifyWhenFull
    -- The defaults of an older file are resolved before a part is changed.
    warningProfile? := some (request.warningProfile.getD
      (request.profileOr config.warningProfile))
    criticalProfile? := some (request.criticalProfile.getD
      (request.profileOr config.criticalProfile))
    notifyWarning := request.notifyWarning.getD config.notifyWarning
    notifyCritical := request.notifyCritical.getD config.notifyCritical }
  { config with autoPowerSaver := config.policy.autoPowerSaver }

def applyTo (request : AlertPolicyRequest) (config : Config) :
    Except String Config :=
  if request = .default then
    .error "battery.setAlertPolicy requires at least one policy field"
  else do
    let config := request.applied config
    config.validate
    return config

/-- The profiles that the request changes. -/
def requestedActions (request : AlertPolicyRequest) (config : Config) :
    List PowerProfiles.ProfileAction :=
  (request.warningProfile.filter (· != config.warningProfile)).toList ++
    (request.criticalProfile.filter (· != config.criticalProfile)).toList

/-- A profile that the running profile service does not offer. -/
def unavailable (request : AlertPolicyRequest) (config : Config)
    (offered : Option (List String)) : Option String :=
  match offered with
  | none => none
  | some profiles =>
      ((request.requestedActions config).filterMap
        PowerProfiles.ProfileAction.profile).find? fun profile =>
          !profiles.contains profile

end AlertPolicyRequest

inductive Request
  | setThresholds (batteryId : String) (startPercent endPercent : Nat)
  | setProtection (batteryId : Option String) (enabled : Bool)
      (startPercent endPercent : Option Nat)
  | chargeOnce (batteryId : Option String)
  | setChargingInhibited (batteryId : Option String) (enabled : Bool)
  | startCalibration (batteryId : Option String)
  | cancelCalibration (batteryId : Option String)
  | setAlertPolicy (request : AlertPolicyRequest)
deriving DecidableEq, Repr

structure Reply where
  battery : Except Failure State
  operation : Option (String × ThresholdWriteResult)

/-- What the daemon has published when a request comes. -/
structure Published where
  battery : State
  /-- The profiles of the profile service, while it is available. -/
  profiles : Option (List String)

namespace Requests

/-! ### Files and answers -/

def storeConfig (config : Config) : Effect Unit :=
  blaming ErrorCode.configFailed.because (saveConfig config)

def fetchRuntime : Effect Runtime :=
  blaming ErrorCode.stateFailed.because loadRuntime

def storeRuntime (runtime : Runtime) : Effect Unit :=
  blaming ErrorCode.stateFailed.because (saveRuntime runtime)

/-- `refresh_state` -/
def refreshState : Effect State := do
  let answer ← nextAnswer
  let state ← lift failing answer.supplies
  let pass ← Pass.load state
  return decorate pass.state pass.config pass.runtime pass.policyError

def batteryResponse (operation : Option (String × ThresholdWriteResult)) :
    Effect Reply := do
  let battery ← attempt refreshState
  return ⟨battery, operation⟩

/-- The helper has answered, so the state of the battery is known. -/
def hardwareResponse (batteryId : String)
    (result : Option ThresholdWriteResult) : Effect Reply := do
  let runtime ← fetchRuntime
  storeRuntime (runtime.unfence batteryId)
  batteryResponse (result.map fun result => (batteryId, result))

/-! ### Policies -/

def editablePolicy : Effect Config := do
  let config ← blaming ErrorCode.configFailed.because loadConfig
  let runtime ← fetchRuntime
  ensure (!runtime.hasDurableOperation) (ErrorCode.operationActive.fault
    "charge policy cannot change during a durable battery operation")
  return config

def savePolicyChange (next : Config) : Effect Reply := do
  storeConfig next
  batteryResponse none

/-- The policy has not been applied. -/
def restorePolicy {Value : Type} (previous : Config) (failure : Failure) :
    Effect Value := do
  blaming (fun rollback => ErrorCode.operationFailed.fault (failure.message ++
    "; battery configuration rollback also failed: " ++ rollback.message))
    (saveConfig previous)
  fail (helperError failure)

def applyPolicyChange (batteryId : String) (target : Thresholds)
    (previous next : Config) : Effect Reply := do
  storeConfig next
  match ← attempt (Effect.setThresholds batteryId target) with
  | .ok result => do
      storeConfig (next.deviceMut batteryId (·.accepts (some result.actual)))
      hardwareResponse batteryId (some result)
  | .error failure => restorePolicy previous failure

/-- `battery_set_thresholds`, for the battery. -/
def protectedBy (target : Thresholds) (device : DeviceConfig) :
    DeviceConfig :=
  let device := { device with
    protectedStartPercent := target.1
    protectedEndPercent := target.2 }
  if device.manageThresholds && device.protectionEnabled then
    device.accepts none
  else device

def setThresholds (batteryId : String) (target : Thresholds) :
    Effect Reply := do
  ensure (validThresholds target.1 target.2)
    (ErrorCode.validationError.fault
      "battery start_percent must be lower than end_percent")
  let previous ← editablePolicy
  let next := previous.deviceMut batteryId (protectedBy target)
  let device := next.device batteryId
  if device.manageThresholds && device.protectionEnabled then
    applyPolicyChange batteryId target previous next
  else savePolicyChange next

/-- `battery_set_protection`, for the battery. -/
def managed (enabled : Bool) (requested : Option Thresholds)
    (device : DeviceConfig) : DeviceConfig :=
  let device := { device with
    protectedStartPercent :=
      (requested.map Prod.fst).getD device.protectedStartPercent
    protectedEndPercent :=
      (requested.map Prod.snd).getD device.protectedEndPercent
    manageThresholds := true
    protectionEnabled := enabled }
  device.accepts none

def setProtection (published : Published) (batteryId : Option String)
    (enabled : Bool) (start finish : Option Nat) : Effect Reply := do
  let requested ← lift ErrorCode.validationError.fault
    (optionalThresholds start finish)
  let device ← lift id (requestedDevice batteryId published.battery)
  let previous ← editablePolicy
  let next := previous.deviceMut device.id (managed enabled requested)
  applyPolicyChange device.id (next.device device.id).desiredThresholds
    previous next

def setAlertPolicy (published : Published) (request : AlertPolicyRequest) :
    Effect Reply := do
  let config ← blaming ErrorCode.configFailed.because loadConfig
  let next ← lift ErrorCode.validationError.fault (request.applyTo config)
  match request.unavailable config published.profiles with
  | some profile => fail (ErrorCode.validationError.fault
      ("power profile is unavailable: " ++ profile))
  | none => savePolicyChange next

/-! ### Operations -/

/-- No other operation runs. -/
def requireIdle (runtime : Runtime) : Effect Unit :=
  ensure (!runtime.hasDurableOperation) (ErrorCode.operationActive.fault
    "another durable battery operation is already active")

/-- A start has been refused, so nothing is to be restored. -/
def rollbackRuntime {Value : Type} (previous : Runtime) (failure : Failure)
    (operation : String) : Effect Value :=
  if failure.unknown then fail (unknownFault failure.message)
  else do
    blaming (fun rollback => ErrorCode.operationFailed.fault
      (failure.message ++ "; " ++ operation ++
        " state rollback also failed: " ++ rollback.message))
      (saveRuntime previous)
    fail (ErrorCode.operationFailed.because failure)

def chargeOnce (published : Published) (batteryId : Option String) :
    Effect Reply := do
  lift id (requirePower published.battery "battery.chargeOnce")
  let device ← lift id (requestedDevice batteryId published.battery)
  let restore ← lift id (restorationThresholds device "battery.chargeOnce")
  let previous ← fetchRuntime
  requireIdle previous
  let now ← unixMs
  storeRuntime ((Runtime.startChargeOnce now device.id restore).uncertainOf
    previous)
  match ← attempt (Effect.setThresholds device.id (0, 100)) with
  | .ok result => hardwareResponse device.id (some result)
  | .error failure => rollbackRuntime previous failure "charge-once"

def startChargingInhibition (batteryId : String) (previous : Runtime) :
    Effect Unit := do
  requireIdle previous
  let now ← unixMs
  storeRuntime ((Runtime.startInhibit now batteryId).uncertainOf previous)
  match ← attempt (setChargeBehaviour batteryId "inhibit-charge") with
  | .ok _ => return ()
  | .error failure => rollbackRuntime previous failure "inhibition"

def stopChargingInhibition (batteryId : String) (runtime : Runtime) :
    Effect Unit := do
  ensure (runtime.operation == .inhibit &&
    runtime.operationBatteryId == batteryId)
    (ErrorCode.operationInactive.fault
      ("charging is not durably inhibited for " ++ batteryId))
  let _ ← blaming helperError (setChargeBehaviour batteryId "auto")
  storeRuntime runtime.clearOperation

def setChargingInhibited (published : Published) (batteryId : Option String)
    (enabled : Bool) : Effect Reply := do
  let device ← lift id (requestedDevice batteryId published.battery)
  let _ ← lift id (requireBehaviour published.battery device.id
    "inhibit-charge" "inhibit charging")
  let previous ← fetchRuntime
  if enabled then startChargingInhibition device.id previous
  else stopChargingInhibition device.id previous
  hardwareResponse device.id none

/-- The record from before is put back, whatever else has failed. -/
def putBack {Value : Type} (previous : Runtime) (message : String) :
    Effect Value := do
  match ← attempt (saveRuntime previous) with
  | .ok _ => fail (ErrorCode.operationFailed.fault message)
  | .error error => fail (ErrorCode.operationFailed.fault (message ++
      "; calibration state rollback also failed: " ++ error.message))

/-- The thresholds have been lifted, but the battery does not discharge. -/
def rollbackCalibrationHardware {Value : Type} (batteryId : String)
    (restore : Thresholds) (previous : Runtime) (failure : Failure) :
    Effect Value :=
  if failure.unknown then fail (unknownFault failure.message)
  else do
    let outcome ← attempt (Effect.setThresholds batteryId restore)
    let message := failure.message ++ match outcome with
      | .ok result =>
          if result.verified then ""
          else "; threshold rollback reported " ++
            toString result.actual.1 ++ "–" ++ toString result.actual.2 ++
            " instead of " ++ toString restore.1 ++ "–" ++
            toString restore.2
      | .error error =>
          "; threshold rollback also failed: " ++ error.message
    match outcome with
    | .error ⟨true, _⟩ => fail (unknownFault message)
    | _ => putBack previous message

def beginCalibration (batteryId : String) (restore : Thresholds)
    (previous : Runtime) : Effect Unit := do
  requireIdle previous
  let now ← unixMs
  storeRuntime ((Runtime.startCalibration now batteryId restore).uncertainOf
    previous)
  match ← attempt (Effect.setThresholds batteryId (0, 100)) with
  | .error failure => rollbackRuntime previous failure "calibration"
  | .ok _ => do
      match ← attempt (setChargeBehaviour batteryId "force-discharge") with
      | .ok _ => return ()
      | .error failure =>
          rollbackCalibrationHardware batteryId restore previous failure

def startCalibration (published : Published) (batteryId : Option String) :
    Effect Reply := do
  let device ← lift id (requestedDevice batteryId published.battery)
  lift id (requirePower published.battery "battery calibration")
  let device ← lift id (requireBehaviour published.battery device.id
    "force-discharge" "force discharge")
  let restore ← lift id (restorationThresholds device "battery calibration")
  let previous ← fetchRuntime
  beginCalibration device.id restore previous
  hardwareResponse device.id none

def cancelCalibration (published : Published) (batteryId : Option String) :
    Effect Reply := do
  let device ← lift id (requestedDevice batteryId published.battery)
  let runtime ← fetchRuntime
  ensure (runtime.calibrates device.id) (ErrorCode.operationInactive.fault
    ("battery " ++ device.id ++ " is not being calibrated"))
  -- The cancellation is on the disk before the hardware is touched.
  let runtime := { runtime with operationPhase := .restoring }
  storeRuntime runtime
  let _ ← blaming helperError (setChargeBehaviour device.id "auto")
  match runtime.operationRestoration with
  | none => fail (ErrorCode.stateFailed.fault
      "calibration restoration thresholds are missing")
  | some restore => do
      let result ← blaming helperError
        (Effect.setThresholds device.id restore)
      let runtime ← lift ErrorCode.operationFailed.fault
        (runtime.completeCalibrationRestoration result.actual
          result.verified)
      storeRuntime runtime
      hardwareResponse device.id none

def dispatch (published : Published) : Request → Effect Reply
  | .setThresholds batteryId start finish =>
      setThresholds batteryId (start, finish)
  | .setProtection batteryId enabled start finish =>
      setProtection published batteryId enabled start finish
  | .chargeOnce batteryId => chargeOnce published batteryId
  | .setChargingInhibited batteryId enabled =>
      setChargingInhibited published batteryId enabled
  | .startCalibration batteryId => startCalibration published batteryId
  | .cancelCalibration batteryId => cancelCalibration published batteryId
  | .setAlertPolicy request => setAlertPolicy published request

end Requests

/-! ### The daemon -/

/-- What happens under the lock of the effects, with what is answered to it.
The process starts anew wherever the answers have ended. -/
inductive Event
  | pass (state : State) (answers : List Answer)
  | request (published : Published) (request : Request)
      (answers : List Answer)

namespace World

def step (world : World) : Event → World
  | .pass state answers =>
      (Pass.reconcileAndDecorate state { world with answers := answers }).2
  | .request published request answers =>
      (Requests.dispatch published request
        { world with answers := answers }).2

end World

end BarDaemon.BatteryProtection
