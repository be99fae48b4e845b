import BarDaemon.BatteryPassThresholds

/-!
# The requests keep what the daemon keeps

The record of a start is on the disk before the thresholds are lifted, and a
start that is taken back leaves the record from before, which owed nothing.
-/

namespace BarDaemon.BatteryProtection

open Attempt Effect

namespace Requests

variable {origin : World} {Q : World → Prop} {batteryId : String}
  {runtime previous : Runtime} {published : Published}

/-- A request has been asked for, so it may change a fenced battery. -/
abbrev Kept (origin : World) : World → Prop :=
  Guarded false origin

/-! ### Files and answers -/

theorem meets_fetchRuntime (stable : Stable Q) :
    Meets (Stays false origin Q) fetchRuntime
      (fun runtime => Stays false origin fun world =>
        Loaded origin runtime world ∧ Q world)
      (fun _ => Kept origin) := by
  apply ((meets_blaming (meets_loadRuntime
    (stable.stays false origin).popped)).weaken (fun _ holds => holds) ?_
    fun _ _ holds => holds.1)
  rintro runtime world ⟨⟨guarded, holds⟩, found⟩
  exact ⟨guarded, ⟨guarded.carries found, runtime, found,
    runtime.backs_self⟩, holds⟩

theorem meets_fetch :
    Meets (Kept origin) fetchRuntime
      (fun runtime => Stays false origin (Loaded origin runtime))
      (fun _ => Kept origin) :=
  (meets_fetchRuntime stable_true).weaken (fun _ holds => ⟨holds, trivial⟩)
    (fun _ _ holds => ⟨holds.1, holds.2.1⟩) fun _ _ holds => holds

theorem meets_storeRuntime {after : World → Prop} (stable : Stable Q)
    (carries : ∀ world, Q world → Carries origin runtime world)
    (puts : ∀ world, Q world →
      after { world with runtime := .holds runtime }) :
    Meets (Stays false origin Q) (storeRuntime runtime)
      (fun _ => Stays false origin after) (fun _ => Kept origin) :=
  meets_blaming ((meets_saveRuntime stable carries puts).weaken
    (fun _ holds => holds) (fun _ _ holds => holds)
    fun _ _ holds => holds.elim (·.1) (·.1))

theorem meets_storeConfig {config : Config} {after : World → Prop}
    (stable : Stable Q) (loads : origin.config.Loads)
    (puts : ∀ world, Q world → config.validate = .ok () →
      after { world with config := .holds config }) :
    Meets (Stays false origin Q) (storeConfig config)
      (fun _ => Stays false origin after) (fun _ => Kept origin) :=
  meets_blaming ((meets_saveConfig stable loads puts).weaken
    (fun _ holds => holds) (fun _ _ holds => holds)
    fun _ _ holds => holds.elim (·.1) (·.1))

theorem meets_refreshState :
    Meets (Kept origin) refreshState (fun _ => Kept origin)
      (fun _ => Kept origin) := by
  have settled := Pass.settled_guarded false origin
  apply (meets_nextAnswer settled.popped).bind
  intro answer
  apply meets_lift_bind
  · exact fun _ _ holds => holds
  · intro state _
    apply (Pass.meets_load state).bind
    intro pass
    apply meets_pure
    rintro world ⟨_, _, guarded, _⟩
    exact guarded

theorem meets_batteryResponse
    (operation : Option (String × ThresholdWriteResult)) :
    Meets (Kept origin) (batteryResponse operation) (fun _ => Kept origin)
      (fun _ => Kept origin) := by
  apply meets_attempt_bind meets_refreshState fun _ holds => holds
  · exact fun _ => meets_pure fun _ holds => holds
  · exact fun _ => meets_pure fun _ holds => holds

theorem meets_hardwareResponse (result : Option ThresholdWriteResult) :
    Meets
      (Stays false origin fun world => Known batteryId (world.since origin))
      (hardwareResponse batteryId result) (fun _ => Kept origin)
      (fun _ => Kept origin) := by
  apply (meets_fetchRuntime (stable_known origin batteryId)).bind
  intro runtime
  have stores : Meets
      (Stays false origin fun world => Loaded origin runtime world ∧
        Known batteryId (world.since origin))
      (storeRuntime (runtime.unfence batteryId))
      (fun _ => Stays false origin fun _ => True) (fun _ => Kept origin) :=
    meets_storeRuntime
      ((stable_loaded origin runtime).and (stable_known origin batteryId))
      (fun _ holds => holds.1.1.unfenced holds.2) fun _ _ => trivial
  apply stores.bind
  intro _
  exact (meets_batteryResponse _).weaken (fun _ holds => holds.1)
    (fun _ _ holds => holds) fun _ _ holds => holds

/-! ### Policies -/

theorem meets_editConfig :
    Meets (Kept origin) (blaming ErrorCode.configFailed.because loadConfig)
      (fun _ world => origin.config.Loads ∧ Kept origin world)
      (fun _ => Kept origin) :=
  (meets_blaming (meets_loadConfig
    (Pass.settled_guarded false origin).popped)).weaken (fun _ holds => holds)
    (fun _ _ holds => ⟨Pass.loads_of_gives holds.1 holds.2, holds.1⟩)
    fun _ _ holds => holds

theorem meets_editablePolicy :
    Meets (Kept origin) editablePolicy
      (fun _ world => origin.config.Loads ∧ Kept origin world)
      (fun _ => Kept origin) := by
  apply meets_editConfig.bind
  intro config
  apply meets_of_fact fun _ holds => holds.1
  intro loads
  apply (meets_fetch.weaken (fun _ holds => holds.2) (fun _ _ holds => holds)
    fun _ _ holds => holds).bind
  intro runtime
  apply meets_ensure_bind fun _ holds => holds.1
  exact fun _ => meets_pure fun _ holds => ⟨loads, holds.1⟩

theorem meets_savePolicyChange (loads : origin.config.Loads)
    (next : Config) :
    Meets (Kept origin) (savePolicyChange next) (fun _ => Kept origin)
      (fun _ => Kept origin) := by
  have stores : Meets (Stays false origin fun _ => True) (storeConfig next)
      (fun _ => Stays false origin fun _ => True) (fun _ => Kept origin) :=
    meets_storeConfig stable_true loads fun _ _ _ => trivial
  apply (stores.weaken (fun _ holds => ⟨holds, trivial⟩)
    (fun _ _ holds => holds) fun _ _ holds => holds).bind
  intro _
  exact (meets_batteryResponse none).weaken (fun _ holds => holds.1)
    (fun _ _ holds => holds) fun _ _ holds => holds

theorem meets_restorePolicy {Value : Type} (loads : origin.config.Loads)
    (config : Config) (failure : Failure) :
    Meets (Kept origin) (restorePolicy config failure : Effect Value)
      (fun _ => Kept origin) (fun _ => Kept origin) := by
  have saved : Meets (Stays false origin fun _ => True) (saveConfig config)
      (fun _ => Stays false origin fun _ => True)
      (fun _ world => Stays false origin (fun _ => True) world ∨
        Stays false origin (fun _ => True) world) :=
    meets_saveConfig stable_true loads fun _ _ _ => trivial
  have saves : Meets (Stays false origin fun _ => True) (saveConfig config)
      (fun _ => Kept origin) (fun _ => Kept origin) :=
    saved.weaken (fun _ holds => holds) (fun _ _ holds => holds.1)
      fun _ _ holds => holds.elim (·.1) (·.1)
  apply ((meets_blaming saves).weaken (fun _ holds => ⟨holds, trivial⟩)
    (fun _ _ holds => holds) fun _ _ holds => holds).bind
  exact fun _ => meets_fail fun _ holds => holds

theorem meets_applyPolicyChange (loads : origin.config.Loads)
    {target : Thresholds} {next : Config} (config : Config)
    (manages : (next.device batteryId).manageThresholds = true)
    (desired : (next.device batteryId).desiredThresholds = target) :
    Meets (Kept origin) (applyPolicyChange batteryId target config next)
      (fun _ => Kept origin) (fun _ => Kept origin) := by
  have given : Stable fun world : World => world.config.Gives next := by
    intro world after quiet gives
    rwa [quiet.config]
  have stores : Meets (Stays false origin fun _ => True) (storeConfig next)
      (fun _ => Stays false origin fun world => world.config.Gives next)
      (fun _ => Kept origin) :=
    meets_storeConfig stable_true loads fun _ _ valid => ⟨rfl, valid⟩
  apply (stores.weaken (fun _ holds => ⟨holds, trivial⟩)
    (fun _ _ holds => holds) fun _ _ holds => holds).bind
  intro _
  have asks := meets_setThresholds given
    (fun world (_ : Guarded false origin world) gives =>
      (⟨.inl ⟨next, gives, manages, desired⟩, fun automatic => by
        cases automatic⟩ :
          (Mark.asked batteryId target world.config world.runtime).Allowed
            false origin (world.since origin)))
  apply meets_attempt_bind asks fun _ holds => holds.1
  · intro result
    have accepts : Meets
        (Stays false origin fun world =>
          Known batteryId (world.since origin))
        (storeConfig (next.deviceMut batteryId
          (·.accepts (some result.actual))))
        (fun _ => Stays false origin fun world =>
          Known batteryId (world.since origin))
        (fun _ => Kept origin) :=
      meets_storeConfig (stable_known origin batteryId) loads
        fun _ known _ => known
    apply (accepts.weaken (fun _ holds => ⟨holds.1.1, .inl holds.2.1⟩)
      (fun _ _ holds => holds) fun _ _ holds => holds).bind
    exact fun _ => meets_hardwareResponse (some result)
  · intro failure
    exact (meets_restorePolicy loads config failure).weaken
      (fun _ holds => holds.1) (fun _ _ holds => holds) fun _ _ holds => holds

theorem kept_setThresholds (target : Thresholds) :
    Meets (Kept origin) (setThresholds batteryId target)
      (fun _ => Kept origin) (fun _ => Kept origin) := by
  apply meets_ensure_bind
  · exact fun _ holds => holds
  intro _
  apply meets_editablePolicy.bind
  intro config
  apply meets_of_fact fun _ holds => holds.1
  intro loads
  apply Meets.weaken _ (fun _ holds => holds.2) (fun _ _ holds => holds)
    fun _ _ holds => holds
  apply meets_ite
  · intro active
    rw [Bool.and_eq_true] at active
    apply meets_applyPolicyChange loads config active.1
    rw [DeviceConfig.desiredThresholds, if_pos active.2,
      Config.device_deviceMut, if_pos rfl]
    simp only [protectedBy]
    split_ifs
    · rfl
    · rfl
  · exact fun _ => meets_savePolicyChange loads _

theorem kept_setProtection {requested : Option String} (enabled : Bool)
    (start finish : Option Nat) :
    Meets (Kept origin)
      (setProtection published requested enabled start finish)
      (fun _ => Kept origin) (fun _ => Kept origin) := by
  apply meets_lift_bind
  · exact fun _ _ holds => holds
  intro thresholds _
  apply meets_lift_bind
  · exact fun _ _ holds => holds
  intro device _
  apply meets_editablePolicy.bind
  intro config
  apply meets_of_fact fun _ holds => holds.1
  intro loads
  apply (meets_applyPolicyChange loads config _ rfl).weaken
    (fun _ holds => holds.2) (fun _ _ holds => holds) fun _ _ holds => holds
  rw [Config.device_deviceMut, if_pos rfl]
  rfl

theorem kept_setAlertPolicy (request : AlertPolicyRequest) :
    Meets (Kept origin) (setAlertPolicy published request)
      (fun _ => Kept origin) (fun _ => Kept origin) := by
  apply meets_editConfig.bind
  intro config
  apply meets_of_fact fun _ holds => holds.1
  intro loads
  apply meets_lift_bind
  · exact fun _ _ holds => holds.2
  intro next _
  cases request.unavailable config published.profiles with
  | some profile => exact meets_fail fun _ holds => holds.2
  | none =>
      exact (meets_savePolicyChange loads next).weaken
        (fun _ holds => holds.2) (fun _ _ holds => holds)
        fun _ _ holds => holds

/-! ### Operations -/

theorem carries_started {next : Runtime} {world : World}
    (carries : Carries origin previous world)
    (idle : previous.hasDurableOperation = false) (single : next.Single) :
    Carries origin (next.uncertainOf previous) world where
  readable := carries.readable
  debts batteryId target named owed := by
    rcases carries.debts batteryId target named owed with
      (⟨active, _⟩ | ⟨calibrates, _⟩) | shown
    · simp [Runtime.hasDurableOperation, active] at idle
    · rw [(Pass.idle_untargeted idle batteryId).2] at calibrates
      cases calibrates
    · exact .inr shown
  fences := carries.fences
  single := single

/-- What a start has to go by: its own record is on the disk, and the record
from before may be put back. -/
def Started (origin : World) (next previous : Runtime)
    (world : World) : Prop :=
  Loaded origin next world ∧ Carries origin previous world

theorem stable_started (origin : World) (next previous : Runtime) :
    Stable (Started origin next previous) :=
  (stable_loaded origin next).and (stable_carries origin previous)

/-- A start may lift what it has recorded. -/
theorem Started.allows_lifting {next : Runtime} {world : World}
    (started : Started origin next previous world)
    (lifts : Lifts next batteryId) :
    (Mark.asked batteryId (0, 100) world.config world.runtime).Allowed false
      origin (world.since origin) :=
  started.1.allows_lifting lifts fun automatic => by cases automatic

theorem meets_storeStarted {next : Runtime}
    (idle : previous.hasDurableOperation = false) (single : next.Single) :
    Meets (Stays false origin (Loaded origin previous))
      (storeRuntime (next.uncertainOf previous))
      (fun _ => Stays false origin
        (Started origin (next.uncertainOf previous) previous))
      (fun _ => Kept origin) :=
  meets_storeRuntime (stable_loaded origin previous)
    (fun _ loaded => carries_started loaded.1 idle single)
    fun world loaded =>
      ⟨⟨(carries_started loaded.1 idle single).mono List.prefix_rfl,
          backed_saved _ world⟩, loaded.1.mono List.prefix_rfl⟩

/-- The record from before is put back, and the request fails. -/
theorem meets_saveBack {Value : Type} {result : Value → World → Prop}
    {blame : Failure → Fault} (fault : Fault) :
    Meets (Stays false origin (Carries origin previous))
      (do
        blaming blame (saveRuntime previous)
        fail fault : Effect Value)
      result (fun _ => Kept origin) := by
  have saved : Meets (Stays false origin (Carries origin previous))
      (saveRuntime previous) (fun _ => Stays false origin fun _ => True)
      (fun _ world => Stays false origin (Carries origin previous) world ∨
        Stays false origin (fun _ => True) world) :=
    meets_saveRuntime (stable_carries origin previous)
      (fun _ carries => carries) fun _ _ => trivial
  have saves : Meets (Stays false origin (Carries origin previous))
      (saveRuntime previous) (fun _ => Kept origin) (fun _ => Kept origin) :=
    saved.weaken (fun _ holds => holds) (fun _ _ holds => holds.1)
      fun _ _ holds => holds.elim (·.1) (·.1)
  exact (meets_blaming saves).bind fun _ => meets_fail fun _ holds => holds

theorem meets_rollbackRuntime {Value : Type}
    {result : Value → World → Prop} {next : Runtime} (failure : Failure)
    (operation : String) :
    Meets (Stays false origin (Started origin next previous))
      (rollbackRuntime previous failure operation : Effect Value) result
      (fun _ => Kept origin) := by
  apply meets_ite
  · exact fun _ => meets_fail fun _ holds => holds.1
  · exact fun _ => (meets_saveBack _).weaken
      (fun _ holds => ⟨holds.1, holds.2.2⟩) (fun _ _ holds => holds)
      fun _ _ holds => holds

/-- The clock is read between the record and its start. -/
theorem meets_clock :
    Meets (Stays false origin (Loaded origin previous)) unixMs
      (fun _ => Stays false origin (Loaded origin previous))
      (fun _ => Kept origin) :=
  (meets_unixMs ((stable_loaded origin previous).stays false origin).popped)
    |>.weaken (fun _ holds => holds) (fun _ _ holds => holds)
      fun _ _ holds => holds.1

theorem kept_chargeOnce (requested : Option String) :
    Meets (Kept origin) (chargeOnce published requested)
      (fun _ => Kept origin) (fun _ => Kept origin) := by
  apply meets_lift_bind
  · exact fun _ _ holds => holds
  intro _ _
  apply meets_lift_bind
  · exact fun _ _ holds => holds
  intro device _
  apply meets_lift_bind
  · exact fun _ _ holds => holds
  intro restore _
  apply meets_fetch.bind
  intro previous
  apply meets_ensure_bind
  · exact fun _ holds => holds.1
  intro free
  have idle : previous.hasDurableOperation = false := by simpa using free
  apply meets_clock.bind
  intro now
  apply (meets_storeStarted idle fun _ => rfl).bind
  intro _
  have targets : ((Runtime.startChargeOnce now device.id restore).uncertainOf
      previous).chargeOnceTargets device.id = true := by
    simp [Runtime.chargeOnceTargets, Runtime.startChargeOnce,
      Runtime.uncertainOf]
  have asks := meets_setThresholds
    (stable_started origin
      ((Runtime.startChargeOnce now device.id restore).uncertainOf previous)
      previous)
    (fun world (_ : Guarded false origin world) started =>
      started.allows_lifting (.inl targets))
  apply meets_attempt_bind asks fun _ holds => holds.1
  · intro result
    exact (meets_hardwareResponse (some result)).weaken
      (fun _ holds => ⟨holds.1.1, .inl holds.2.1⟩) (fun _ _ holds => holds)
      fun _ _ holds => holds
  · exact fun failure => meets_rollbackRuntime failure "charge-once"

theorem meets_startChargingInhibition :
    Meets (Stays false origin (Loaded origin previous))
      (startChargingInhibition batteryId previous)
      (fun _ => Stays false origin fun world =>
        Known batteryId (world.since origin))
      (fun _ => Kept origin) := by
  apply meets_ensure_bind
  · exact fun _ holds => holds.1
  intro free
  have idle : previous.hasDurableOperation = false := by simpa using free
  apply meets_clock.bind
  intro now
  apply (meets_storeStarted idle fun impossible => by
    simp [Runtime.startInhibit, Runtime.default] at impossible).bind
  intro _
  have accounts : Accounts
      ((Runtime.startInhibit now batteryId).uncertainOf previous) batteryId
      "inhibit-charge" :=
    .inr (.inr ⟨rfl, rfl, rfl⟩)
  have tells := meets_setChargeBehaviour
    (stable_started origin
      ((Runtime.startInhibit now batteryId).uncertainOf previous) previous)
    (fun world (_ : Guarded false origin world) started =>
      started.1.allows_behaviour accounts fun automatic => by
        cases automatic)
  apply meets_attempt_bind tells fun _ holds => holds.1
  · exact fun _ => meets_pure fun _ holds => ⟨holds.1.1, .inl holds.2⟩
  · exact fun failure => meets_rollbackRuntime failure "inhibition"

theorem meets_stopChargingInhibition :
    Meets (Stays false origin (Loaded origin runtime))
      (stopChargingInhibition batteryId runtime)
      (fun _ => Stays false origin fun world =>
        Known batteryId (world.since origin))
      (fun _ => Kept origin) := by
  apply meets_ensure_bind
  · exact fun _ holds => holds.1
  intro inhibits
  simp only [Bool.and_eq_true, beq_iff_eq] at inhibits
  have tells := meets_setChargeBehaviour (stable_loaded origin runtime)
    fun world (_ : Guarded false origin world) _ =>
      allows_auto false origin world batteryId (world.since origin)
  apply ((meets_blaming tells).weaken (fun _ holds => holds)
    (fun _ _ holds => holds) fun _ _ holds => holds.1).bind
  intro _
  have both := (stable_loaded origin runtime).and
    (stable_known origin batteryId)
  have stores : Meets
      (Stays false origin fun world => Loaded origin runtime world ∧
        Known batteryId (world.since origin))
      (storeRuntime runtime.clearOperation)
      (fun _ => Stays false origin fun world =>
        Known batteryId (world.since origin))
      (fun _ => Kept origin) := by
    apply meets_storeRuntime both
    · rintro world ⟨loaded, _⟩
      apply loaded.1.cleared
      intro other target calibrates
      simp [Runtime.calibrates, inhibits.1] at calibrates
    · exact fun _ holds => holds.2
  exact stores.weaken
    (fun _ holds => ⟨holds.1.1, holds.1.2, .inl holds.2⟩)
    (fun _ _ holds => holds) fun _ _ holds => holds

theorem kept_setChargingInhibited (requested : Option String)
    (enabled : Bool) :
    Meets (Kept origin) (setChargingInhibited published requested enabled)
      (fun _ => Kept origin) (fun _ => Kept origin) := by
  apply meets_lift_bind
  · exact fun _ _ holds => holds
  intro device _
  apply meets_lift_bind
  · exact fun _ _ holds => holds
  intro _ _
  apply meets_fetch.bind
  intro previous
  cases enabled with
  | true =>
      exact meets_startChargingInhibition.bind fun _ =>
        meets_hardwareResponse none
  | false =>
      exact meets_stopChargingInhibition.bind fun _ =>
        meets_hardwareResponse none

theorem meets_putBack {Value : Type} {result : Value → World → Prop}
    {next : Runtime} (message : String) :
    Meets (Stays false origin (Started origin next previous))
      (putBack previous message : Effect Value) result
      (fun _ => Kept origin) := by
  have saved : Meets (Stays false origin (Started origin next previous))
      (saveRuntime previous) (fun _ => Stays false origin fun _ => True)
      (fun _ world =>
        Stays false origin (Started origin next previous) world ∨
          Stays false origin (fun _ => True) world) :=
    meets_saveRuntime (stable_started origin next previous)
      (fun _ started => started.2) fun _ _ => trivial
  have saves := saved.weaken (fun _ holds => holds)
    (fun _ _ holds => holds.1) fun _ _ holds => holds.elim (·.1) (·.1)
  apply meets_attempt_bind saves fun _ holds => holds
  · exact fun _ => meets_fail fun _ holds => holds
  · exact fun _ => meets_fail fun _ holds => holds

/-- The thresholds of a calibration that cannot go on are written back. -/
theorem meets_rollbackCalibrationHardware {Value : Type}
    {result : Value → World → Prop} {restore : Thresholds}
    (failure : Failure) {next : Runtime}
    (calibrates : next.calibrates batteryId = true)
    (restoration : next.operationRestoration = some restore) :
    Meets (Stays false origin (Started origin next previous))
      (rollbackCalibrationHardware batteryId restore previous failure :
        Effect Value)
      result (fun _ => Kept origin) := by
  apply meets_ite
  · exact fun _ => meets_fail fun _ holds => holds.1
  · intro _
    have asks := meets_setThresholds (stable_started origin next previous)
      (fun world (_ : Guarded false origin world) started =>
        started.1.allows_restoration calibrates restoration)
    apply meets_attempt_bind (asks.weaken (fun _ holds => holds)
      (fun _ _ holds => holds.1) fun _ _ holds => holds) fun _ holds => holds.1
    · exact fun _ => meets_putBack _
    · rintro ⟨unknown, message⟩
      cases unknown with
      | true => exact meets_fail fun _ holds => holds.1
      | false => exact meets_putBack _

theorem meets_beginCalibration (restore : Thresholds) :
    Meets (Stays false origin (Loaded origin previous))
      (beginCalibration batteryId restore previous)
      (fun _ => Stays false origin fun world =>
        Known batteryId (world.since origin))
      (fun _ => Kept origin) := by
  apply meets_ensure_bind
  · exact fun _ holds => holds.1
  intro free
  have idle : previous.hasDurableOperation = false := by simpa using free
  apply meets_clock.bind
  intro now
  apply (meets_storeStarted idle fun impossible => by
    simp [Runtime.startCalibration, Runtime.default] at impossible).bind
  intro _
  have calibrates : ((Runtime.startCalibration now batteryId
      restore).uncertainOf previous).calibrates batteryId = true := by
    simp [Runtime.calibrates, Runtime.startCalibration, Runtime.uncertainOf]
  have stable := stable_started origin
    ((Runtime.startCalibration now batteryId restore).uncertainOf previous)
    previous
  have asks := meets_setThresholds stable
    (fun world (_ : Guarded false origin world) started =>
      started.allows_lifting (.inr calibrates))
  apply meets_attempt_bind asks fun _ holds => holds.1
  · intro _
    have tells := meets_setChargeBehaviour stable
      (fun world (_ : Guarded false origin world) started =>
        started.1.allows_behaviour (.inr (.inl ⟨rfl, calibrates⟩))
          fun automatic => by cases automatic)
    apply meets_attempt_bind (tells.weaken (fun _ holds => holds.1)
      (fun _ _ holds => holds) fun _ _ holds => holds) fun _ holds => holds.1
    · exact fun _ => meets_pure fun _ holds => ⟨holds.1.1, .inl holds.2⟩
    · exact fun failure =>
        meets_rollbackCalibrationHardware failure calibrates rfl
  · exact fun failure => meets_rollbackRuntime failure "calibration"

theorem kept_startCalibration (requested : Option String) :
    Meets (Kept origin) (startCalibration published requested)
      (fun _ => Kept origin) (fun _ => Kept origin) := by
  apply meets_lift_bind
  · exact fun _ _ holds => holds
  intro _ _
  apply meets_lift_bind
  · exact fun _ _ holds => holds
  intro _ _
  apply meets_lift_bind
  · exact fun _ _ holds => holds
  intro device _
  apply meets_lift_bind
  · exact fun _ _ holds => holds
  intro restore _
  apply meets_fetch.bind
  intro previous
  exact (meets_beginCalibration restore).bind fun _ =>
    meets_hardwareResponse none

/-- A calibration is cancelled once its thresholds have been read back. -/
theorem meets_finishCalibration {restore : Thresholds}
    (calibrates : runtime.calibrates batteryId = true)
    (restoration : runtime.operationRestoration = some restore) :
    Meets (Stays false origin (Loaded origin runtime))
      (do
        let result ← blaming helperError
          (Effect.setThresholds batteryId restore)
        let runtime ← lift ErrorCode.operationFailed.fault
          (runtime.completeCalibrationRestoration result.actual
            result.verified)
        storeRuntime runtime
        hardwareResponse batteryId none)
      (fun _ => Kept origin) (fun _ => Kept origin) := by
  have stable := stable_loaded origin runtime
  have asks := meets_setThresholds stable
    (fun world (_ : Guarded false origin world) loaded =>
      loaded.allows_restoration calibrates restoration)
  apply ((meets_blaming asks).weaken (fun _ holds => holds)
    (fun _ _ holds => holds) fun _ _ holds => holds.1).bind
  intro result
  apply meets_lift_bind
  · exact fun _ _ holds => holds.1.1
  intro after completed
  obtain ⟨verified, _, rfl⟩ :=
    Pass.completeCalibrationRestoration_eq_ok completed
  have shown := (stable.and (stable_shown origin batteryId restore)).and
    (stable_known origin batteryId)
  have stores : Meets
      (Stays false origin fun world => (Loaded origin runtime world ∧
        Shown batteryId restore (world.since origin)) ∧
        Known batteryId (world.since origin))
      (storeRuntime runtime.clearOperation)
      (fun _ => Stays false origin fun world =>
        Known batteryId (world.since origin))
      (fun _ => Kept origin) := by
    apply meets_storeRuntime shown
    · rintro world ⟨⟨loaded, back⟩, _⟩
      apply loaded.1.cleared
      intro other target others owed
      simp only [Runtime.calibrates, Bool.and_eq_true, beq_iff_eq]
        at calibrates others
      obtain rfl := others.2.symm.trans calibrates.2
      obtain rfl := Option.some.inj (owed.symm.trans restoration)
      exact back
    · exact fun _ holds => holds.2
  apply (stores.weaken _ (fun _ _ holds => holds)
    fun _ _ holds => holds).bind
  · exact fun _ => meets_hardwareResponse none
  · rintro world ⟨⟨guarded, loaded⟩, answered, confirmed⟩
    exact ⟨guarded, ⟨loaded, .inl (confirmed verified).2⟩, .inl answered⟩

theorem kept_cancelCalibration (requested : Option String) :
    Meets (Kept origin) (cancelCalibration published requested)
      (fun _ => Kept origin) (fun _ => Kept origin) := by
  apply meets_lift_bind
  · exact fun _ _ holds => holds
  intro device _
  apply meets_fetch.bind
  intro runtime
  apply meets_ensure_bind
  · exact fun _ holds => holds.1
  intro calibrates
  have stores : Meets (Stays false origin (Loaded origin runtime))
      (storeRuntime { runtime with operationPhase := .restoring })
      (fun _ => Stays false origin
        (Loaded origin { runtime with operationPhase := .restoring }))
      (fun _ => Kept origin) :=
    meets_storeRuntime (stable_loaded origin runtime)
      (fun _ loaded => loaded.restoring.1) fun _ loaded =>
        loaded.restoring.saved
  apply stores.bind
  intro _
  have tells := meets_setChargeBehaviour
    (stable_loaded origin { runtime with operationPhase := .restoring })
    fun world (_ : Guarded false origin world) _ =>
      allows_auto false origin world device.id (world.since origin)
  apply ((meets_blaming tells).weaken (fun _ holds => holds)
    (fun _ _ holds => holds.1) fun _ _ holds => holds.1).bind
  intro _
  cases restoration : Runtime.operationRestoration
      { runtime with operationPhase := .restoring } with
  | none => exact meets_fail fun _ holds => holds.1
  | some restore => exact meets_finishCalibration calibrates restoration

/-- Whatever becomes of a request, it keeps what the daemon keeps. -/
theorem meets_dispatch (request : Request) :
    Meets (Kept origin) (dispatch published request) (fun _ => Kept origin)
      (fun _ => Kept origin) := by
  cases request with
  | setThresholds batteryId start finish => exact kept_setThresholds _
  | setProtection batteryId enabled start finish =>
      exact kept_setProtection enabled start finish
  | chargeOnce batteryId => exact kept_chargeOnce batteryId
  | setChargingInhibited batteryId enabled =>
      exact kept_setChargingInhibited batteryId enabled
  | startCalibration batteryId => exact kept_startCalibration batteryId
  | cancelCalibration batteryId => exact kept_cancelCalibration batteryId
  | setAlertPolicy request => exact kept_setAlertPolicy request

end Requests

end BarDaemon.BatteryProtection
