import BarDaemon.BatteryEffectRules

/-!
# The passes keep what the daemon keeps

A pass decides by what it has in its memory.  The memory holds every debt and
every fence of the record, and the record knows every operation that the
memory knows, so each may stand for the other.
-/

namespace BarDaemon.BatteryProtection

open Attempt Effect

/-! ### The memory of a pass -/

/-- The record knows the operation of another one. -/
structure Runtime.Backs (record runtime : Runtime) : Prop where
  targets : ∀ batteryId, runtime.chargeOnceTargets batteryId = true →
    record.chargeOnceTargets batteryId = true
  restoration : runtime.chargeOnceActive = true →
    record.restoration = runtime.restoration
  operation : runtime.operation ≠ .none →
    record.operation = runtime.operation ∧
      record.operationBatteryId = runtime.operationBatteryId ∧
      record.operationRestoration = runtime.operationRestoration

theorem Runtime.backs_self (runtime : Runtime) : runtime.Backs runtime where
  targets _ := id
  restoration _ := rfl
  operation _ := ⟨rfl, rfl, rfl⟩

theorem Runtime.Backs.calibrates {record runtime : Runtime}
    (backs : record.Backs runtime) {batteryId : String}
    (calibrates : runtime.calibrates batteryId = true) :
    record.calibrates batteryId = true ∧
      record.operationRestoration = runtime.operationRestoration := by
  simp only [Runtime.calibrates, Bool.and_eq_true, beq_iff_eq]
    at calibrates ⊢
  obtain ⟨operation, battery⟩ := calibrates
  obtain ⟨same, id, restoration⟩ := backs.operation (by simp [operation])
  exact ⟨⟨same.trans operation, id.trans battery⟩, restoration⟩

def Backed (runtime : Runtime) (world : World) : Prop :=
  ∃ record, world.record = some record ∧ record.Backs runtime

theorem stable_backed (runtime : Runtime) : Stable (Backed runtime) := by
  rintro world after quiet ⟨record, found, backs⟩
  obtain ⟨fences, recorded, _⟩ := quiet.record record found
  exact ⟨_, recorded, backs.targets, backs.restoration, backs.operation⟩

theorem backed_saved (runtime : Runtime) (world : World) :
    Backed runtime { world with runtime := .holds runtime } :=
  ⟨runtime, rfl, runtime.backs_self⟩

/-- A record in the memory that may be saved, and that the disk knows. -/
def Loaded (origin : World) (runtime : Runtime) (world : World) : Prop :=
  Carries origin runtime world ∧ Backed runtime world

theorem stable_loaded (origin : World) (runtime : Runtime) :
    Stable (Loaded origin runtime) :=
  (stable_carries origin runtime).and (stable_backed runtime)

theorem Loaded.saved {origin world : World} {runtime : Runtime}
    (loaded : Loaded origin runtime world) :
    Loaded origin runtime { world with runtime := .holds runtime } :=
  ⟨loaded.1.mono List.prefix_rfl, backed_saved runtime world⟩

/-- The configuration in the memory manages as the file says, or nothing. -/
def Recalls : Bool → World → Config → World → Prop
  | true, origin, config, world =>
      origin.config.Loads ∧ ∃ given, world.config.Gives given ∧
        ∀ batteryId,
          (config.device batteryId).manageThresholds =
              (given.device batteryId).manageThresholds ∧
            (config.device batteryId).desiredThresholds =
              (given.device batteryId).desiredThresholds
  | false, _, config, _ =>
      ∀ batteryId, (config.device batteryId).manageThresholds = false

theorem stable_recalls (managed : Bool) (origin : World) (config : Config) :
    Stable (Recalls managed origin config) := by
  intro world after quiet recalls
  cases managed with
  | true =>
      obtain ⟨loads, given, gives, same⟩ := recalls
      exact ⟨loads, given, by rwa [quiet.config], same⟩
  | false => exact recalls

/-- The record in the memory, or none where it could not be read. -/
def Recorded : Bool → World → Runtime → World → Prop
  | true, origin, runtime, world => Loaded origin runtime world
  | false, origin, runtime, world =>
      runtime.hasDurableOperation = false ∧ .unread ∈ world.since origin

theorem stable_recorded (loaded : Bool) (origin : World)
    (runtime : Runtime) : Stable (Recorded loaded origin runtime) := by
  intro world after quiet recorded
  cases loaded with
  | true => exact stable_loaded origin runtime world after quiet recorded
  | false =>
      exact ⟨recorded.1, World.since_subset quiet.log recorded.2⟩

structure Remembers (managed loaded : Bool) (origin : World) (pass : Pass)
    (world : World) : Prop where
  config : Recalls managed origin pass.config world
  runtime : Recorded loaded origin pass.runtime world

theorem stable_remembers (managed loaded : Bool) (origin : World)
    (pass : Pass) : Stable (Remembers managed loaded origin pass) :=
  fun world after quiet remembers =>
    ⟨stable_recalls managed origin pass.config world after quiet
        remembers.config,
      stable_recorded loaded origin pass.runtime world after quiet
        remembers.runtime⟩

variable {managed loaded : Bool} {origin world : World} {pass other : Pass}

/-- The memory of the same files. -/
theorem Remembers.congr (remembers : Remembers managed loaded origin pass
      world) (config : other.config = pass.config)
    (runtime : other.runtime = pass.runtime) :
    Remembers managed loaded origin other world where
  config := by rw [config]; exact remembers.config
  runtime := by rw [runtime]; exact remembers.runtime

theorem Remembers.saved
    (remembers : Remembers managed true origin pass world) :
    Remembers managed true origin pass
      { world with runtime := .holds pass.runtime } where
  config := by
    have recalls := remembers.config
    cases managed with
    | true => exact recalls
    | false => exact recalls
  runtime := remembers.runtime.saved

/-! ### What is allowed by the memory -/

section Allowed

variable {automatic : Bool} {runtime : Runtime} {batteryId : String}
  {target : Thresholds}

theorem Loaded.fence (loaded : Loaded origin runtime world)
    (free : batteryId ∉ runtime.authorizationUncertainBatteries)
    (fenced : origin.Fenced batteryId) :
    Known batteryId (world.since origin) :=
  (loaded.1.fences batteryId fenced).resolve_left free

theorem Loaded.allows_restoration (loaded : Loaded origin runtime world)
    (calibrates : runtime.calibrates batteryId = true)
    (restoration : runtime.operationRestoration = some target) :
    (Mark.asked batteryId target world.config world.runtime).Allowed automatic
      origin (world.since origin) := by
  obtain ⟨record, found, backs⟩ := loaded.2
  obtain ⟨recorded, same⟩ := backs.calibrates calibrates
  have restores : Restores world.config record batteryId target :=
    .inr ⟨recorded, same.trans restoration⟩
  exact ⟨.inr ⟨record, found, .inr restores⟩, fun _ _ =>
    .inr (.inr ⟨record, found, restores⟩)⟩

/-- What has been recorded may be lifted, unless the battery is fenced. -/
theorem Loaded.allows_lifting (loaded : Loaded origin runtime world)
    (lifts : Lifts runtime batteryId)
    (free : automatic = true →
      batteryId ∉ runtime.authorizationUncertainBatteries) :
    (Mark.asked batteryId (0, 100) world.config world.runtime).Allowed
      automatic origin (world.since origin) := by
  obtain ⟨record, found, backs⟩ := loaded.2
  have lifted : Lifts record batteryId :=
    lifts.imp (backs.targets batteryId) fun calibrates =>
      (backs.calibrates calibrates).1
  exact ⟨.inr ⟨record, found, .inl ⟨rfl, lifted⟩⟩, fun automatic fenced =>
    .inl (loaded.fence (free automatic) fenced)⟩

theorem Recalls.configures (recalls : Recalls managed origin pass.config world)
    (manages : (pass.config.device batteryId).manageThresholds = true) :
    Configures world.config batteryId
      (pass.config.device batteryId).desiredThresholds := by
  cases managed with
  | true =>
      obtain ⟨_, given, gives, same⟩ := recalls
      obtain ⟨manage, desired⟩ := same batteryId
      exact ⟨given, gives, manage.symm.trans manages, desired.symm⟩
  | false =>
      rw [recalls batteryId] at manages
      cases manages

theorem Loaded.allows_restoring (loaded : Loaded origin runtime world)
    (targets : runtime.chargeOnceTargets batteryId = true)
    (restoration : runtime.restoration = some target ∨
      runtime.restoration = none ∧
        Configures world.config batteryId target) :
    (Mark.asked batteryId target world.config world.runtime).Allowed automatic
      origin (world.since origin) := by
  obtain ⟨record, found, backs⟩ := loaded.2
  have active : runtime.chargeOnceActive = true := by
    simp only [Runtime.chargeOnceTargets, Bool.and_eq_true] at targets
    exact targets.1
  have restores : Restores world.config record batteryId target := by
    refine .inl ⟨backs.targets batteryId targets, ?_⟩
    rw [backs.restoration active]
    exact restoration
  exact ⟨.inr ⟨record, found, .inr restores⟩, fun _ _ =>
    .inr (.inr ⟨record, found, restores⟩)⟩

theorem Remembers.fence
    (remembers : Remembers managed loaded origin pass world)
    (free : batteryId ∉ pass.runtime.authorizationUncertainBatteries)
    (fenced : origin.Fenced batteryId) :
    Known batteryId (world.since origin) ∨
      .unread ∈ world.since origin := by
  cases loaded with
  | true => exact .inl (remembers.runtime.fence free fenced)
  | false => exact .inr remembers.runtime.2

theorem Remembers.allows_policy
    (remembers : Remembers managed loaded origin pass world)
    (manages : (pass.config.device batteryId).manageThresholds = true)
    (free : batteryId ∉ pass.runtime.authorizationUncertainBatteries) :
    (Mark.asked batteryId (pass.config.device batteryId).desiredThresholds
      world.config world.runtime).Allowed automatic origin
        (world.since origin) :=
  ⟨.inl (remembers.config.configures manages), fun _ fenced =>
    (remembers.fence free fenced).imp_right .inl⟩

theorem Loaded.allows_behaviour (loaded : Loaded origin runtime world)
    {behaviour : String} (accounts : Accounts runtime batteryId behaviour)
    (free : automatic = true →
      batteryId ∉ runtime.authorizationUncertainBatteries) :
    (Mark.told batteryId behaviour world.runtime).Allowed automatic origin
      (world.since origin) := by
  obtain ⟨record, found, backs⟩ := loaded.2
  refine ⟨.inr ⟨record, found, ?_⟩, fun automatic fenced =>
    .inl (loaded.fence (free automatic) fenced)⟩
  rcases accounts with auto | ⟨discharge, calibrates⟩ |
      ⟨inhibit, operation, battery⟩
  · exact .inl auto
  · exact .inr (.inl ⟨discharge, (backs.calibrates calibrates).1⟩)
  · obtain ⟨same, id, _⟩ := backs.operation (by simp [operation])
    exact .inr (.inr ⟨inhibit, same.trans operation, id.trans battery⟩)

theorem allows_auto (automatic : Bool) (origin world : World)
    (batteryId : String) (before : List Mark) :
    (Mark.told batteryId "auto" world.runtime).Allowed automatic origin
      before :=
  ⟨.inl rfl, fun _ _ => .inr (.inr rfl)⟩

end Allowed

/-! ### Changes of the record in the memory -/

section Records

variable {runtime : Runtime} {batteryId : String} {target : Thresholds}

theorem Loaded.restoring (loaded : Loaded origin runtime world) :
    Loaded origin { runtime with operationPhase := .restoring } world := by
  obtain ⟨carries, record, found, backs⟩ := loaded
  exact ⟨⟨carries.readable, carries.debts, carries.fences, carries.single⟩,
    record, found, backs.targets, backs.restoration, backs.operation⟩

theorem Loaded.charging (loaded : Loaded origin runtime world) :
    Loaded origin { runtime with operationPhase := .charging } world := by
  obtain ⟨carries, record, found, backs⟩ := loaded
  exact ⟨⟨carries.readable, carries.debts, carries.fences, carries.single⟩,
    record, found, backs.targets, backs.restoration, backs.operation⟩

/-- A calibration is forgotten once its thresholds are back. -/
theorem Carries.cleared (carries : Carries origin runtime world)
    (restored : ∀ batteryId target, runtime.calibrates batteryId = true →
      runtime.operationRestoration = some target →
      Shown batteryId target (world.since origin)) :
    Carries origin runtime.clearOperation world where
  readable := carries.readable
  debts batteryId target named owed := by
    rcases carries.debts batteryId target named owed with
      (once | ⟨calibrates, restoration⟩) | shown
    · exact .inl (.inl once)
    · exact .inr (restored batteryId target calibrates restoration)
    · exact .inr shown
  fences := carries.fences
  single _ := rfl

theorem Loaded.cleared (loaded : Loaded origin runtime world)
    (restored : ∀ batteryId target, runtime.calibrates batteryId = true →
      runtime.operationRestoration = some target →
      Shown batteryId target (world.since origin)) :
    Loaded origin runtime.clearOperation world := by
  obtain ⟨carries, record, found, backs⟩ := loaded
  exact ⟨carries.cleared restored, record, found, backs.targets,
    backs.restoration, fun running => absurd rfl running⟩

theorem Carries.unfenced (carries : Carries origin runtime world)
    (known : Known batteryId (world.since origin)) :
    Carries origin (runtime.unfence batteryId) world where
  readable := carries.readable
  debts := carries.debts
  fences other fenced := by
    rcases carries.fences other fenced with member | answered
    · by_cases same : other = batteryId
      · subst same
        exact .inr known
      · exact .inl (by simp [Runtime.unfence, member, same])
    · exact .inr answered
  single := carries.single

theorem Loaded.unfenced (loaded : Loaded origin runtime world)
    (known : Known batteryId (world.since origin)) :
    Loaded origin (runtime.unfence batteryId) world := by
  obtain ⟨carries, record, found, backs⟩ := loaded
  exact ⟨carries.unfenced known, record, found, backs.targets,
    backs.restoration, backs.operation⟩

/-- A record from before there were names is given the name of a battery. -/
theorem Loaded.migrated (loaded : Loaded origin runtime world)
    (unnamed : runtime.chargeOnceBatteryId = "") (name : String) :
    Loaded origin { runtime with chargeOnceBatteryId := name } world := by
  obtain ⟨carries, record, found, backs⟩ := loaded
  refine ⟨⟨carries.readable, ?_, carries.fences, carries.single⟩, record,
    found, ?_, backs.restoration, backs.operation⟩
  · intro batteryId target named owed
    rcases carries.debts batteryId target named owed with
      (⟨_, same, _⟩ | calibration) | shown
    · exact absurd (same.symm.trans unnamed) named
    · exact .inl (.inr calibration)
    · exact .inr shown
  · intro batteryId targets
    apply backs.targets
    simp only [Runtime.chargeOnceTargets, Bool.and_eq_true] at targets ⊢
    exact ⟨targets.1, by simp [unnamed]⟩

/-- Charging once is forgotten once its thresholds are back. -/
theorem Carries.chargedOnce (carries : Carries origin runtime world)
    (active : runtime.chargeOnceActive = true)
    (restored : ∀ target, runtime.restoration = some target →
      Shown runtime.chargeOnceBatteryId target (world.since origin))
    (known : Known runtime.chargeOnceBatteryId (world.since origin)) :
    Carries origin (Pass.chargedOnce runtime) world where
  readable := carries.readable
  debts batteryId target named owed := by
    rcases carries.debts batteryId target named owed with
      (⟨_, rfl, restoration⟩ | ⟨calibrates, _⟩) | shown
    · exact .inr (restored target restoration)
    · simp [Runtime.calibrates, carries.single active] at calibrates
    · exact .inr shown
  fences := (carries.unfenced known).fences
  single := by
    intro running
    cases running

end Records

end BarDaemon.BatteryProtection
