import BarDaemon.BatteryPassRules

/-!
# The thresholds that a pass applies

A battery is given what its record has lifted, what is to be restored, or what
the configuration asks for.  Charging once is forgotten after its thresholds
have been read back.
-/

namespace BarDaemon.BatteryProtection

open Attempt Effect

namespace Pass

variable {automatic managed loaded due : Bool} {origin world : World}
  {pass : Pass} {device : Device} {runtime : Runtime} {Q : World → Prop}

/-! ### The target of a battery -/

/-- Why a battery is to be given these thresholds. -/
theorem reconciliationTarget_cases {policy : DeviceConfig}
    {batteryId : String} {target : Thresholds}
    (intended : reconciliationTarget policy runtime due batteryId =
      some target) :
    (runtime.calibrates batteryId = true ∧ target = (0, 100) ∧
      (batteryId ∈ runtime.authorizationUncertainBatteries →
        runtime.chargeOnceTargets batteryId = true)) ∨
    (runtime.chargeOnceTargets batteryId = true ∧ due = false ∧
      target = (0, 100) ∧
      batteryId ∉ runtime.authorizationUncertainBatteries) ∨
    (runtime.chargeOnceTargets batteryId = true ∧ due = true ∧
      (runtime.restoration = some target ∨
        runtime.restoration = none ∧ policy.manageThresholds = true ∧
          policy.desiredThresholds = target)) ∨
    (runtime.chargeOnceTargets batteryId = false ∧
      runtime.calibrates batteryId = false ∧
      batteryId ∉ runtime.authorizationUncertainBatteries ∧
      policy.manageThresholds = true ∧
      policy.desiredThresholds = target) := by
  simp only [reconciliationTarget] at intended
  generalize chosen : (if policy.manageThresholds then
    some policy.desiredThresholds else none) = choice at intended
  have configured : choice = some target →
      policy.manageThresholds = true ∧ policy.desiredThresholds = target := by
    rintro rfl
    cases manages : policy.manageThresholds with
    | false => simp [manages] at chosen
    | true => simpa [manages] using chosen
  split_ifs at intended with fenced calibrates restoring lifted safety
  · left
    refine ⟨calibrates, (Option.some.inj intended).symm, fun member => ?_⟩
    by_contra untargeted
    exact fenced ⟨by simpa using member, by simp [untargeted]⟩
  · refine .inr (.inl ⟨lifted.1, lifted.2, (Option.some.inj intended).symm,
      fun member => ?_⟩)
    exact fenced ⟨by simpa using member, by simp [lifted.2]⟩
  · simp only [Bool.and_eq_true] at safety
    refine .inr (.inr (.inl ⟨safety.1, safety.2, ?_⟩))
    rcases restoration : runtime.restoration with _ | thresholds
    · rw [restoration, Option.none_or] at intended
      exact .inr ⟨rfl, configured intended⟩
    · rw [restoration, Option.some_or] at intended
      exact .inl intended
  · have untargeted : runtime.chargeOnceTargets batteryId = false := by
      cases targets : runtime.chargeOnceTargets batteryId with
      | false => rfl
      | true =>
          cases due with
          | false => exact absurd ⟨targets, rfl⟩ lifted
          | true => simp [targets] at safety
    refine .inr (.inr (.inr ⟨untargeted, by simpa using calibrates, ?_,
      configured intended⟩))
    intro member
    exact fenced ⟨by simpa using member, by simp [untargeted]⟩

theorem idle_untargeted (idle : runtime.hasDurableOperation = false)
    (batteryId : String) :
    runtime.chargeOnceTargets batteryId = false ∧
      runtime.calibrates batteryId = false := by
  simp only [Runtime.hasDurableOperation, Bool.or_eq_false_iff,
    bne_eq_false_iff_eq] at idle
  simp [Runtime.chargeOnceTargets, Runtime.calibrates, idle.1, idle.2]

/-- Two operations are not recorded at once. -/
theorem not_calibrates (single : runtime.Single) {batteryId other : String}
    (targets : runtime.chargeOnceTargets batteryId = true) :
    runtime.calibrates other = false := by
  simp only [Runtime.chargeOnceTargets, Bool.and_eq_true] at targets
  simp [Runtime.calibrates, single targets.1]

theorem allows_target {target : Thresholds}
    (remembers : Remembers managed loaded origin pass world)
    (intended : reconciliationTarget (pass.config.device device.id)
      pass.runtime due device.id = some target) :
    (Mark.asked device.id target world.config world.runtime).Allowed automatic
      origin (world.since origin) := by
  cases loaded with
  | false =>
      obtain ⟨untargeted, uncalibrated⟩ :=
        idle_untargeted remembers.runtime.1 device.id
      rcases reconciliationTarget_cases intended with ⟨calibrates, _⟩ |
          ⟨targets, _⟩ | ⟨targets, _⟩ | ⟨_, _, free, manages, rfl⟩
      · simp [uncalibrated] at calibrates
      · simp [untargeted] at targets
      · simp [untargeted] at targets
      · exact remembers.allows_policy manages free
  | true =>
      have recorded := remembers.runtime
      rcases reconciliationTarget_cases intended with
          ⟨calibrates, rfl, fenced⟩ | ⟨targets, _, rfl, free⟩ |
          ⟨targets, _, restoration⟩ | ⟨_, _, free, manages, rfl⟩
      · apply recorded.allows_lifting (.inr calibrates)
        intro _ member
        rw [not_calibrates recorded.1.single (fenced member)] at calibrates
        cases calibrates
      · exact recorded.allows_lifting (.inl targets) fun _ => free
      · apply recorded.allows_restoring targets
        refine restoration.imp_right ?_
        rintro ⟨missing, manages, rfl⟩
        exact ⟨missing, remembers.config.configures manages⟩
      · exact remembers.allows_policy manages free

/-! ### What is known after a restoration -/

/-- The thresholds from before charging once are back. -/
def Back (origin : World) (runtime : Runtime) (batteryId : String)
    (world : World) : Prop :=
  (∀ target, runtime.restoration = some target →
    Shown batteryId target (world.since origin)) ∧
  Known batteryId (world.since origin)

theorem stable_back (origin : World) (runtime : Runtime)
    (batteryId : String) : Stable (Back origin runtime batteryId) :=
  fun _ _ quiet back =>
    ⟨fun target restoration =>
        (back.1 target restoration).mono (World.since_subset quiet.log),
      back.2.mono (World.since_subset quiet.log)⟩

theorem restoration_eq_target {target thresholds : Thresholds}
    (single : runtime.Single) {policy : DeviceConfig} {batteryId : String}
    (targets : runtime.chargeOnceTargets batteryId = true)
    (intended : reconciliationTarget policy runtime true batteryId =
      some target)
    (restoration : runtime.restoration = some thresholds) :
    thresholds = target := by
  rcases reconciliationTarget_cases intended with ⟨calibrates, _⟩ |
      ⟨_, impossible, _⟩ | ⟨_, _, same | ⟨missing, _⟩⟩ | ⟨untargeted, _⟩
  · simp [not_calibrates single targets] at calibrates
  · cases impossible
  · exact Option.some.inj (restoration.symm.trans same)
  · simp [restoration] at missing
  · simp [targets] at untargeted

theorem single_of_targets {batteryId : String}
    (remembers : Remembers managed loaded origin pass world)
    (targets : pass.runtime.chargeOnceTargets batteryId = true) :
    pass.runtime.Single := by
  cases loaded with
  | true => exact remembers.runtime.1.single
  | false =>
      rw [(idle_untargeted remembers.runtime.1 batteryId).1] at targets
      cases targets

theorem thresholdIntent_restoring (single : pass.runtime.Single)
    (targets : pass.runtime.chargeOnceTargets device.id = true) :
    (pass.thresholdIntent true device).restoration = true ∧
      (pass.thresholdIntent true device).temporary = false ∧
      (pass.thresholdIntent true device).policy = false := by
  simp [thresholdIntent, targets, not_calibrates single targets]

/-- Only a policy is accepted as it has been read back. -/
theorem manages_of_policy {target : Thresholds}
    (policy : (pass.thresholdIntent due device).policy = true)
    (intended : reconciliationTarget (pass.config.device device.id)
      pass.runtime due device.id = some target) :
    (pass.config.device device.id).manageThresholds = true := by
  rcases reconciliationTarget_cases intended with ⟨calibrates, _⟩ |
      ⟨targets, rfl, _⟩ | ⟨targets, rfl, _⟩ | ⟨_, _, _, manages, _⟩
  · simp [thresholdIntent, calibrates] at policy
  · simp [thresholdIntent, targets] at policy
  · simp [thresholdIntent, targets] at policy
  · exact manages

theorem recalls_accepted {config : Config}
    (recalls : Recalls managed origin config world) (batteryId : String)
    (reported : Option Thresholds) :
    Recalls managed origin
      (config.deviceMut batteryId (·.accepts reported)) world := by
  have same : ∀ other,
      ((config.deviceMut batteryId (·.accepts reported)).device
          other).manageThresholds = (config.device other).manageThresholds ∧
        ((config.deviceMut batteryId (·.accepts reported)).device
          other).desiredThresholds =
            (config.device other).desiredThresholds := by
    intro other
    rw [Config.device_deviceMut]
    split_ifs with equal
    · subst equal
      exact ⟨rfl, rfl⟩
    · exact ⟨rfl, rfl⟩
  cases managed with
  | true =>
      obtain ⟨loads, given, gives, agrees⟩ := recalls
      exact ⟨loads, given, gives, fun other =>
        ⟨(same other).1.trans (agrees other).1,
          (same other).2.trans (agrees other).2⟩⟩
  | false => exact fun other => (same other).1.trans (recalls other)

theorem targetIsApplied_restoring {observed : Option Nat × Option Nat}
    {target : Thresholds} {accepted : Option Thresholds}
    (applied : targetIsApplied observed target accepted false false = true) :
    observed = (some target.1, some target.2) := by
  simpa [targetIsApplied] using applied

/-! ### Applying a target -/

/-- What a battery has come to. -/
structure Applied.Faithful (applied : Applied) (managed due : Bool)
    (origin : World) (pass : Pass) (device : Device) (world : World) :
    Prop where
  runtime : applied.pass.runtime = pass.runtime
  changed : applied.changed = true → managed = true
  back : applied.applied = true →
    pass.runtime.chargeOnceTargets device.id = true → due = true →
      Back origin pass.runtime device.id world

/-- The helper has answered to a target. -/
theorem written_faithful {target : Thresholds}
    {result : ThresholdWriteResult}
    (intended : reconciliationTarget (pass.config.device device.id)
      pass.runtime due device.id = some target)
    (remembers : Remembers managed loaded origin pass world)
    (answered : .answered device.id ∈ world.since origin)
    (confirmed : result.verified = true → result.actual = target ∧
      .confirmed device.id target ∈ world.since origin) :
    (written pass device (pass.thresholdIntent due device) target
        result).Faithful managed due origin pass device world ∧
      Remembers managed loaded origin (written pass device
        (pass.thresholdIntent due device) target result).pass world := by
  simp only [written]
  split_ifs with failed policy
  · exact ⟨⟨rfl, fun impossible => by simp at impossible,
      fun impossible => by simp at impossible⟩, remembers.congr rfl rfl⟩
  · refine ⟨⟨rfl, fun _ => ?_, fun _ targets because => ?_⟩,
      recalls_accepted remembers.config _ _, remembers.runtime⟩
    · cases managed with
      | true => rfl
      | false =>
          have manages := manages_of_policy policy intended
          rw [remembers.config device.id] at manages
          cases manages
    · subst because
      have sole := single_of_targets remembers targets
      rw [(thresholdIntent_restoring sole targets).2.2] at policy
      cases policy
  · refine ⟨⟨rfl, fun impossible => by simp at impossible,
      fun _ targets because => ?_⟩, remembers⟩
    subst because
    have sole := single_of_targets remembers targets
    have verified : result.verified = true := by
      by_contra unverified
      exact failed ⟨(thresholdIntent_restoring sole targets).1,
        by simpa using unverified⟩
    refine ⟨fun thresholds restoration => ?_, .inl answered⟩
    rw [restoration_eq_target sole targets intended restoration]
    exact .inl (confirmed verified).2

theorem meets_applyThreshold (stable : Stable Q) :
    Meets
      (Stays automatic origin fun world =>
        Remembers managed loaded origin pass world ∧ Q world)
      (applyThreshold pass device (pass.thresholdIntent due device))
      (fun applied world =>
        applied.Faithful managed due origin pass device world ∧
        Stays automatic origin (fun world =>
          Remembers managed loaded origin applied.pass world ∧ Q world) world)
      (fun _ => Guarded automatic origin) := by
  have both := (stable_remembers managed loaded origin pass).and stable
  have settled := both.stays automatic origin
  rw [applyThreshold]
  cases intended : (pass.thresholdIntent due device).target with
  | none =>
      apply meets_pure
      exact fun _ holds => ⟨⟨rfl, fun impossible => by simp at impossible,
        fun impossible => by simp at impossible⟩, holds⟩
  | some target =>
      have why : reconciliationTarget (pass.config.device device.id)
        pass.runtime due device.id = some target := intended
      apply meets_ite
      · intro already
        by_cases noted : (pass.thresholdIntent due device).restoration = true ∧
            (pass.thresholdIntent due device).observed =
              (some target.1, some target.2)
        · have notes : Meets
              (Stays automatic origin fun world =>
                Remembers managed loaded origin pass world ∧ Q world)
              (note (.found device.id target))
              (fun _ world => Stays automatic origin (fun world =>
                Remembers managed loaded origin pass world ∧ Q world) world ∧
                .found device.id target ∈ world.since origin)
              (fun _ => Guarded automatic origin) := by
            apply meets_note
            intro world holds
            refine ⟨settled.noted (.found device.id target) trivial holds, ?_⟩
            rw [World.since_append holds.1.log rfl]
            simp
          rw [if_pos noted]
          apply notes.bind
          intro _
          apply meets_pure
          rintro world ⟨⟨guarded, remembers, holds⟩, found⟩
          refine ⟨⟨rfl, fun impossible => by simp at impossible,
            fun _ targets because => ?_⟩, guarded, remembers, holds⟩
          subst because
          refine ⟨fun thresholds restoration => ?_, .inr ⟨target, found⟩⟩
          rw [restoration_eq_target (single_of_targets remembers targets)
            targets why restoration]
          exact .inr found
        · rw [if_neg noted]
          intro world holds
          refine ⟨⟨rfl, fun impossible => by simp at impossible,
            fun _ targets because => ?_⟩, holds⟩
          subst because
          obtain ⟨restoring, lasting, policy⟩ :=
            thresholdIntent_restoring (single_of_targets holds.2.1 targets)
              targets
          rw [lasting, policy] at already
          exact absurd ⟨restoring, targetIsApplied_restoring already⟩ noted
      · intro _
        apply meets_ite
        · intro _
          apply meets_pure
          exact fun _ holds => ⟨⟨rfl, fun impossible => by simp at impossible,
            fun impossible => by simp at impossible⟩, holds⟩
        · intro _
          have spec := meets_setThresholds both
            (fun world (_ : Guarded automatic origin world) holds =>
              allows_target holds.1 why)
          apply meets_attempt_bind spec fun _ holds => holds.1
          · intro result
            apply meets_pure
            rintro world ⟨⟨guarded, remembers, holds⟩, answered, confirmed⟩
            obtain ⟨faithful, kept⟩ :=
              written_faithful why remembers answered confirmed
            exact ⟨faithful, guarded, kept, holds⟩
          · intro failure
            apply meets_pure
            rintro world ⟨guarded, remembers, holds⟩
            exact ⟨⟨rfl, fun impossible => by simp at impossible,
              fun impossible => by simp at impossible⟩, guarded,
              remembers.congr rfl rfl, holds⟩

/-! ### All batteries -/

/-- How far a pass has come with the thresholds. -/
structure Progress.Faithful (progress : Progress) (managed due : Bool)
    (origin : World) (pass : Pass) (world : World) : Prop where
  runtime : progress.pass.runtime = pass.runtime
  changed : progress.changed = true → managed = true
  back : progress.restored = true → due = true →
    pass.runtime.chargeOnceActive = true →
      Back origin pass.runtime pass.runtime.chargeOnceBatteryId world

theorem stable_faithful (progress : Progress) (managed due : Bool)
    (origin : World) (pass : Pass) :
    Stable (progress.Faithful managed due origin pass) :=
  fun world after quiet faithful =>
    ⟨faithful.runtime, faithful.changed, fun restored because active =>
      stable_back origin pass.runtime _ world after quiet
        (faithful.back restored because active)⟩

theorem meets_reconcileDevice (progress : Progress) :
    Meets
      (Stays automatic origin fun world =>
        Remembers managed loaded origin progress.pass world ∧
          progress.Faithful managed due origin pass world)
      (reconcileDevice due progress device)
      (fun next => Stays automatic origin fun world =>
        Remembers managed loaded origin next.pass world ∧
          next.Faithful managed due origin pass world)
      (fun _ => Guarded automatic origin) := by
  apply (meets_applyThreshold
    (stable_faithful progress managed due origin pass)).bind
  intro applied
  apply meets_pure
  rintro world ⟨turn, guarded, remembers, faithful⟩
  have same := faithful.runtime
  refine ⟨guarded, remembers, turn.runtime.trans same, ?_, ?_⟩
  · intro changed
    simp only [Bool.or_eq_true] at changed
    exact changed.elim faithful.changed turn.changed
  · intro restored because active
    by_cases here : progress.pass.runtime.chargeOnceActive = true ∧
        device.id = progress.pass.runtime.chargeOnceBatteryId
    · have back := turn.back
      simp only [if_pos here] at restored
      rw [same] at here back
      rw [← here.2]
      apply back restored _ because
      simp [Runtime.chargeOnceTargets, active, here.2]
    · simp only [if_neg here] at restored
      exact faithful.back restored because active

theorem meets_reconcileDevices (devices : List Device)
    (progress : Progress) :
    Meets
      (Stays automatic origin fun world =>
        Remembers managed loaded origin progress.pass world ∧
          progress.Faithful managed due origin pass world)
      (reconcileDevices due progress devices)
      (fun next => Stays automatic origin fun world =>
        Remembers managed loaded origin next.pass world ∧
          next.Faithful managed due origin pass world)
      (fun _ => Guarded automatic origin) := by
  induction devices generalizing progress with
  | nil => exact meets_pure fun _ holds => holds
  | cons device devices ih =>
      exact (meets_reconcileDevice progress).bind fun next => ih next

theorem meets_reconcileThresholds :
    Meets (Stays automatic origin (Remembers managed loaded origin pass))
      (reconcileThresholds pass due)
      (fun progress => Stays automatic origin fun world =>
        Remembers managed loaded origin progress.pass world ∧
          progress.Faithful managed due origin pass world)
      (fun _ => Guarded automatic origin) := by
  have devices : Meets
      (Stays automatic origin (Remembers managed loaded origin pass))
      (reconcileDevices due ⟨false, false, [], pass⟩ pass.state.devices)
      (fun progress => Stays automatic origin fun world =>
        Remembers managed loaded origin progress.pass world ∧
          progress.Faithful managed due origin pass world)
      (fun _ => Guarded automatic origin) := by
    apply (meets_reconcileDevices pass.state.devices
      ⟨false, false, [], pass⟩).weaken
    · rintro world ⟨guarded, remembers⟩
      exact ⟨guarded, remembers, rfl, fun impossible => by
        simp at impossible, fun impossible => by simp at impossible⟩
    · exact fun _ _ holds => holds
    · exact fun _ _ holds => holds
  apply devices.bind
  intro progress
  apply meets_pure
  rintro world ⟨guarded, remembers, faithful⟩
  exact ⟨guarded, remembers.congr rfl rfl, faithful.runtime,
    faithful.changed, faithful.back⟩

/-! ### The end of a pass -/

theorem meets_persistConfig (stable : Stable Q) {changed : Bool}
    (manages : changed = true → managed = true)
    (puts : ∀ world config, Q world →
      Q { world with config := .holds config }) :
    Meets
      (Stays automatic origin fun world =>
        Remembers managed loaded origin pass world ∧ Q world)
      (persistConfig pass changed)
      (fun saved world => saved.runtime = pass.runtime ∧
        Stays automatic origin (fun world =>
          Recorded loaded origin pass.runtime world ∧ Q world) world)
      (fun _ => Guarded automatic origin) := by
  have both := (stable_remembers managed loaded origin pass).and stable
  apply meets_ite
  · intro wanted
    obtain rfl := manages wanted
    apply meets_of_fact (fun _ holds => holds.2.1.config.1)
    intro loads
    have spec : Meets
        (Stays automatic origin fun world =>
          Remembers true loaded origin pass world ∧ Q world)
        (saveConfig pass.config)
        (fun _ => Stays automatic origin fun world =>
          Recorded loaded origin pass.runtime world ∧ Q world)
        (fun _ => Stays automatic origin fun world =>
          Recorded loaded origin pass.runtime world ∧ Q world) := by
      apply (meets_saveConfig both loads _).weaken
      · exact fun _ holds => holds
      · exact fun _ _ holds => holds
      · rintro fault world (⟨guarded, remembers, holds⟩ | holds)
        · exact ⟨guarded, remembers.runtime, holds⟩
        · exact holds
      · rintro world ⟨remembers, holds⟩ _
        refine ⟨?_, puts world _ holds⟩
        have recorded := remembers.runtime
        cases loaded with
        | true =>
            exact ⟨recorded.1.mono List.prefix_rfl, recorded.2⟩
        | false => exact recorded
    apply meets_attempt_bind spec fun _ holds => holds.1
    · exact fun _ => meets_pure fun _ holds => ⟨rfl, holds⟩
    · exact fun _ => meets_pure fun _ holds => ⟨rfl, holds⟩
  · exact fun _ => meets_pure fun _ holds =>
      ⟨rfl, holds.1, holds.2.1.runtime, holds.2.2⟩

theorem meets_finishChargeOnceIfDue {restored : Bool}
    (active : due = true → pass.runtime.chargeOnceActive = true) :
    Meets
      (Stays automatic origin fun world =>
        Recorded loaded origin pass.runtime world ∧
          (restored = true → due = true →
            Back origin pass.runtime pass.runtime.chargeOnceBatteryId world))
      (finishChargeOnceIfDue pass due restored)
      (fun _ => Guarded automatic origin)
      (fun _ => Guarded automatic origin) := by
  apply meets_ite
  · exact fun _ => meets_pure fun _ holds => holds.1
  · intro wanted
    have because : due = true := by simpa using wanted
    apply meets_ite
    · exact fun _ => meets_pure fun _ holds => holds.1
    · intro done
      have known : restored = true := by simpa using done
      have running := active because
      have puts : ∀ world, Carries origin (chargedOnce pass.runtime) world →
          Carries origin (chargedOnce pass.runtime)
            { world with runtime := .holds (chargedOnce pass.runtime) } :=
        fun _ carries => carries.mono List.prefix_rfl
      have saves : Meets
          (Stays automatic origin (Carries origin (chargedOnce pass.runtime)))
          (saveRuntime (chargedOnce pass.runtime))
          (fun _ => Guarded automatic origin)
          (fun _ => Guarded automatic origin) :=
        (meets_saveRuntime (stable_carries origin _)
          (fun _ carries => carries) puts).weaken
          (fun _ holds => holds) (fun _ _ holds => holds.1)
          fun _ _ holds => holds.elim (·.1) (·.1)
      have persists : Meets
          (Stays automatic origin (Carries origin (chargedOnce pass.runtime)))
          (persist { pass with runtime := chargedOnce pass.runtime })
          (fun _ => Guarded automatic origin)
          (fun _ => Guarded automatic origin) := by
        apply meets_attempt_bind saves fun _ holds => holds
        · exact fun _ => meets_pure fun _ holds => holds
        · exact fun _ => meets_pure fun _ holds => holds
      apply persists.weaken
      · rintro world ⟨guarded, recorded, back⟩
        cases loaded with
        | true =>
            obtain ⟨shown, answered⟩ := back known because
            exact ⟨guarded, recorded.1.chargedOnce running shown answered⟩
        | false =>
            have idle := recorded.1
            simp [Runtime.hasDurableOperation, running] at idle
      · exact fun _ _ holds => holds
      · exact fun _ _ holds => holds

theorem active_of_due {now : Nat}
    (due : pass.chargeOnceIsDue now = true) :
    pass.runtime.chargeOnceActive = true := by
  simp only [chargeOnceIsDue, Bool.and_eq_true] at due
  exact due.1

/-- Whatever becomes of a pass, it keeps what the daemon keeps. -/
theorem meets_reconcileAndDecorate (state : State) :
    Meets (Guarded automatic origin) (reconcileAndDecorate state)
      (fun _ => Guarded automatic origin)
      (fun _ => Guarded automatic origin) := by
  apply (meets_load state).bind
  intro read
  apply meets_exists
  intro managed
  apply meets_exists
  intro loaded
  apply meets_migrate.bind
  intro migrated
  have warns : ∀ world, Stays automatic origin
        (Remembers managed loaded origin migrated) world →
      Stays automatic origin
        (Remembers managed loaded origin (warnOfUncertain migrated)) world := by
    rintro world ⟨guarded, remembers⟩
    refine ⟨guarded, remembers.congr ?_ ?_⟩
    · rw [warnOfUncertain]
      split_ifs
      · rfl
      · rfl
    · rw [warnOfUncertain]
      split_ifs
      · rfl
      · rfl
  apply (meets_resume.weaken warns (fun _ _ holds => holds)
    fun _ _ holds => holds).bind
  intro resumed
  have stable := stable_remembers managed loaded origin resumed
  have clock : Meets
      (Stays automatic origin (Remembers managed loaded origin resumed))
      unixMs
      (fun _ => Stays automatic origin
        (Remembers managed loaded origin resumed))
      (fun _ => Guarded automatic origin) :=
    (meets_unixMs (stable.stays automatic origin).popped).weaken
      (fun _ holds => holds) (fun _ _ holds => holds) fun _ _ holds => holds.1
  apply clock.bind
  intro now
  apply meets_reconcileThresholds.bind
  intro progress
  apply meets_of_fact (fun _ holds => holds.2.2.runtime)
  intro same
  apply meets_of_fact (fun _ holds => holds.2.2.changed)
  intro manages
  apply Meets.bind ((meets_persistConfig
    (stable_faithful progress managed (resumed.chargeOnceIsDue now) origin
      resumed) manages fun world config faithful =>
        ⟨faithful.runtime, faithful.changed, faithful.back⟩))
  intro saved
  apply meets_of_fact (fun _ holds => holds.1)
  intro kept
  have runtime : saved.runtime = resumed.runtime := kept.trans same
  have finishes : Meets
      (fun world => saved.runtime = progress.pass.runtime ∧
        Stays automatic origin (fun world =>
          Recorded loaded origin progress.pass.runtime world ∧
            progress.Faithful managed (resumed.chargeOnceIsDue now) origin
              resumed world) world)
      (finishChargeOnceIfDue saved (resumed.chargeOnceIsDue now)
        progress.restored)
      (fun _ => Guarded automatic origin)
      (fun _ => Guarded automatic origin) := by
    apply (meets_finishChargeOnceIfDue _).weaken
    · rintro world ⟨_, guarded, recorded, faithful⟩
      rw [← kept] at recorded
      refine ⟨guarded, recorded, fun restored because => ?_⟩
      rw [runtime]
      exact faithful.back restored because (active_of_due because)
    · exact fun _ _ holds => holds
    · exact fun _ _ holds => holds
    · intro because
      rw [runtime]
      exact active_of_due because
  apply finishes.bind
  exact fun _ => meets_pure fun _ holds => holds

end Pass

end BarDaemon.BatteryProtection
