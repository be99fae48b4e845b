import BarDaemon.BatteryPassGuards

/-!
# A pass from its first reading to its last save

Every part of a pass keeps the memory of the pass in step with the files.
-/

namespace BarDaemon.BatteryProtection

open Attempt Effect

namespace Pass

variable {automatic managed loaded : Bool} {origin : World}
  {pass : Pass} {device : Device} {P : World → Prop}

theorem settled_guarded (automatic : Bool) (origin : World) :
    Settled (Guarded automatic origin) :=
  fun _ _ plainly guarded => guarded.plainly plainly

/-! ### Loading -/

theorem loads_of_gives {world : World}
    (guarded : Guarded automatic origin world) {config : Config}
    (gives : world.config.Gives config) : origin.config.Loads := by
  by_contra unloaded
  have same := guarded.config unloaded
  rw [same] at gives
  exact unloaded ⟨config, gives⟩

theorem meets_loadPolicy (state : State) :
    Meets (Guarded automatic origin) (loadPolicy state)
      (fun pass world => ∃ managed, pass.runtime = .default ∧
        Stays automatic origin (Recalls managed origin pass.config) world)
      (fun _ => Guarded automatic origin) := by
  have popped := (settled_guarded automatic origin).popped
  apply meets_attempt_bind (meets_loadConfig popped) fun _ holds => holds
  · intro config
    apply meets_pure
    rintro world ⟨guarded, gives⟩
    exact ⟨true, rfl, guarded, loads_of_gives guarded gives, config, gives,
      fun _ => ⟨rfl, rfl⟩⟩
  · intro failure
    apply meets_pure
    intro world guarded
    refine ⟨false, rfl, guarded, fun batteryId => ?_⟩
    rw [Config.device_default]
    rfl

theorem meets_load (state : State) :
    Meets (Guarded automatic origin) (Pass.load state)
      (fun pass world => ∃ managed loaded,
        Stays automatic origin (Remembers managed loaded origin pass) world)
      (fun _ => Guarded automatic origin) := by
  apply (meets_loadPolicy state).bind
  intro pass
  apply meets_exists
  intro managed
  apply meets_of_fact fun _ holds => holds.1
  intro blank
  have stable := stable_recalls managed origin pass.config
  have settled := stable.stays automatic origin
  have spec : Meets
      (fun world => pass.runtime = .default ∧
        Stays automatic origin (Recalls managed origin pass.config) world)
      loadRuntime
      (fun runtime world => Stays automatic origin
        (Recalls managed origin pass.config) world ∧
        world.record = some runtime)
      (fun _ => Stays automatic origin
        (Recalls managed origin pass.config)) :=
    (meets_loadRuntime settled.popped).weaken (fun _ holds => holds.2)
      (fun _ _ holds => holds) fun _ _ holds => holds
  apply meets_attempt_bind spec fun _ holds => holds.1
  · intro runtime
    apply meets_pure
    rintro world ⟨⟨guarded, recalls⟩, found⟩
    exact ⟨managed, true, guarded, recalls, guarded.carries found, runtime,
      found, runtime.backs_self⟩
  · intro failure
    have notes : Meets (Stays automatic origin
          (Recalls managed origin pass.config)) (note .unread)
        (fun _ world => Stays automatic origin
          (Recalls managed origin pass.config) world ∧
          .unread ∈ world.since origin)
        (fun _ => Guarded automatic origin) := by
      apply meets_note
      intro world holds
      refine ⟨settled.noted .unread trivial holds, ?_⟩
      rw [World.since_append holds.1.log rfl]
      simp
    apply notes.bind
    intro _
    apply meets_pure
    rintro world ⟨⟨guarded, recalls⟩, unread⟩
    refine ⟨managed, false, guarded, recalls, ?_, unread⟩
    rw [runtime_complain, blank]
    rfl

theorem meets_persist :
    Meets (Stays automatic origin (Remembers managed true origin pass))
      (persist pass)
      (fun saved => Stays automatic origin
        (Remembers managed true origin saved))
      (fun _ => Guarded automatic origin) := by
  have spec : Meets
      (Stays automatic origin (Remembers managed true origin pass))
      (saveRuntime pass.runtime)
      (fun _ => Stays automatic origin (Remembers managed true origin pass))
      (fun _ => Stays automatic origin
        (Remembers managed true origin pass)) :=
    (meets_saveRuntime (stable_remembers managed true origin pass)
      (fun _ remembers => remembers.runtime.1)
      fun _ remembers => remembers.saved).weaken
      (fun _ holds => holds) (fun _ _ holds => holds)
      fun _ _ holds => holds.elim id id
  apply meets_attempt_bind spec fun _ holds => holds.1
  · exact fun _ => meets_pure fun _ holds => holds
  · intro failure
    apply meets_pure
    rintro world ⟨guarded, remembers⟩
    exact ⟨guarded, remembers.congr rfl rfl⟩

theorem meets_migrate :
    Meets (Stays automatic origin (Remembers managed loaded origin pass))
      (migrateChargeOnceBattery pass)
      (fun migrated => Stays automatic origin
        (Remembers managed loaded origin migrated))
      (fun _ => Guarded automatic origin) := by
  apply meets_ite
  · rintro ⟨active, unnamed⟩
    cases loaded with
    | true =>
        apply meets_persist.weaken
        · rintro world ⟨guarded, remembers⟩
          exact ⟨guarded, remembers.config,
            remembers.runtime.migrated unnamed _⟩
        · exact fun _ _ holds => holds
        · exact fun _ _ holds => holds
    | false =>
        rintro world ⟨_, remembers⟩
        have idle := remembers.runtime.1
        simp [Runtime.hasDurableOperation, active] at idle
  · exact fun _ => meets_pure fun _ holds => holds

/-! ### A running operation -/

/-- Neither part of the memory changes. -/
structure Turn.Kept (turn : Turn) (pass : Pass) (device : Device) : Prop where
  runtime : turn.pass.runtime = pass.runtime
  config : turn.pass.config = pass.config
  device : turn.device.id = device.id

theorem meets_ensureChargeBehaviour (stable : Stable P) {desired : String}
    (allowed : ∀ world, Guarded automatic origin world → P world →
      (Mark.told device.id desired world.runtime).Allowed automatic origin
        (world.since origin)) :
    Meets (Stays automatic origin P)
      (ensureChargeBehaviour pass device desired)
      (fun turn world => turn.Kept pass device ∧
        Stays automatic origin P world)
      (fun _ => Guarded automatic origin) := by
  apply meets_ite
  · exact fun _ => meets_pure fun _ holds => ⟨⟨rfl, rfl, rfl⟩, holds⟩
  · intro _
    have spec := (meets_setChargeBehaviour stable allowed).weaken
      (fun _ holds => holds) (fun _ _ holds => holds.1) fun _ _ holds => holds
    apply meets_attempt_bind spec fun _ holds => holds.1
    · exact fun _ => meets_pure fun _ holds => ⟨⟨rfl, rfl, rfl⟩, holds⟩
    · exact fun _ => meets_pure fun _ holds => ⟨⟨rfl, rfl, rfl⟩, holds⟩

theorem meets_enterRestoring :
    Meets (Stays automatic origin (Remembers managed true origin pass))
      (enterRestoring pass)
      (fun entered world =>
        entered.2.runtime =
            { pass.runtime with operationPhase := .restoring } ∧
          Stays automatic origin (Remembers managed true origin entered.2)
            world)
      (fun _ => Guarded automatic origin) := by
  apply meets_ite
  · intro restoring
    apply meets_pure
    intro world holds
    refine ⟨?_, holds⟩
    rw [← restoring]
  · intro _
    let entered : Pass := { pass with runtime :=
      { pass.runtime with operationPhase := .restoring } }
    have spec : Meets
        (Stays automatic origin (Remembers managed true origin pass))
        (saveRuntime entered.runtime)
        (fun _ => Stays automatic origin
          (Remembers managed true origin entered))
        (fun _ => Stays automatic origin
          (Remembers managed true origin entered)) :=
      (meets_saveRuntime (stable_remembers managed true origin entered)
        (fun _ remembers => remembers.runtime.1)
      fun _ remembers => remembers.saved).weaken
        (fun _ holds => ⟨holds.1, holds.2.config, holds.2.runtime.restoring⟩)
        (fun _ _ holds => holds) fun _ _ holds => holds.elim id id
    apply meets_attempt_bind spec fun _ holds => holds.1
    · exact fun _ => meets_pure fun _ holds => ⟨rfl, holds⟩
    · intro failure
      apply meets_pure
      rintro world ⟨guarded, remembers⟩
      exact ⟨rfl, guarded, remembers.congr rfl rfl⟩

/-- What is known after the thresholds of a calibration have been asked for. -/
def Answers (origin : World) (device : Device) (pass : Pass)
    (outcome : Except Failure ThresholdWriteResult) (world : World) : Prop :=
  ∀ result, outcome = .ok result →
    .answered device.id ∈ world.since origin ∧
      (result.verified = true →
        pass.runtime.operationRestoration = some result.actual ∧
        .confirmed device.id result.actual ∈ world.since origin)

theorem meets_restoreThresholds
    (calibrates : pass.runtime.calibrates device.id = true) :
    Meets (Stays automatic origin (Remembers managed true origin pass))
      (restoreThresholds pass device)
      (fun outcome world =>
        Stays automatic origin (Remembers managed true origin pass) world ∧
          Answers origin device pass outcome world)
      (fun _ => Guarded automatic origin) := by
  rw [restoreThresholds]
  cases restoration : pass.runtime.operationRestoration with
  | none =>
      apply meets_pure
      intro world holds
      refine ⟨holds, fun result impossible => ?_⟩
      cases impossible
  | some target =>
      have spec := meets_setThresholds
        (stable_remembers managed true origin pass)
        (fun world (_ : Guarded automatic origin world) remembers =>
          remembers.runtime.allows_restoration calibrates restoration)
      apply (meets_attempt spec).weaken (fun _ holds => holds) ?_
        fun _ _ holds => holds.1
      intro outcome world holds
      cases outcome with
      | error failure =>
          refine ⟨holds, fun result impossible => ?_⟩
          cases impossible
      | ok result =>
          obtain ⟨stays, answered, confirmed⟩ := holds
          refine ⟨stays, ?_⟩
          rintro _ ⟨rfl⟩
          refine ⟨answered, fun verified => ?_⟩
          obtain ⟨same, shown⟩ := confirmed verified
          rw [same]
          exact ⟨restoration, shown⟩

theorem completeCalibrationRestoration_eq_ok {runtime after : Runtime}
    {reported : Thresholds} {verified : Bool}
    (completed : runtime.completeCalibrationRestoration reported verified =
      .ok after) :
    verified = true ∧ runtime.operationRestoration = some reported ∧
      after = runtime.clearOperation := by
  simp only [Runtime.completeCalibrationRestoration] at completed
  split_ifs at completed with running agrees
  simp only [Bool.and_eq_true, beq_iff_eq] at agrees
  obtain ⟨⟨verified, start⟩, finish⟩ := agrees
  cases completed
  refine ⟨verified, ?_, rfl⟩
  rw [Runtime.operationRestoration, thresholds_eq_some_iff]
  exact ⟨start.symm, finish.symm⟩

/-- What the hardware has answered is remembered. -/
theorem restored_remembers {world : World} {behaviour : Except Failure String}
    {outcome : Except Failure ThresholdWriteResult}
    (calibrates : pass.runtime.calibrates device.id = true)
    (remembers : Remembers managed true origin pass world)
    (answers : Answers origin device pass outcome world) :
    Remembers managed true origin (restored pass device behaviour outcome).pass
        world ∧
      ((restored pass device behaviour outcome).settled = true →
        Known device.id (world.since origin)) := by
  cases behaviour with
  | error failure =>
      exact ⟨remembers.congr (by simp [restored]) (by simp [restored]),
        fun impossible => by simp [restored] at impossible⟩
  | ok actual =>
      cases outcome with
      | error failure =>
          exact ⟨remembers.congr (by simp [restored]) (by simp [restored]),
            fun impossible => by simp [restored] at impossible⟩
      | ok result =>
          obtain ⟨answered, confirmed⟩ := answers result rfl
          rw [restored]
          cases completed : pass.runtime.completeCalibrationRestoration
              result.actual result.verified with
          | error message =>
              exact ⟨remembers.congr rfl rfl, fun impossible => by
                simp at impossible⟩
          | ok runtime =>
              obtain ⟨verified, restoration, rfl⟩ :=
                completeCalibrationRestoration_eq_ok completed
              obtain ⟨_, shown⟩ := confirmed verified
              refine ⟨⟨remembers.config, remembers.runtime.cleared ?_⟩,
                fun _ => .inl answered⟩
              intro batteryId target others owed
              simp only [Runtime.calibrates, Bool.and_eq_true, beq_iff_eq]
                at calibrates others
              obtain rfl := others.2.symm.trans calibrates.2
              obtain rfl := Option.some.inj (owed.symm.trans restoration)
              exact .inl shown

theorem meets_finishRuntimeOperation
    (calibrates : pass.runtime.calibrates device.id = true) :
    Meets (Stays automatic origin (Remembers managed true origin pass))
      (finishRuntimeOperation pass device)
      (fun turn world =>
        Stays automatic origin (Remembers managed true origin turn.pass)
            world ∧
          (turn.settled = true → Known device.id (world.since origin)))
      (fun _ => Guarded automatic origin) := by
  apply meets_enterRestoring.bind
  rintro ⟨persisted, entered⟩
  apply meets_of_fact fun _ holds => holds.1
  intro same
  cases persisted with
  | false =>
      apply meets_pure
      rintro world ⟨_, holds⟩
      exact ⟨holds, fun impossible => by simp at impossible⟩
  | true =>
      have resumed : entered.runtime.calibrates device.id = true := by
        rw [same]
        exact calibrates
      have tells : Meets
          (fun world => entered.runtime = { pass.runtime with
              operationPhase := .restoring } ∧
            Stays automatic origin (Remembers managed true origin entered)
              world)
          (setChargeBehaviour device.id "auto")
          (fun _ => Stays automatic origin
            (Remembers managed true origin entered))
          (fun _ => Stays automatic origin
            (Remembers managed true origin entered)) :=
        (meets_setChargeBehaviour (stable_remembers managed true origin
          entered) fun world _ _ =>
            allows_auto automatic origin world device.id _).weaken
          (fun _ holds => holds.2) (fun _ _ holds => holds.1)
          fun _ _ holds => holds
      have rest : ∀ behaviour : Except Failure String, Meets
          (Stays automatic origin (Remembers managed true origin entered))
          (do
            let thresholds ← restoreThresholds entered device
            return restored entered device behaviour thresholds)
          (fun turn world =>
            Stays automatic origin (Remembers managed true origin turn.pass)
                world ∧
              (turn.settled = true →
                Known device.id (world.since origin)))
          (fun _ => Guarded automatic origin) := by
        intro behaviour
        apply (meets_restoreThresholds resumed).bind
        intro outcome
        apply meets_pure
        rintro world ⟨⟨guarded, remembers⟩, answers⟩
        obtain ⟨kept, known⟩ := restored_remembers resumed remembers answers
        exact ⟨⟨guarded, kept⟩, known⟩
      apply meets_attempt_bind tells fun _ holds => holds.1
      · exact fun actual => rest (.ok actual)
      · exact fun failure => rest (.error failure)

section Turns

variable (calibrates : pass.runtime.calibrates device.id = true)
  (free : device.id ∉ pass.runtime.authorizationUncertainBatteries)

include calibrates free in
theorem meets_reconcileCalibrationDischarge :
    Meets (Stays automatic origin (Remembers managed true origin pass))
      (reconcileCalibrationDischarge pass device)
      (fun turn => Stays automatic origin
        (Remembers managed true origin turn.pass))
      (fun _ => Guarded automatic origin) := by
  have stable := stable_remembers managed true origin pass
  apply meets_ite
  · intro _
    apply (meets_ensureChargeBehaviour stable _).bind
    · intro turn
      apply meets_pure
      rintro world ⟨kept, guarded, remembers⟩
      exact ⟨guarded, remembers.congr kept.config kept.runtime⟩
    · intro world _ remembers
      exact remembers.runtime.allows_behaviour (.inr (.inl ⟨rfl, calibrates⟩))
        fun _ => free
  · intro _
    apply (meets_ensureChargeBehaviour stable _).bind
    · intro turn
      apply meets_ite
      · intro _
        apply meets_pure
        rintro world ⟨kept, guarded, remembers⟩
        have recalled := remembers.congr kept.config kept.runtime
        exact ⟨guarded, recalled.config, recalled.runtime.charging⟩
      · intro _
        apply meets_pure
        rintro world ⟨kept, guarded, remembers⟩
        exact ⟨guarded, remembers.congr kept.config kept.runtime⟩
    · exact fun world _ _ => allows_auto automatic origin world device.id _

include calibrates in
theorem meets_finishes :
    Meets (Stays automatic origin (Remembers managed true origin pass))
      (finishRuntimeOperation pass device)
      (fun turn => Stays automatic origin
        (Remembers managed true origin turn.pass))
      (fun _ => Guarded automatic origin) :=
  (meets_finishRuntimeOperation calibrates).weaken (fun _ holds => holds)
    (fun _ _ holds => holds.1) fun _ _ holds => holds

include calibrates free in
theorem meets_reconcileCalibration :
    Meets (Stays automatic origin (Remembers managed true origin pass))
      (reconcileCalibration pass device)
      (fun turn => Stays automatic origin
        (Remembers managed true origin turn.pass))
      (fun _ => Guarded automatic origin) := by
  have stable := stable_remembers managed true origin pass
  have complains : ∀ message, Meets
      (Stays automatic origin (Remembers managed true origin pass))
      (finishRuntimeOperation (pass.complain message) device)
      (fun turn => Stays automatic origin
        (Remembers managed true origin turn.pass))
      (fun _ => Guarded automatic origin) := by
    intro message
    have spec : Meets (Stays automatic origin
          (Remembers managed true origin (pass.complain message)))
        (finishRuntimeOperation (pass.complain message) device) _ _ :=
      meets_finishes calibrates
    exact spec.weaken (fun _ holds => ⟨holds.1, holds.2.congr rfl rfl⟩)
      (fun _ _ holds => holds) fun _ _ holds => holds
  have clock : Meets
      (Stays automatic origin (Remembers managed true origin pass)) unixMs
      (fun _ => Stays automatic origin (Remembers managed true origin pass))
      (fun _ => Guarded automatic origin) :=
    (meets_unixMs (stable.stays automatic origin).popped).weaken
      (fun _ holds => holds) (fun _ _ holds => holds) fun _ _ holds => holds.1
  apply clock.bind
  intro now
  apply meets_ite
  · exact fun _ => meets_finishes calibrates
  · intro _
    cases pass.runtime.operationPhase with
    | discharging => exact meets_reconcileCalibrationDischarge calibrates free
    | charging =>
        apply meets_ite
        · exact fun _ => meets_finishes calibrates
        · intro _
          apply (meets_ensureChargeBehaviour stable _).bind
          · intro turn
            apply meets_pure
            rintro world ⟨kept, guarded, remembers⟩
            exact ⟨guarded, remembers.congr kept.config kept.runtime⟩
          · exact fun world _ _ =>
              allows_auto automatic origin world device.id _
    | none => exact complains _
    | paused => exact complains _
    | restoring => exact complains _

end Turns

/-- The battery of the operation. -/
theorem meets_reconcileOperation (running : pass.runtime.operation ≠ .none)
    (battery : pass.runtime.operationBatteryId = device.id) :
    Meets (Stays automatic origin (Remembers managed true origin pass))
      (reconcileOperation pass device)
      (fun turn => Stays automatic origin
        (Remembers managed true origin turn.pass))
      (fun _ => Guarded automatic origin) := by
  have calibrates : pass.runtime.operation = .calibration →
      pass.runtime.calibrates device.id = true := by
    intro operation
    simp [Runtime.calibrates, operation, battery]
  apply meets_ite
  · intro _
    apply meets_ite
    · intro operation
      apply (meets_finishRuntimeOperation (calibrates operation)).bind
      intro turn
      apply meets_ite
      · intro settled
        apply meets_pure
        rintro world ⟨⟨guarded, remembers⟩, known⟩
        exact ⟨guarded, remembers.config,
          remembers.runtime.unfenced (known settled)⟩
      · exact fun _ => meets_pure fun _ holds => holds.1
    · exact fun _ => meets_pure fun _ holds => holds
  · intro uncertain
    have free : device.id ∉ pass.runtime.authorizationUncertainBatteries := by
      simpa using uncertain
    cases operation : pass.runtime.operation with
    | none => exact absurd operation running
    | calibration =>
        exact meets_reconcileCalibration (calibrates operation) free
    | inhibit =>
        apply (meets_ensureChargeBehaviour
          (stable_remembers managed true origin pass) _).bind
        · intro turn
          apply meets_pure
          rintro world ⟨kept, guarded, remembers⟩
          exact ⟨guarded, remembers.congr kept.config kept.runtime⟩
        · intro world _ remembers
          exact remembers.runtime.allows_behaviour
            (.inr (.inr ⟨rfl, operation, battery⟩)) fun _ => free

theorem meets_reconcileRuntimeOperation :
    Meets (Stays automatic origin (Remembers managed loaded origin pass))
      (reconcileRuntimeOperation pass)
      (fun resumed world => (resumed.1 = true → loaded = true) ∧
        Stays automatic origin (Remembers managed loaded origin resumed.2)
          world)
      (fun _ => Guarded automatic origin) := by
  apply meets_ite
  · intro _
    apply meets_pure
    exact fun _ holds => ⟨fun impossible => by simp at impossible, holds⟩
  · intro running
    cases loaded with
    | false =>
        rintro world ⟨_, remembers⟩
        have idle := remembers.runtime.1
        simp [Runtime.hasDurableOperation, running] at idle
    | true =>
        cases found : pass.state.devices.find?
            (·.id == pass.runtime.operationBatteryId) with
        | none =>
            apply meets_pure
            rintro world ⟨guarded, remembers⟩
            exact ⟨fun _ => rfl, guarded, remembers.congr rfl rfl⟩
        | some device =>
            have battery : device.id = pass.runtime.operationBatteryId := by
              simpa using List.find?_some found
            apply (meets_reconcileOperation running battery.symm).bind
            intro turn
            apply meets_pure
            rintro world ⟨guarded, remembers⟩
            exact ⟨fun _ => rfl, guarded, remembers.congr rfl rfl⟩

theorem meets_resume :
    Meets (Stays automatic origin (Remembers managed loaded origin pass))
      (resume pass)
      (fun resumed => Stays automatic origin
        (Remembers managed loaded origin resumed))
      (fun _ => Guarded automatic origin) := by
  apply meets_reconcileRuntimeOperation.bind
  rintro ⟨settled, resumed⟩
  cases settled with
  | false => exact meets_pure fun _ holds => holds.2
  | true =>
      apply meets_of_fact fun _ holds => holds.1 rfl
      rintro rfl
      exact meets_persist.weaken (fun _ holds => holds.2)
        (fun _ _ holds => holds) fun _ _ holds => holds

end Pass

end BarDaemon.BatteryProtection
