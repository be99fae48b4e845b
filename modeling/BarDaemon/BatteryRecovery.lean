import BarDaemon.BatteryRestoration

/-!
# A pass that ends an operation

Where the files can be kept and the helper restores the battery, one pass
without external power pays what it is owed.  The writes to other batteries
may end as they like.
-/

namespace BarDaemon.BatteryProtection

open Attempt Effect TransitionRuns

/-- The files can be kept, and the battery takes these thresholds. -/
structure Answer.Willing (batteryId : String) (target : Thresholds)
    (answer : Answer) : Prop where
  reading : answer.reading = none
  saving : answer.saving = .kept
  thresholds : answer.thresholds batteryId = .done target
  behaviour : ∃ behaviour, answer.behaviour batteryId = .done behaviour

/-- There are answers left, and all of them are willing. -/
def Rich (batteryId : String) (target : Thresholds) (count : Nat)
    (condition : World → Prop) (world : World) : Prop :=
  count ≤ world.answers.length ∧
    (∀ answer ∈ world.answers, answer.Willing batteryId target) ∧
    condition world

/-- The record is this one, but for its fences. -/
def Records (runtime : Runtime) (world : World) : Prop :=
  ∃ fences, world.record =
    some { runtime with authorizationUncertainBatteries := fences }

/-- The process does not die, and nothing is raised. -/
def Never : Fault → World → Prop :=
  fun _ _ => False

/-- No operation is recorded any more. -/
def Clear (world : World) : Prop :=
  ∃ runtime, world.record = some runtime ∧
    runtime.hasDurableOperation = false

variable {batteryId : String} {target : Thresholds} {count : Nat}
  {P : World → Prop} {runtime : Runtime} {pass : Pass} {device : Device}

theorem Rich.mono {fewer : Nat} {world : World}
    (rich : Rich batteryId target count P world) (le : fewer ≤ count) :
    Rich batteryId target fewer P world :=
  ⟨le.trans rich.1, rich.2⟩

theorem stable_records (runtime : Runtime) : Stable (Records runtime) := by
  rintro world after quiet ⟨fences, found⟩
  obtain ⟨others, recorded, _⟩ := quiet.record _ found
  exact ⟨others, recorded⟩

theorem Records.readable {world : World} (records : Records runtime world) :
    ∃ recorded, world.record = some recorded :=
  ⟨_, records.choose_spec⟩

/-! ### Effects -/

theorem meets_of_never {Value : Type} {effect : Effect Value}
    {before : World → Prop} {done : Value → World → Prop}
    {failed : Fault → World → Prop} (spec : Meets before effect done Never) :
    Meets before effect done failed :=
  spec.weaken (fun _ holds => holds) (fun _ _ holds => holds)
    fun _ _ impossible => impossible.elim

/-- What fails can be gone on from. -/
def Fails (after : World → Prop) (fault : Fault) (world : World) : Prop :=
  (∃ failure, fault = .failed failure) ∧ after world

theorem rich_attempt {Value : Type} {effect : Effect Value}
    {before after : World → Prop}
    (spec : Meets before effect (fun _ => after) (Fails after)) :
    Meets before (attempt effect) (fun _ => after) Never := by
  apply Meets.catching
  apply spec.weaken (fun _ holds => holds) (fun _ _ holds => holds)
  rintro _ world ⟨⟨failure, rfl⟩, holds⟩
  exact holds

theorem rich_nextAnswer (popped : Popped P) :
    Meets (Rich batteryId target (count + 1) P) nextAnswer
      (fun answer world => answer.Willing batteryId target ∧
        Rich batteryId target count P world)
      Never := by
  rintro world ⟨enough, willing, holds⟩
  cases left : world.answers with
  | nil =>
      rw [left] at enough
      simp at enough
  | cons answer answers =>
      rw [left] at enough willing
      simp only [nextAnswer, left]
      exact ⟨willing answer List.mem_cons_self, by simpa using enough,
        fun other member => willing other (List.mem_cons_of_mem _ member),
        popped world answers holds⟩

theorem rich_note (stable : Stable P) (mark : Mark) :
    Meets (Rich batteryId target count P) (note mark)
      (fun _ => Rich batteryId target count P) Never :=
  meets_change fun _ rich => ⟨rich.1, rich.2.1,
    stable _ _ (.of_files (List.prefix_append _ _) rfl rfl) rich.2.2⟩

theorem rich_unixMs (stable : Stable P) :
    Meets (Rich batteryId target (count + 1) P) unixMs
      (fun _ => Rich batteryId target count P) Never :=
  (rich_nextAnswer stable.settled.popped).bind fun _ =>
    meets_pure fun _ holds => holds.2

theorem rich_loadRuntime (stable : Stable P)
    (readable : ∀ world, P world → ∃ recorded, world.record = some recorded) :
    Meets (Rich batteryId target (count + 1) P) loadRuntime
      (fun loaded => Rich batteryId target count fun world =>
        P world ∧ world.record = some loaded)
      Never := by
  apply (rich_nextAnswer stable.settled.popped).bind
  intro answer
  apply meets_seen.bind
  intro seen
  have found : ∀ world, (answer.Willing batteryId target ∧
      Rich batteryId target count P world) ∧ world = seen →
        (seen.runtime.load .default answer.reading).toOption =
          world.record := by
    rintro world ⟨⟨willing, _⟩, rfl⟩
    rw [willing.reading, World.record, Document.record]
  apply meets_lift
  · rintro world loaded holds read
    have same := found world holds
    rw [read] at same
    obtain ⟨enough, all, condition⟩ := holds.1.2
    exact ⟨enough, all, condition, same.symm⟩
  · rintro world message holds read
    obtain ⟨recorded, here⟩ := readable world holds.1.2.2.2
    have same := found world holds
    rw [read, here] at same
    cases same

/-- Whatever the configuration is, it costs one answer. -/
theorem rich_loadConfig (stable : Stable P) :
    Meets (Rich batteryId target (count + 1) P) (attempt loadConfig)
      (fun _ => Rich batteryId target count P) Never := by
  apply rich_attempt
  apply (meets_of_never (rich_nextAnswer stable.settled.popped)).bind
  intro answer
  apply meets_seen.bind
  intro seen
  apply meets_lift_bind
  · exact fun message world holds => ⟨⟨_, rfl⟩, holds.1.2⟩
  · intro config _
    apply meets_lift_bind
    · exact fun message world holds => ⟨⟨_, rfl⟩, holds.1.2⟩
    · exact fun _ _ => meets_pure fun _ holds => holds.1.2

theorem rich_save {put : World → World} {after : World → Prop}
    (popped : Popped P) (answers : ∀ world, (put world).answers = world.answers)
    (puts : ∀ world, P world → after (put world)) :
    Meets (Rich batteryId target (count + 1) P) (save put)
      (fun _ => Rich batteryId target count after) Never := by
  apply (rich_nextAnswer popped).bind
  intro answer
  apply meets_of_fact fun _ holds => holds.1
  intro willing
  rw [willing.saving]
  apply meets_change
  rintro world ⟨_, enough, all, holds⟩
  refine ⟨?_, ?_, puts world holds⟩
  · rwa [answers]
  · rwa [answers]

theorem rich_saveRuntime (stable : Stable P) :
    Meets (Rich batteryId target (count + 1) P) (saveRuntime runtime)
      (fun _ => Rich batteryId target count (Records runtime)) Never := by
  apply (rich_note stable .recorded).bind
  intro _
  exact rich_save stable.settled.popped (fun _ => rfl) fun _ _ => ⟨_, rfl⟩

/-- A write to the battery that is restored. -/
theorem rich_writeCall {Value : Type} (stable : Stable P)
    {written : Answer → Written Value} {expected : Value → Prop}
    (done : ∀ answer : Answer, answer.Willing batteryId target →
      ∃ value, written answer = .done value ∧ expected value) :
    Meets (Rich batteryId target (count + 1) P) (writeCall batteryId written)
      (fun value world => expected value ∧ Rich batteryId target count P world)
      Never := by
  apply (rich_nextAnswer stable.settled.popped).bind
  intro answer
  apply meets_of_fact fun _ holds => holds.1
  intro willing
  obtain ⟨value, same, met⟩ := done answer willing
  rw [same]
  have notes : Meets
      (fun world => answer.Willing batteryId target ∧
        Rich batteryId target count P world)
      (note (.answered batteryId))
      (fun _ => Rich batteryId target count P) Never :=
    (rich_note stable _).weaken (fun _ holds => holds.2)
      (fun _ _ holds => holds) fun _ _ holds => holds
  exact notes.bind fun _ => meets_pure fun _ holds => ⟨met, holds⟩

theorem rich_setThresholds (stable : Stable P) (wanted : Thresholds) :
    Meets (Rich batteryId target (count + 1) P) (setThresholds batteryId wanted)
      (fun result world => result = ⟨target, target == wanted⟩ ∧
        Rich batteryId target count P world)
      Never := by
  apply meets_seen.bind
  intro seen
  apply Meets.bind ((rich_note stable _).weaken (fun _ holds => holds.1)
    (fun _ _ holds => holds) fun _ _ holds => holds)
  intro _
  have done : ∀ answer : Answer, answer.Willing batteryId target →
      ∃ value, answer.thresholds batteryId = .done value ∧ value = target :=
    fun answer willing => ⟨target, willing.thresholds, rfl⟩
  apply (rich_writeCall stable done).bind
  intro actual
  apply meets_of_fact fun _ holds => holds.1
  rintro rfl
  have finish : Meets (Rich batteryId actual count P)
      (pure ⟨actual, actual == wanted⟩ : Effect ThresholdWriteResult)
      (fun result world => result = ⟨actual, actual == wanted⟩ ∧
        Rich batteryId actual count P world)
      Never :=
    meets_pure fun _ holds => ⟨rfl, holds⟩
  by_cases verified : actual = wanted
  · rw [if_pos verified]
    exact Meets.bind ((rich_note stable _).weaken (fun _ holds => holds.2)
      (fun _ _ holds => holds) fun _ _ holds => holds) fun _ => finish
  · rw [if_neg verified]
    exact finish.weaken (fun _ holds => holds.2) (fun _ _ holds => holds)
      fun _ _ holds => holds

theorem rich_setChargeBehaviour (stable : Stable P) (behaviour : String) :
    Meets (Rich batteryId target (count + 1) P)
      (setChargeBehaviour batteryId behaviour)
      (fun _ => Rich batteryId target count P) Never := by
  apply meets_seen.bind
  intro seen
  apply Meets.bind ((rich_note stable _).weaken (fun _ holds => holds.1)
    (fun _ _ holds => holds) fun _ _ holds => holds)
  intro _
  have done : ∀ answer : Answer, answer.Willing batteryId target →
      ∃ value, answer.behaviour batteryId = .done value ∧ True :=
    fun answer willing => willing.behaviour.imp fun _ same => ⟨same, trivial⟩
  exact (rich_writeCall stable done).weaken (fun _ holds => holds)
    (fun _ _ holds => holds.2) fun _ _ holds => holds

theorem rich_raiseFence (stable : Stable P)
    (readable : ∀ world, P world → ∃ recorded, world.record = some recorded)
    (other : String) :
    Meets (Rich batteryId target (count + 2) P) (raiseFence other)
      (fun _ => Rich batteryId target count P) Never := by
  apply meets_blaming
  apply (rich_loadRuntime stable readable).bind
  intro runtime
  have popped : Popped fun world =>
      P world ∧ world.record = some runtime :=
    fun world answers holds =>
      ⟨stable.settled.popped world answers holds.1, holds.2⟩
  have fences : ∀ world, P world ∧ world.record = some runtime →
      P { world with runtime := .holds (runtime.fence other) } :=
    fun world holds =>
      stable _ _ (plainly_fenced holds.2 other).quiet holds.1
  have saves : Meets (Rich batteryId target (count + 1) fun world =>
        P world ∧ world.record = some runtime)
      (putRuntime (runtime.fence other))
      (fun _ => Rich batteryId target count P) Never :=
    rich_save popped (fun _ => rfl) fences
  exact saves.bind fun _ => rich_note stable _

/-- A write to any battery ends somehow. -/
theorem rich_writeAny {Value : Type} (stable : Stable P)
    (readable : ∀ world, P world → ∃ recorded, world.record = some recorded)
    (other : String) (written : Answer → Written Value) :
    Meets (Rich batteryId target (count + 3) P) (writeCall other written)
      (fun _ => Rich batteryId target count P)
      (Fails (Rich batteryId target count P)) := by
  apply (meets_of_never (rich_nextAnswer stable.settled.popped)).bind
  intro answer
  have fewer : ∀ world, Rich batteryId target (count + 2) P world →
      Rich batteryId target count P world :=
    fun _ holds => holds.mono (Nat.le_add_right _ _)
  cases written answer with
  | done value =>
      apply Meets.bind (meets_of_never ((rich_note stable _).weaken
        (fun _ holds => holds.2) (fun _ _ holds => holds)
        fun _ _ holds => holds))
      exact fun _ => meets_pure fewer
  | refused message =>
      exact meets_fail fun world holds => ⟨⟨_, rfl⟩, fewer world holds.2⟩
  | unknown =>
      apply Meets.bind (meets_of_never ((rich_raiseFence stable readable
        other).weaken (fun _ holds => holds.2) (fun _ _ holds => holds)
        fun _ _ holds => holds))
      exact fun _ => meets_fail fun _ holds => ⟨⟨_, rfl⟩, holds⟩

theorem rich_attemptThresholds (stable : Stable P)
    (readable : ∀ world, P world → ∃ recorded, world.record = some recorded)
    (id : String) (wanted : Thresholds) :
    Meets (Rich batteryId target (count + 3) P)
      (attempt (setThresholds id wanted))
      (fun outcome world =>
        (id = batteryId → outcome = .ok ⟨target, target == wanted⟩) ∧
        Rich batteryId target count P world)
      Never := by
  by_cases own : id = batteryId
  · subst own
    have fewer : ∀ world, Rich id target (count + 3) P world →
        Rich id target (count + 1) P world :=
      fun _ holds => holds.mono (by omega)
    apply Meets.catching
    apply (rich_setThresholds stable wanted).weaken fewer
    · rintro result world ⟨rfl, holds⟩
      exact ⟨fun _ => rfl, holds⟩
    · exact fun _ _ impossible => impossible.elim
  · have ends : Meets (Rich batteryId target (count + 3) P)
        (setThresholds id wanted)
        (fun _ => Rich batteryId target count P)
        (Fails (Rich batteryId target count P)) := by
      apply meets_seen.bind
      intro seen
      apply Meets.bind (meets_of_never ((rich_note stable _).weaken
        (fun _ holds => holds.1) (fun _ _ holds => holds)
        fun _ _ holds => holds))
      intro _
      apply (rich_writeAny stable readable id _).bind
      intro actual
      split_ifs
      · exact (meets_of_never (rich_note stable _)).bind fun _ =>
          meets_pure fun _ holds => holds
      · exact meets_pure fun _ holds => holds
    exact (rich_attempt ends).weaken (fun _ holds => holds)
      (fun _ _ holds => ⟨fun same => absurd same own, holds⟩)
      fun _ _ holds => holds

/-- Nothing is raised, so only the success goes on. -/
theorem never_attempt_bind {Value Other : Type} {effect : Effect Value}
    {before : World → Prop} {result : Value → World → Prop}
    {next : Except Failure Value → Effect Other}
    {final : Other → World → Prop} (spec : Meets before effect result Never)
    (rest : ∀ value, Meets (result value) (next (.ok value)) final Never) :
    Meets before (attempt effect >>= next) final Never := by
  have quiet : Meets before effect result (fun _ _ => False) := spec
  apply meets_attempt_bind quiet (fun _ impossible => impossible) rest
  exact fun _ _ impossible => impossible.elim

/-! ### The parts of a pass -/

namespace Pass

theorem rich_load (state : State) :
    Meets (Rich batteryId target (count + 2) (Records runtime))
      (Pass.load state)
      (fun pass world => (pass.state = state ∧ ∃ fences, pass.runtime =
          { runtime with authorizationUncertainBatteries := fences }) ∧
        Rich batteryId target count (Records runtime) world)
      Never := by
  have stable := stable_records runtime
  have policy : Meets (Rich batteryId target (count + 2) (Records runtime))
      (loadPolicy state)
      (fun pass world => pass.state = state ∧
        Rich batteryId target (count + 1) (Records runtime) world)
      Never := by
    apply (rich_loadConfig stable).bind
    intro outcome
    cases outcome with
    | ok config => exact meets_pure fun _ holds => ⟨rfl, holds⟩
    | error failure => exact meets_pure fun _ holds => ⟨rfl, holds⟩
  apply policy.bind
  intro pass
  apply meets_of_fact fun _ holds => holds.1
  intro same
  have loads := @rich_loadRuntime batteryId target count _ stable
    fun _ => Records.readable
  apply never_attempt_bind (loads.weaken (fun _ holds => holds.2)
    (fun _ _ holds => holds) fun _ _ holds => holds)
  intro loaded
  apply meets_pure
  rintro world ⟨enough, willing, ⟨fences, recorded⟩, found⟩
  exact ⟨⟨same, fences, Option.some.inj (found.symm.trans recorded)⟩, enough,
    willing, fences, recorded⟩

theorem rich_persist (stable : Stable P) :
    Meets (Rich batteryId target (count + 1) P) (persist pass)
      (fun saved world => (saved.state = pass.state ∧
        saved.runtime = pass.runtime) ∧
        Rich batteryId target count (Records pass.runtime) world)
      Never :=
  never_attempt_bind (rich_saveRuntime stable) fun _ =>
    meets_pure fun _ holds => ⟨⟨rfl, rfl⟩, holds⟩

theorem rich_persistConfig (stable : Stable P) (changed : Bool)
    (puts : ∀ world config, P world →
      P { world with config := .holds config }) :
    Meets (Rich batteryId target (count + 1) P) (persistConfig pass changed)
      (fun saved world => saved.runtime = pass.runtime ∧
        Rich batteryId target count P world)
      Never := by
  apply meets_ite
  · intro _
    have saves : Meets (Rich batteryId target (count + 1) P)
        (attempt (saveConfig pass.config))
        (fun _ => Rich batteryId target count P) Never := by
      apply rich_attempt
      apply meets_lift_bind
      · exact fun _ _ holds => ⟨⟨_, rfl⟩, holds.mono (Nat.le_succ _)⟩
      · exact fun _ _ => meets_of_never (rich_save stable.settled.popped
          (fun _ => rfl) fun world => puts world pass.config)
    apply saves.bind
    intro outcome
    exact meets_pure fun _ holds => ⟨runtime_complainOf pass outcome, holds⟩
  · exact fun _ => meets_pure fun _ holds =>
      ⟨rfl, holds.mono (Nat.le_succ _)⟩

theorem rich_applyThreshold (stable : Stable P)
    (readable : ∀ world, P world → ∃ recorded, world.record = some recorded)
    (intent : ThresholdIntent) :
    Meets (Rich batteryId target (count + 3) P)
      (applyThreshold pass device intent)
      (fun applied world => (applied.pass.runtime = pass.runtime ∧
        (device.id = batteryId → intent.target = some target →
          intent.canControl = true → applied.applied = true)) ∧
        Rich batteryId target count P world)
      Never := by
  have fewer : ∀ world, Rich batteryId target (count + 3) P world →
      Rich batteryId target count P world :=
    fun _ holds => holds.mono (Nat.le_add_right _ _)
  rw [applyThreshold]
  cases intended : intent.target with
  | none =>
      apply meets_pure
      exact fun _ holds => ⟨⟨rfl, fun _ impossible => by cases impossible⟩,
        fewer _ holds⟩
  | some wanted =>
      apply meets_ite
      · intro _
        split_ifs
        · apply (rich_note stable _).bind
          exact fun _ => meets_pure fun _ holds =>
            ⟨⟨rfl, fun _ _ _ => rfl⟩, fewer _ holds⟩
        · exact fun _ holds => ⟨⟨rfl, fun _ _ _ => rfl⟩, fewer _ holds⟩
      · intro _
        apply meets_ite
        · intro uncontrolled
          apply meets_pure
          intro _ holds
          refine ⟨⟨rfl, fun _ _ control => ?_⟩, fewer _ holds⟩
          simp [control] at uncontrolled
        · intro _
          apply (rich_attemptThresholds stable readable device.id wanted).bind
          intro outcome
          apply meets_of_fact fun _ holds => holds.1
          intro restores
          cases outcome with
          | error failure =>
              apply meets_pure
              refine fun _ holds => ⟨⟨rfl, fun own => ?_⟩, holds.2⟩
              cases restores own
          | ok result =>
              apply meets_pure
              refine fun _ holds => ⟨⟨?_, fun own same _ => ?_⟩, holds.2⟩
              · simp only [written]
                split_ifs
                · rfl
                · rfl
                · rfl
              · obtain rfl := Option.some.inj same
                obtain rfl := Except.ok.inj (restores own)
                simp only [written, beq_self_eq_true, Bool.true_eq_false,
                  and_false, if_false]
                split_ifs
                · rfl
                · rfl

/-- The battery can be restored wherever it is named. -/
def Restorable (batteryId : String) (target : Thresholds) (runtime : Runtime)
    (due : Bool) (devices : List Device) : Prop :=
  ∀ pass : Pass, pass.runtime = runtime → ∀ device ∈ devices,
    device.id = batteryId →
      (pass.thresholdIntent due device).target = some target ∧
        (pass.thresholdIntent due device).canControl = true

theorem rich_reconcileDevices (due : Bool)
    (named : runtime.chargeOnceActive = true →
      runtime.chargeOnceBatteryId = batteryId)
    (devices : List Device) (progress : Progress)
    (same : progress.pass.runtime = runtime) :
    Meets (Rich batteryId target (count + 3 * devices.length)
        (Records runtime))
      (reconcileDevices due progress devices)
      (fun next world => (next.pass.runtime = runtime ∧
        (runtime.chargeOnceActive = true →
          Restorable batteryId target runtime due devices →
          progress.restored = true ∨ (∃ device ∈ devices,
            device.id = batteryId) →
          next.restored = true)) ∧
        Rich batteryId target count (Records runtime) world)
      Never := by
  induction devices generalizing progress with
  | nil =>
      apply meets_pure
      intro world holds
      refine ⟨⟨same, fun _ _ restored => ?_⟩, holds⟩
      simpa using restored
  | cons device devices ih =>
      have turn : Meets (Rich batteryId target
            (count + 3 * (device :: devices).length) (Records runtime))
          (reconcileDevice due progress device)
          (fun next world => (next.pass.runtime = runtime ∧
            (runtime.chargeOnceActive = true →
              Restorable batteryId target runtime due (device :: devices) →
              progress.restored = true ∨ device.id = batteryId →
              next.restored = true)) ∧
            Rich batteryId target (count + 3 * devices.length)
              (Records runtime) world)
          Never := by
        have applies := @rich_applyThreshold batteryId target
          (count + 3 * devices.length) _ progress.pass device
          (stable_records runtime) (fun _ => Records.readable)
          (progress.pass.thresholdIntent due device)
        apply applies.bind
        intro applied
        apply meets_pure
        rintro world ⟨⟨kept, willing⟩, holds⟩
        refine ⟨⟨kept.trans same, fun active restorable restored => ?_⟩,
          holds⟩
        by_cases here : device.id = batteryId
        · obtain ⟨intended, control⟩ := restorable progress.pass same device
            List.mem_cons_self here
          simp [same, active, named active, here,
            willing here intended control]
        · simpa [same, named active, here] using restored
      apply turn.bind
      intro next
      apply meets_of_fact fun _ holds => holds.1
      rintro ⟨kept, restores⟩
      apply (ih next kept).weaken (fun _ holds => holds.2)
      · rintro last world ⟨⟨runtime, later⟩, holds⟩
        refine ⟨⟨runtime, fun active restorable restored => ?_⟩, holds⟩
        have ahead : Restorable batteryId target _ due devices :=
          fun pass same other member =>
            restorable pass same other (List.mem_cons_of_mem _ member)
        apply later active ahead
        rcases restored with before | ⟨other, member, own⟩
        · exact .inl (restores active restorable (.inl before))
        · rcases List.mem_cons.mp member with rfl | among
          · exact .inl (restores active restorable (.inr own))
          · exact .inr ⟨other, among, own⟩
      · exact fun _ _ impossible => impossible

theorem rich_finishRuntimeOperation (stable : Stable P)
    (named : device.id = batteryId)
    (calibrates : pass.runtime.calibrates device.id = true)
    (owed : pass.runtime.operationRestoration = some target) :
    Meets (Rich batteryId target (count + 3) P)
      (finishRuntimeOperation pass device)
      (fun turn world => (turn.settled = true ∧
        turn.pass.state = pass.state ∧
        turn.pass.runtime = pass.runtime.clearOperation) ∧
        Rich batteryId target count (fun _ => True) world)
      Never := by
  subst named
  have enters : Meets (Rich device.id target (count + 3) P)
      (enterRestoring pass)
      (fun entered world => (entered.1 = true ∧ entered.2 =
        { pass with runtime :=
          { pass.runtime with operationPhase := .restoring } }) ∧
        Rich device.id target (count + 2) (fun _ => True) world)
      Never := by
    apply meets_ite
    · intro restoring
      apply meets_pure
      intro world holds
      refine ⟨⟨rfl, ?_⟩, ?_⟩
      · rw [← restoring]
      · exact ⟨(holds.mono (Nat.le_succ _)).1, holds.2.1, trivial⟩
    · intro _
      apply never_attempt_bind (rich_saveRuntime stable)
      exact fun _ => meets_pure fun _ holds =>
        ⟨⟨rfl, rfl⟩, holds.1, holds.2.1, trivial⟩
  apply enters.bind
  rintro ⟨persisted, entered⟩
  apply meets_of_fact fun _ holds => holds.1
  rintro ⟨rfl, entering⟩
  obtain rfl : entered = { pass with runtime :=
    { pass.runtime with operationPhase := .restoring } } := entering
  apply never_attempt_bind ((rich_setChargeBehaviour stable_true
    "auto").weaken (fun _ holds => holds.2) (fun _ _ holds => holds)
    fun _ _ holds => holds)
  intro actual
  have resumed : Runtime.operationRestoration
      { pass.runtime with operationPhase := .restoring } = some target := owed
  rw [restoreThresholds, resumed]
  apply never_attempt_bind (rich_setThresholds stable_true target)
  intro result
  apply meets_of_fact fun _ holds => holds.1
  rintro rfl
  have completed : Runtime.completeCalibrationRestoration
      { pass.runtime with operationPhase := .restoring } target true =
        .ok pass.runtime.clearOperation := by
    simp only [Runtime.calibrates, Bool.and_eq_true, beq_iff_eq]
      at calibrates
    simp only [Runtime.operationRestoration, thresholds_eq_some_iff] at owed
    simp [Runtime.completeCalibrationRestoration, owed, calibrates,
      Runtime.clearOperation]
  apply meets_pure
  rintro world ⟨_, holds⟩
  refine ⟨?_, holds⟩
  simp only [restored, beq_self_eq_true, completed, and_self]

/-- Without external power a calibration is always restored. -/
theorem rich_reconcileOperation (stable : Stable P)
    (named : device.id = batteryId)
    (calibrates : pass.runtime.calibrates device.id = true)
    (owed : pass.runtime.operationRestoration = some target)
    (unplugged : pass.state.plugged = false) :
    Meets (Rich batteryId target (count + 4) P) (reconcileOperation pass device)
      (fun turn world => (turn.settled = true ∧
        turn.pass.state = pass.state ∧
        turn.pass.runtime.chargeOnceActive = pass.runtime.chargeOnceActive ∧
        turn.pass.runtime.operation = .none) ∧
        Rich batteryId target count (fun _ => True) world)
      Never := by
  have operation : pass.runtime.operation = .calibration := by
    simp only [Runtime.calibrates, Bool.and_eq_true, beq_iff_eq] at calibrates
    exact calibrates.1
  have finishes : Meets (Rich batteryId target (count + 3) P)
      (finishRuntimeOperation pass device)
      (fun turn world => (turn.settled = true ∧
        turn.pass.state = pass.state ∧
        turn.pass.runtime.chargeOnceActive = pass.runtime.chargeOnceActive ∧
        turn.pass.runtime.operation = .none) ∧
        Rich batteryId target count (fun _ => True) world)
      Never := by
    apply (rich_finishRuntimeOperation stable named calibrates owed).weaken
      (fun _ holds => holds) _ fun _ _ holds => holds
    rintro turn world ⟨⟨settled, kept, same⟩, holds⟩
    rw [same]
    exact ⟨⟨settled, kept, rfl, rfl⟩, holds⟩
  apply meets_ite
  · intro _
    apply meets_ite
    · intro _
      apply (finishes.weaken (fun _ holds => holds.mono (Nat.le_succ _))
        (fun _ _ holds => holds) fun _ _ holds => holds).bind
      intro turn
      apply meets_of_fact fun _ holds => holds.1
      rintro ⟨settled, kept, active, ended⟩
      rw [if_pos settled]
      exact meets_pure fun _ holds =>
        ⟨⟨settled, kept, active, ended⟩, holds.2⟩
    · exact fun other => absurd operation other
  · intro _
    rw [operation]
    apply (rich_unixMs stable).bind
    intro now
    rw [if_pos (.inr (.inr unplugged))]
    exact finishes

theorem rich_reconcileRuntimeOperation (stable : Stable P)
    (named : pass.runtime.operationBatteryId = batteryId)
    (operation : pass.runtime.operation = .calibration)
    (owed : pass.runtime.operationRestoration = some target)
    (present : ∃ device ∈ pass.state.devices, device.id = batteryId)
    (unplugged : pass.state.plugged = false) :
    Meets (Rich batteryId target (count + 4) P) (reconcileRuntimeOperation pass)
      (fun turn world => (turn.1 = true ∧
        turn.2.state.devices.length = pass.state.devices.length ∧
        turn.2.runtime.chargeOnceActive = pass.runtime.chargeOnceActive ∧
        turn.2.runtime.operation = .none) ∧
        Rich batteryId target count (fun _ => True) world)
      Never := by
  rw [reconcileRuntimeOperation, if_neg (by rw [operation]; decide)]
  cases found : pass.state.devices.find?
      (·.id == pass.runtime.operationBatteryId) with
  | none =>
      obtain ⟨device, member, own⟩ := present
      exact absurd (beq_iff_eq.mpr (own.trans named.symm))
        (List.find?_eq_none.mp found device member)
  | some device =>
      obtain ⟨own, _⟩ := List.find?_eq_some_iff_append.mp found
      rw [beq_iff_eq] at own
      have calibrates : pass.runtime.calibrates device.id = true := by
        simp [Runtime.calibrates, operation, own]
      apply (rich_reconcileOperation stable (own.trans named) calibrates owed
        unplugged).bind
      intro turn
      apply meets_pure
      rintro world ⟨⟨settled, kept, active, ended⟩, holds⟩
      refine ⟨⟨settled, ?_, active, ended⟩, holds⟩
      simp [put, kept]

/-- An operation that is not recorded is not resumed. -/
theorem resume_eq_pure (idle : pass.runtime.operation = .none) :
    resume pass = pure pass := by
  rw [resume, reconcileRuntimeOperation, if_pos idle]
  rfl

theorem rich_resume (stable : Stable P)
    (named : pass.runtime.operationBatteryId = batteryId)
    (operation : pass.runtime.operation = .calibration)
    (owed : pass.runtime.operationRestoration = some target)
    (present : ∃ device ∈ pass.state.devices, device.id = batteryId)
    (unplugged : pass.state.plugged = false) :
    Meets (Rich batteryId target (count + 5) P) (resume pass)
      (fun resumed world =>
        (resumed.state.devices.length = pass.state.devices.length ∧
          resumed.runtime.chargeOnceActive = pass.runtime.chargeOnceActive ∧
          resumed.runtime.operation = .none) ∧
        Rich batteryId target count (Records resumed.runtime) world)
      Never := by
  have reconciles := @rich_reconcileRuntimeOperation batteryId target
    (count + 1) P pass stable named operation owed present unplugged
  apply reconciles.bind
  rintro ⟨settled, next⟩
  apply meets_of_fact fun _ holds => holds.1
  rintro ⟨rfl, length, active, ended⟩
  apply ((rich_persist stable_true).weaken (fun _ holds => holds.2)
    _ fun _ _ holds => holds)
  rintro saved world ⟨⟨state, same⟩, holds⟩
  rw [state, same]
  exact ⟨⟨length, active, ended⟩, holds⟩

/-- The battery's thresholds can be restored after charging once. -/
theorem restorable (idle : runtime.operation = .none)
    (active : runtime.chargeOnceActive = true)
    (named : runtime.chargeOnceBatteryId = batteryId)
    (owed : runtime.restoration = some target) {devices : List Device}
    (controlled : ∀ device ∈ devices, device.id = batteryId →
      device.protection.supportsStart = true ∧
        device.protection.supportsEnd = true) :
    Restorable batteryId target runtime true devices := by
  rintro pass rfl device member own
  have targets : pass.runtime.chargeOnceTargets device.id = true := by
    simp [Runtime.chargeOnceTargets, active, own, named]
  have idles : pass.runtime.calibrates device.id = false := by
    simp [Runtime.calibrates, idle]
  obtain ⟨start, finish⟩ := controlled device member own
  constructor
  · simp [thresholdIntent, reconciliationTarget, targets, idles, owed]
  · simp [thresholdIntent, start, finish]

theorem rich_reconcileThresholds (due : Bool)
    (named : pass.runtime.chargeOnceActive = true →
      pass.runtime.chargeOnceBatteryId = batteryId) :
    Meets (Rich batteryId target (count + 3 * pass.state.devices.length)
        (Records pass.runtime))
      (reconcileThresholds pass due)
      (fun progress world => (progress.pass.runtime = pass.runtime ∧
        (pass.runtime.chargeOnceActive = true →
          Restorable batteryId target pass.runtime due pass.state.devices →
          (∃ device ∈ pass.state.devices, device.id = batteryId) →
          progress.restored = true)) ∧
        Rich batteryId target count (Records pass.runtime) world)
      Never := by
  have reconciles := @rich_reconcileDevices batteryId target count
    pass.runtime due named pass.state.devices ⟨false, false, [], pass⟩ rfl
  apply reconciles.bind
  intro progress
  apply meets_pure
  rintro world ⟨⟨same, restores⟩, holds⟩
  exact ⟨⟨same, fun active restorable present =>
    restores active restorable (.inr present)⟩, holds⟩

/-- The last part of a pass. -/
theorem rich_finish (recorded : pass.runtime.operation = .none)
    (named : pass.runtime.chargeOnceActive = true →
      pass.runtime.chargeOnceBatteryId = batteryId)
    (unplugged : pass.runtime.chargeOnceActive = true →
      pass.state.plugged = false ∧
      Restorable batteryId target pass.runtime true pass.state.devices ∧
      ∃ device ∈ pass.state.devices, device.id = batteryId) :
    Meets (Rich batteryId target (3 * pass.state.devices.length + 3)
        (Records pass.runtime))
      (do
        let now ← unixMs
        let due := pass.chargeOnceIsDue now
        let progress ← reconcileThresholds pass due
        let pass ← persistConfig progress.pass progress.changed
        let pass ← finishChargeOnceIfDue pass due progress.restored
        return decorate pass.state pass.config pass.runtime pass.policyError)
      (fun _ => Clear) Never := by
  have stable := stable_records pass.runtime
  apply (rich_unixMs stable).bind
  intro now
  have reconciles := @rich_reconcileThresholds batteryId target 2 pass
    (pass.chargeOnceIsDue now) named
  apply (reconciles.weaken (fun _ holds => by rwa [Nat.add_comm])
    (fun _ _ holds => holds) fun _ _ holds => holds).bind
  intro progress
  apply meets_of_fact fun _ holds => holds.1
  rintro ⟨same, restores⟩
  have persists := @rich_persistConfig batteryId target 1 _ progress.pass
    stable progress.changed fun _ _ found => found
  apply (persists.weaken (fun _ holds => holds.2) (fun _ _ holds => holds)
    fun _ _ holds => holds).bind
  intro saved
  apply meets_of_fact fun _ holds => holds.1
  intro kept
  have finishes : Meets (fun world => saved.runtime = progress.pass.runtime ∧
      Rich batteryId target 1 (Records pass.runtime) world)
      (finishChargeOnceIfDue saved (pass.chargeOnceIsDue now)
        progress.restored)
      (fun _ => Clear) Never := by
    cases active : pass.runtime.chargeOnceActive with
    | false =>
        have idle : pass.chargeOnceIsDue now = false := by
          simp [chargeOnceIsDue, active]
        rw [idle]
        apply meets_pure
        rintro world ⟨_, _, _, fences, found⟩
        refine ⟨_, found, ?_⟩
        simp [Runtime.hasDurableOperation, active, recorded]
    | true =>
        obtain ⟨removed, restorable, present⟩ := unplugged active
        have due : pass.chargeOnceIsDue now = true := by
          simp [chargeOnceIsDue, active, removed]
        rw [due] at restores ⊢
        rw [finishChargeOnceIfDue, restores active restorable present]
        apply (@rich_persist batteryId target 0 _ _ stable).weaken
          (fun _ holds => holds.2) _ fun _ _ holds => holds
        rintro last world ⟨_, _, _, fences, found⟩
        exact ⟨_, found, rfl⟩
  exact finishes.bind fun _ => meets_pure fun _ holds => holds

/-! ### A whole pass -/

/-- The battery is at hand without external power, and its thresholds can be
set. -/
structure Restores (state : State) (batteryId : String) : Prop where
  unplugged : state.plugged = false
  present : ∃ device ∈ state.devices, device.id = batteryId
  controlled : ∀ device ∈ state.devices, device.id = batteryId →
    device.protection.supportsStart = true ∧
      device.protection.supportsEnd = true

theorem migrate_eq_pure (migrated : pass.runtime.chargeOnceActive = true →
    pass.runtime.chargeOnceBatteryId ≠ "") :
    migrateChargeOnceBattery pass = pure pass := by
  rw [migrateChargeOnceBattery, if_neg]
  rintro ⟨active, unnamed⟩
  exact migrated active unnamed

theorem runtime_warnOfUncertain (pass : Pass) :
    pass.warnOfUncertain.runtime = pass.runtime := by
  rw [warnOfUncertain]
  split_ifs
  · rfl
  · rfl

theorem state_warnOfUncertain (pass : Pass) :
    pass.warnOfUncertain.state = pass.state := by
  rw [warnOfUncertain]
  split_ifs
  · rfl
  · rfl

theorem pure_next {Value Other : Type} (value : Value)
    (next : Value → Effect Other) : (pure value >>= next) = next value :=
  rfl

theorem rich_reconcileAndDecorate {state : State}
    (single : runtime.Single) (named : batteryId ≠ "")
    (owes : runtime.Owes batteryId target)
    (restores : Pass.Restores state batteryId) :
    Meets (Rich batteryId target (3 * state.devices.length + 10)
        (Records runtime))
      (reconcileAndDecorate state) (fun _ => Clear) Never := by
  have loads := @rich_load batteryId target
    (3 * state.devices.length + 8) runtime state
  apply loads.bind
  intro pass
  apply meets_of_fact fun _ holds => holds.1
  rintro ⟨rfl, fences, same⟩
  -- The memory is the record but for the fences, which owe nothing.
  replace owes : pass.runtime.Owes batteryId target := by rwa [same]
  replace single : pass.runtime.Single := by rwa [same]
  have records : ∀ world, Records runtime world → Records pass.runtime world :=
    fun world holds => by rwa [same]
  have migrated : pass.runtime.chargeOnceActive = true →
      pass.runtime.chargeOnceBatteryId ≠ "" := by
    intro active
    rcases owes with ⟨_, same, _⟩ | ⟨calibrates, _⟩
    · rwa [same]
    · simp [Runtime.calibrates, single active] at calibrates
  rw [migrate_eq_pure migrated, pure_next]
  clear same loads
  rw [← runtime_warnOfUncertain pass] at owes single records
  rw [← state_warnOfUncertain pass] at restores ⊢
  generalize pass.warnOfUncertain = warned at *
  rcases owes with ⟨active, same, owed⟩ | ⟨calibrates, owed⟩
  · have idle := single active
    rw [resume_eq_pure idle, pure_next]
    have finishes := @rich_finish batteryId target warned idle
      (fun _ => same) fun _ => ⟨restores.unplugged,
        restorable idle active same owed restores.controlled,
        restores.present⟩
    apply finishes.weaken _ (fun _ _ holds => holds) fun _ _ holds => holds
    rintro world ⟨_, enough, willing, holds⟩
    exact ⟨le_trans (by omega) enough, willing, records world holds⟩
  · simp only [Runtime.calibrates, Bool.and_eq_true, beq_iff_eq] at calibrates
    obtain ⟨operation, same⟩ := calibrates
    have inactive : warned.runtime.chargeOnceActive = false := by
      cases active : warned.runtime.chargeOnceActive with
      | false => rfl
      | true => simp [single active] at operation
    have resumes := @rich_resume batteryId target
      (3 * warned.state.devices.length + 3) _ warned (stable_records runtime)
      same operation owed restores.present restores.unplugged
    apply (resumes.weaken (fun _ holds => holds.2) (fun _ _ holds => holds)
      fun _ _ holds => holds).bind
    intro resumed
    apply meets_of_fact fun _ holds => holds.1
    rintro ⟨length, active, ended⟩
    have idle {conclusion : Prop}
        (running : resumed.runtime.chargeOnceActive = true) : conclusion := by
      rw [active, inactive] at running
      cases running
    have finishes := @rich_finish batteryId target resumed ended idle idle
    apply finishes.weaken _ (fun _ _ holds => holds) fun _ _ holds => holds
    intro world holds
    rw [length]
    exact holds.2

end Pass

/-- A pass without external power that can restore a battery pays what it is
owed, and no operation is recorded any more. -/
theorem clear_pass {world : World} (single : world.Single)
    (named : batteryId ≠ "")
    (owed : world.Owes batteryId target) {state : State}
    (restores : Pass.Restores state batteryId) {answers : List Answer}
    (willing : ∀ answer ∈ answers, answer.Willing batteryId target)
    (enough : 3 * state.devices.length + 10 ≤ answers.length) :
    Clear (world.step (.pass state answers)) := by
  obtain ⟨runtime, recorded, owes⟩ := owed
  have spec := Pass.rich_reconcileAndDecorate (single runtime recorded) named
    owes restores
  have reached := spec { world with answers := answers }
    ⟨enough, willing, runtime.authorizationUncertainBatteries, recorded⟩
  rw [World.step]
  revert reached
  rcases Pass.reconcileAndDecorate state { world with answers := answers }
    with ⟨outcome, after⟩
  cases outcome with
  | ok value => exact id
  | error fault => exact False.elim

/-- A clear world owes nothing. -/
theorem Clear.not_owes {world : World} (clear : Clear world)
    (batteryId : String) (target : Thresholds) :
    ¬ world.Owes batteryId target := by
  rintro ⟨runtime, recorded, owes⟩
  obtain ⟨other, same, idle⟩ := clear
  obtain rfl := Option.some.inj (same.symm.trans recorded)
  simp only [Runtime.hasDurableOperation, Bool.or_eq_false_iff,
    bne_eq_false_iff_eq] at idle
  rcases owes with ⟨active, _⟩ | ⟨calibrates, _⟩
  · simp [idle.1] at active
  · simp [Runtime.calibrates, idle.2] at calibrates

/-- Whatever has failed before, and wherever the daemon has died, one pass
without external power in which the files and the battery answer gives the
battery back the thresholds that it has been owed since. -/
theorem paid_without_power (world : World) (single : world.Single)
    (events : List Event) (batteryId : String) (target : Thresholds)
    (named : batteryId ≠ "") (owed : world.Owes batteryId target)
    (state : State) (restores : Pass.Restores state batteryId)
    (answers : List Answer)
    (willing : ∀ answer ∈ answers, answer.Willing batteryId target)
    (enough : 3 * state.devices.length + 10 ≤ answers.length) :
    Shown batteryId target
      ((run World.step world (events ++ [.pass state answers])).since world) ∧
    ((run World.step world events).Owes batteryId target →
      Clear (run World.step world (events ++ [.pass state answers]))) := by
  have cleared : (run World.step world events).Owes batteryId target →
      Clear (run World.step world (events ++ [.pass state answers])) := by
    intro owes
    rw [run_append]
    exact clear_pass (single_run single events) named owes restores willing
      enough
  refine ⟨?_, cleared⟩
  have honours := honours_run single (events ++ [.pass state answers])
  rcases (honours_run single events).debts batteryId target named owed with
    owes | shown
  · exact (honours.debts batteryId target named owed).resolve_left
      ((cleared owes).not_owes batteryId target)
  · have later := honours_run (single_run single events)
      [.pass state answers]
    rw [run_append]
    exact shown.mono (World.since_subset later.log)

theorem restores_unpluggedPair : Pass.Restores unpluggedPair "BAT0" := by
  refine ⟨rfl, ⟨_, List.mem_cons_self, rfl⟩, fun device member _ => ?_⟩
  simp only [unpluggedPair, unplugged, List.map_cons, List.map_nil,
    List.cons_append, List.nil_append, List.mem_cons, List.not_mem_nil,
    or_false] at member
  rcases member with rfl | rfl
  · exact ⟨rfl, rfl⟩
  · exact ⟨rfl, rfl⟩

/-- The first battery is lifted, and both are managed. -/
def liftedPair : World :=
  { fencedPair with runtime := lifted.runtime }

/-- Nothing is answered in the first pass, and the second battery does not
answer in the next. -/
theorem paid_without_power_lifted :
    Shown "BAT0" (75, 80) ((run World.step liftedPair
      ([.pass unpluggedPair unanswered] ++
        [.pass unpluggedPair (List.replicate 16 halfAnswered)])).since
          liftedPair) ∧
    Clear (run World.step liftedPair ([.pass unpluggedPair unanswered] ++
      [.pass unpluggedPair (List.replicate 16 halfAnswered)])) := by
  have willing : ∀ answer ∈ List.replicate 16 halfAnswered,
      answer.Willing "BAT0" (75, 80) := by
    intro answer member
    rw [List.eq_of_mem_replicate member]
    exact ⟨rfl, rfl, rfl, "auto", rfl⟩
  have paid := paid_without_power liftedPair single_lifted
    [.pass unpluggedPair unanswered] "BAT0" (75, 80) (by decide) owes_lifted
    unpluggedPair restores_unpluggedPair _ willing (by decide)
  have fenced : (run World.step liftedPair
      [.pass unpluggedPair unanswered]).record =
        some { Runtime.startChargeOnce 0 "BAT0" (75, 80) with
          authorizationUncertainBatteries := ["BAT0"] } := by decide +kernel
  exact ⟨paid.1, paid.2 ⟨_, fenced, .inl ⟨rfl, rfl, rfl⟩⟩⟩

end BarDaemon.BatteryProtection
