import BarDaemon.BatteryGuards

/-!
# Rules for the effects of the battery protection

A condition that quiet changes keep is kept by every reading and by every call
of the helper.  A save may fail with the file in place.
-/

namespace BarDaemon.BatteryProtection

open Attempt Effect

variable {Value Other : Type} {before done : World → Prop}
  {effect : Effect Value}

/-! ### Failures as values -/

theorem meets_attempt {result : Value → World → Prop}
    {failed : World → Prop}
    (spec : Meets before effect result (fun _ => failed)) :
    Meets before (attempt effect) (handled result fun _ => failed)
      (fun _ => failed) := by
  apply Meets.catching
  apply spec.weaken (fun _ holds => holds) (fun _ _ holds => holds)
  intro fault world holds
  cases fault with
  | crashed => exact holds
  | failed failure => exact holds
  | refused code message => exact holds

/-- What is done after a success and after a failure. -/
theorem meets_attempt_bind {result : Value → World → Prop}
    {failed last : World → Prop} {next : Except Failure Value → Effect Other}
    {final : Other → World → Prop}
    (spec : Meets before effect result (fun _ => failed))
    (weaker : ∀ world, failed world → last world)
    (onDone : ∀ value, Meets (result value) (next (.ok value)) final
      (fun _ => last))
    (onFailed : ∀ failure, Meets failed (next (.error failure)) final
      (fun _ => last)) :
    Meets before (attempt effect >>= next) final (fun _ => last) := by
  have attempted := (meets_attempt spec).weaken (fun _ holds => holds)
    (fun _ _ holds => holds) fun _ world holds => weaker world holds
  apply attempted.bind
  intro outcome
  cases outcome with
  | ok value => exact onDone value
  | error failure => exact onFailed failure

theorem meets_blaming {result : Value → World → Prop} {failed : World → Prop}
    {blame : Failure → Fault}
    (spec : Meets before effect result (fun _ => failed)) :
    Meets before (blaming blame effect) result (fun _ => failed) := by
  intro world holds
  have reached := spec world holds
  rcases ended : effect world with ⟨outcome, after⟩
  rw [ended] at reached
  cases outcome with
  | ok value => simpa [blaming, ended] using reached
  | error fault =>
      cases fault with
      | crashed => simpa [blaming, ended] using reached
      | failed failure => simpa [blaming, ended] using reached
      | refused code message => simpa [blaming, ended] using reached

/-- A result that is one of several is looked at for each of them. -/
theorem meets_exists {Index : Type} {before : Index → World → Prop}
    {result : Value → World → Prop} {failed : Fault → World → Prop}
    (spec : ∀ index, Meets (before index) effect result failed) :
    Meets (fun world => ∃ index, before index world) effect result
      failed := by
  rintro world ⟨index, holds⟩
  exact spec index world holds

/-! ### Conditions that are kept -/

/-- The condition does not depend on the answers. -/
def Popped (before : World → Prop) : Prop :=
  ∀ world answers, before world → before { world with answers := answers }

/-- The condition is kept where nothing but fences changes. -/
def Stable (before : World → Prop) : Prop :=
  ∀ world after, Quiet world after → before world → before after

/-- It is kept as long as no mark needs an account, too. -/
def Settled (before : World → Prop) : Prop :=
  ∀ world after, Plainly world after → before world → before after

theorem Stable.settled (stable : Stable before) : Settled before :=
  fun world after plainly => stable world after plainly.quiet

theorem Settled.popped (settled : Settled before) : Popped before :=
  fun world answers => settled world _ (plainly_answers world answers)

theorem Settled.noted (settled : Settled before) (mark : Mark)
    {world : World} (plain : mark.Plain world) (holds : before world) :
    before { world with log := world.log ++ [mark] } :=
  settled world _ (plainly_noted plain) holds

theorem Stable.and {other : World → Prop} (stable : Stable before)
    (others : Stable other) :
    Stable fun world => before world ∧ other world :=
  fun world after quiet holds =>
    ⟨stable world after quiet holds.1, others world after quiet holds.2⟩

theorem stable_true : Stable fun _ => True :=
  fun _ _ _ _ => trivial

theorem stable_carries (origin : World) (runtime : Runtime) :
    Stable (Carries origin runtime) :=
  fun _ _ quiet carries => carries.mono quiet.log

theorem stable_known (origin : World) (batteryId : String) :
    Stable fun world => Known batteryId (world.since origin) :=
  fun _ _ quiet known => known.mono (World.since_subset quiet.log)

theorem stable_shown (origin : World) (batteryId : String)
    (target : Thresholds) :
    Stable fun world => Shown batteryId target (world.since origin) :=
  fun _ _ quiet shown => shown.mono (World.since_subset quiet.log)

/-- The world is guarded, and meets a condition. -/
def Stays (automatic : Bool) (origin : World) (condition : World → Prop)
    (world : World) : Prop :=
  Guarded automatic origin world ∧ condition world

theorem Stable.stays (stable : Stable before) (automatic : Bool)
    (origin : World) : Settled (Stays automatic origin before) :=
  fun _ _ plainly holds =>
    ⟨holds.1.plainly plainly, stable _ _ plainly.quiet holds.2⟩

/-! ### Reading -/

theorem meets_nextAnswer (popped : Popped before) :
    Meets before nextAnswer (fun _ => before) (fun _ => before) := by
  intro world holds
  cases left : world.answers with
  | nil => simpa [nextAnswer, left] using holds
  | cons answer answers => simpa [nextAnswer, left] using popped _ _ holds

theorem meets_unixMs (popped : Popped before) :
    Meets before unixMs (fun _ => before) (fun _ => before) :=
  (meets_nextAnswer popped).bind fun _ => meets_pure fun _ holds => holds

theorem meets_seen {failed : Fault → World → Prop} :
    Meets before (Attempt.read : Effect World)
      (fun seen world => before world ∧ world = seen) failed :=
  meets_read fun _ holds => ⟨holds, rfl⟩

theorem meets_note (mark : Mark) {failed : Fault → World → Prop}
    (notes : ∀ world, before world →
      done { world with log := world.log ++ [mark] }) :
    Meets before (note mark) (fun _ => done) failed :=
  meets_change notes

theorem meets_loadRuntime (popped : Popped before) :
    Meets before loadRuntime
      (fun runtime world => before world ∧ world.record = some runtime)
      (fun _ => before) := by
  apply (meets_nextAnswer popped).bind
  intro answer
  apply meets_seen.bind
  intro seen
  apply meets_lift
  · rintro world runtime ⟨holds, rfl⟩ loaded
    refine ⟨holds, ?_⟩
    rw [World.record, Document.record]
    cases reading : answer.reading with
    | none =>
        rw [reading] at loaded
        rw [loaded]
        rfl
    | some message =>
        rw [reading] at loaded
        cases loaded
  · rintro world message ⟨holds, rfl⟩ _
    exact holds

theorem meets_loadConfig (popped : Popped before) :
    Meets before loadConfig
      (fun config world => before world ∧ world.config.Gives config)
      (fun _ => before) := by
  apply (meets_nextAnswer popped).bind
  intro answer
  apply meets_seen.bind
  intro seen
  apply meets_lift_bind
  · rintro message world ⟨holds, rfl⟩
    exact holds
  · intro config loaded
    apply meets_lift_bind
    · rintro message world ⟨holds, rfl⟩
      exact holds
    · intro accepted valid
      apply meets_pure
      rintro world ⟨holds, rfl⟩
      refine ⟨holds, ?_, valid⟩
      cases reading : answer.reading with
      | none => rw [← loaded, reading]
      | some message =>
          rw [reading] at loaded
          cases loaded

/-! ### Saving -/

theorem meets_save {put : World → World} (popped : Popped before)
    (puts : ∀ world, before world → done (put world)) :
    Meets before (save put) (fun _ => done)
      (fun _ world => before world ∨ done world) := by
  apply Meets.bind ((meets_nextAnswer popped).weaken
    (fun _ holds => holds) (fun _ _ holds => holds) fun _ _ => Or.inl)
  intro answer
  cases answer.saving with
  | kept => exact meets_change puts
  | failed lasting message =>
      cases lasting with
      | true =>
          exact (meets_change puts).bind fun _ => meets_fail fun _ => Or.inr
      | false => exact meets_fail fun _ => Or.inl

/-- A guarded record is saved. -/
theorem meets_saveRuntime {automatic : Bool} {origin : World}
    {runtime : Runtime} {after : World → Prop} (stable : Stable before)
    (carries : ∀ world, before world → Carries origin runtime world)
    (puts : ∀ world, before world →
      after { world with runtime := .holds runtime }) :
    Meets (Stays automatic origin before) (saveRuntime runtime)
      (fun _ => Stays automatic origin after)
      (fun _ world => Stays automatic origin before world ∨
        Stays automatic origin after world) := by
  have settled := stable.stays automatic origin
  have notes : Meets (Stays automatic origin before) (note .recorded)
      (fun _ world => Stays automatic origin before world ∧
        raisedFences (world.since origin) = [])
      (fun _ world => Stays automatic origin before world ∨
        Stays automatic origin after world) := by
    apply meets_note
    intro world holds
    refine ⟨settled.noted .recorded trivial holds, ?_⟩
    rw [World.since_append holds.1.log rfl]
    exact raisedFences_recorded _
  have popped : Popped fun world => Stays automatic origin before world ∧
      raisedFences (world.since origin) = [] :=
    fun world answers holds => ⟨settled.popped world answers holds.1, holds.2⟩
  have puts : ∀ world, Stays automatic origin before world ∧
      raisedFences (world.since origin) = [] →
      Stays automatic origin after { world with runtime := .holds runtime } :=
    fun world holds => ⟨holds.1.1.saved (carries world holds.1.2) holds.2,
      puts world holds.1.2⟩
  apply notes.bind
  intro _
  exact (meets_save popped puts).weaken (fun _ holds => holds)
    (fun _ _ holds => holds) fun _ _ holds => holds.imp_left And.left

theorem meets_saveConfig {automatic : Bool} {origin : World}
    {config : Config} {after : World → Prop} (stable : Stable before)
    (loads : origin.config.Loads)
    (puts : ∀ world, before world → config.validate = .ok () →
      after { world with config := .holds config }) :
    Meets (Stays automatic origin before) (saveConfig config)
      (fun _ => Stays automatic origin after)
      (fun _ world => Stays automatic origin before world ∨
        Stays automatic origin after world) := by
  apply meets_lift_bind
  · exact fun _ _ => Or.inl
  · intro _ valid
    apply meets_save (stable.stays automatic origin).popped
    intro world holds
    exact ⟨holds.1.configured loads valid, puts world holds.2 valid⟩

/-! ### The helper -/

theorem meets_raiseFence (settled : Settled before) (batteryId : String) :
    Meets before (raiseFence batteryId) (fun _ => before)
      (fun _ => before) := by
  apply meets_blaming
  apply (meets_loadRuntime settled.popped).bind
  intro runtime
  have popped : Popped fun world =>
      before world ∧ world.record = some runtime :=
    fun world answers holds =>
      ⟨settled.popped world answers holds.1, holds.2⟩
  have fences : ∀ world, before world ∧ world.record = some runtime →
      before { world with runtime := .holds (runtime.fence batteryId) } ∧
        World.Fenced { world with runtime := .holds (runtime.fence batteryId) }
          batteryId :=
    fun world holds =>
      ⟨settled world _ (plainly_fenced holds.2 batteryId) holds.1,
        _, rfl, runtime.mem_fence batteryId⟩
  have saves : Meets
      (fun world => before world ∧ world.record = some runtime)
      (putRuntime (runtime.fence batteryId))
      (fun _ world => before world ∧ world.Fenced batteryId)
      (fun _ => before) :=
    (meets_save popped fences).weaken (fun _ holds => holds)
      (fun _ _ holds => holds) fun _ _ holds => holds.elim And.left And.left
  apply saves.bind
  intro _
  exact meets_note _ fun world holds =>
    settled.noted (.raised batteryId) holds.2 holds.1

theorem meets_writeCall (settled : Settled before) {origin : World}
    (log : ∀ world, before world → origin.log <+: world.log)
    (batteryId : String) (written : Answer → Written Value) :
    Meets before (writeCall batteryId written)
      (fun _ world => before world ∧ .answered batteryId ∈ world.since origin)
      (fun _ => before) := by
  apply (meets_nextAnswer settled.popped).bind
  intro answer
  cases written answer with
  | done value =>
      have notes : ∀ world, before world →
          before { world with log := world.log ++ [.answered batteryId] } ∧
            .answered batteryId ∈ World.since
              { world with log := world.log ++ [.answered batteryId] }
              origin := by
        intro world holds
        refine ⟨settled.noted (.answered batteryId) trivial holds, ?_⟩
        rw [World.since_append (log world holds) rfl]
        simp
      exact (meets_note _ notes).bind fun _ => meets_pure fun _ holds => holds
  | refused message => exact meets_fail fun _ holds => holds
  | unknown =>
      exact (meets_raiseFence settled batteryId).bind fun _ =>
        meets_fail fun _ holds => holds

section Helper

variable {automatic : Bool} {origin : World}

theorem meets_setThresholds (stable : Stable before) {batteryId : String}
    {target : Thresholds}
    (allowed : ∀ world, Guarded automatic origin world → before world →
      (Mark.asked batteryId target world.config world.runtime).Allowed
        automatic origin (world.since origin)) :
    Meets (Stays automatic origin before) (setThresholds batteryId target)
      (fun result world => Stays automatic origin before world ∧
        .answered batteryId ∈ world.since origin ∧
        (result.verified = true → result.actual = target ∧
          .confirmed batteryId target ∈ world.since origin))
      (fun _ => Stays automatic origin before) := by
  have settled := stable.stays automatic origin
  have log : ∀ world, Stays automatic origin before world →
      origin.log <+: world.log := fun world holds => holds.1.log
  apply meets_seen.bind
  intro seen
  have asks : ∀ world, Stays automatic origin before world ∧ world = seen →
      Stays automatic origin before { world with log := world.log ++
        [.asked batteryId target seen.config seen.runtime] } := by
    rintro world ⟨holds, rfl⟩
    have quiet : Quiet world { world with log := world.log ++
        [.asked batteryId target world.config world.runtime] } :=
      .of_files (List.prefix_append _ _) rfl rfl
    exact ⟨holds.1.noted nofun (allowed world holds.1 holds.2),
      stable world _ quiet holds.2⟩
  apply (meets_note _ asks).bind
  intro _
  apply (meets_writeCall settled log batteryId (·.thresholds batteryId)).bind
  intro actual
  by_cases verified : actual = target
  · have confirms : Meets
        (fun world => Stays automatic origin before world ∧
          .answered batteryId ∈ world.since origin)
        (note (.confirmed batteryId target))
        (fun _ world => Stays automatic origin before world ∧
          .answered batteryId ∈ world.since origin ∧
          .confirmed batteryId target ∈ world.since origin)
        (fun _ => Stays automatic origin before) := by
      apply meets_note
      rintro world ⟨holds, answered⟩
      refine ⟨settled.noted (.confirmed batteryId target) trivial holds, ?_⟩
      rw [World.since_append holds.1.log rfl]
      exact ⟨List.mem_append_left _ answered, by simp⟩
    rw [if_pos verified]
    apply confirms.bind
    intro _
    exact meets_pure fun _ holds =>
      ⟨holds.1, holds.2.1, fun _ => ⟨verified, holds.2.2⟩⟩
  · rw [if_neg verified]
    intro world holds
    refine ⟨holds.1, holds.2, fun same => ?_⟩
    exact absurd (by simpa using same) verified

theorem meets_setChargeBehaviour (stable : Stable before)
    {batteryId behaviour : String}
    (allowed : ∀ world, Guarded automatic origin world → before world →
      (Mark.told batteryId behaviour world.runtime).Allowed automatic origin
        (world.since origin)) :
    Meets (Stays automatic origin before)
      (setChargeBehaviour batteryId behaviour)
      (fun _ world => Stays automatic origin before world ∧
        .answered batteryId ∈ world.since origin)
      (fun _ => Stays automatic origin before) := by
  have settled := stable.stays automatic origin
  apply meets_seen.bind
  intro seen
  have tells : ∀ world, Stays automatic origin before world ∧ world = seen →
      Stays automatic origin before { world with log := world.log ++
        [.told batteryId behaviour seen.runtime] } := by
    rintro world ⟨holds, rfl⟩
    have quiet : Quiet world { world with log := world.log ++
        [.told batteryId behaviour world.runtime] } :=
      .of_files (List.prefix_append _ _) rfl rfl
    exact ⟨holds.1.noted nofun (allowed world holds.1 holds.2),
      stable world _ quiet holds.2⟩
  exact (meets_note _ tells).bind fun _ =>
    meets_writeCall settled (fun world holds => holds.1.log) batteryId
      (·.behaviour batteryId)

end Helper

end BarDaemon.BatteryProtection
