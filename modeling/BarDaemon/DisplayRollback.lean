import BarDaemon.DisplayCompletion
import BarDaemon.DisplayTrials

/-!
# Ending a trial that is no longer valid

On an exact compositor the periodic pass ends a stale trial if and only if
what is connected of the previous layout is applicable.
-/

namespace BarDaemon.Displays

open Attempt FallibleSteps

variable [Decimals]

/-! ### The connected part of a layout -/

theorem Setting.validate_detached {setting : Setting}
    (valid : setting.validate = .ok ()) :
    { setting with mirrorOf := "" }.validate = .ok () := by
  simp only [validate, refusal_eq_ok_iff] at valid ⊢
  obtain ⟨name, mode, position, scale, transform, -, -⟩ := valid
  exact ⟨name, mode, position, scale, transform, by simp, trivial⟩

theorem Layout.Sound.connected {layout : Layout} {before : List Output}
    (sound : layout.Sound before) (outputs : List Output) :
    (layout.connected outputs).Sound outputs := by
  let cleared (setting : Setting) : Setting :=
    if setting.mirrorOf ≠ "" ∧ ¬ outputs.any (fun output =>
        output.name == setting.mirrorOf) then
      { setting with mirrorOf := "" }
    else setting
  have name (setting : Setting) : (cleared setting).name = setting.name := by
    simp only [cleared]
    split <;> rfl
  have origin {setting : Setting}
      (member : setting ∈ (layout.connected outputs).outputs) :
      ∃ original ∈ layout.outputs, cleared original = setting ∧
        original.name ∈ outputs.map Output.name := by
    obtain ⟨original, present, same⟩ := List.mem_map.mp member
    obtain ⟨isOriginal, found⟩ := List.mem_filter.mp present
    refine ⟨original, isOriginal, same, ?_⟩
    simpa [List.any_eq_true] using found
  refine ⟨?_, ?_, ?_, ?_⟩
  · intro setting member
    obtain ⟨original, isOriginal, rfl, -⟩ := origin member
    have valid := sound.valid original isOriginal
    simp only [cleared]
    split
    · exact Setting.validate_detached valid
    · exact valid
  · have names : (layout.connected outputs).outputs.map Setting.name =
        (layout.outputs.filter fun setting =>
          outputs.any fun output => output.name == setting.name).map
            Setting.name := by
      simp only [Layout.connected, List.map_map]
      exact List.map_congr_left fun setting _ => name setting
    rw [names]
    exact sound.distinct.sublist (List.filter_sublist.map _)
  · intro setting member
    obtain ⟨original, -, rfl, present⟩ := origin member
    rwa [name]
  · intro setting member enabled borrowed
    obtain ⟨original, isOriginal, rfl, -⟩ := origin member
    by_cases gone : original.mirrorOf ≠ "" ∧ ¬ outputs.any (fun output =>
        output.name == original.mirrorOf)
    · exact absurd (by simp only [cleared, if_pos gone]) borrowed
    · have kept : cleared original = original := by
        simp only [cleared, gone, if_false]
      rw [kept] at enabled borrowed ⊢
      obtain ⟨source, isSource, same, independent⟩ :=
        sound.sourced original isOriginal enabled borrowed
      have present : outputs.any (fun output =>
          output.name == original.mirrorOf) = true := by
        by_contra absent
        exact gone ⟨borrowed, absent⟩
      have own : source.mirrorOf = "" := by
        simpa using (Bool.and_eq_true_iff.mp independent).2
      refine ⟨source, List.mem_map.mpr ⟨source, ?_, ?_⟩, same, independent⟩
      · exact List.mem_filter.mpr ⟨isSource, by rwa [same]⟩
      · simp [own]

/-! ### Stale trials -/

/-- A preview has drafted the trial. -/
def Trial.Drafted (trial : Trial) : Prop :=
  ∃ world baseline settings before document outputs,
    (Service.draft world baseline settings before).1 =
      .ok (document, outputs, trial)

omit [Decimals] in
/-- The trial may not go on: it has expired, the daemon has restarted, the
machine has resumed, or the hardware has changed. -/
def Session.Stale (session : Session) (trial : Trial)
    (generation seconds instant : Nat) : Prop :=
  session.runtime.trial = some trial.id → seconds < trial.expiresAt →
    (∃ deadline, session.runtime.deadline = some deadline ∧
      instant < deadline) →
    session.runtime.resume = generation →
    Displays.topology session.topology ≠ session.runtime.topology

namespace Service

variable {world : Surroundings} {generation : Nat}

theorem save_exact (exact : world.Exact generation) (document : Document)
    (session : Session) :
    save world document session =
      (.ok (), (session.served world).wrote document) := by
  simp [save, exact.written]

theorem standing_exact (exact : world.Exact generation) {session : Session}
    {trial : Trial} {seconds instant : Nat}
    (stale : session.Stale trial generation seconds instant) :
    ∃ after, standing world trial generation seconds instant session =
        (.ok false, after) ∧ after.topology = session.topology ∧
      after.disk = session.disk := by
  by_cases remembered : (session.runtime.trial == some trial.id &&
      seconds < trial.expiresAt &&
      (session.runtime.deadline.any fun deadline => instant < deadline) &&
      session.runtime.resume == generation) = true
  · refine ⟨(session.served world).traced (.listed session.topology), ?_⟩
    have changed : Displays.topology session.topology ≠
        session.runtime.topology := by
      simp only [Bool.and_eq_true, beq_iff_eq, decide_eq_true_eq,
        Option.any_eq_true] at remembered
      obtain ⟨⟨⟨name, wall⟩, monotonic⟩, resume⟩ := remembered
      exact stale name wall monotonic resume
    have result : standing world trial generation seconds instant session =
        (.ok false,
          (session.served world).traced (.listed session.topology)) := by
      simp only [standing, bind_apply, Attempt.read, if_pos remembered,
        outputs_exact exact, beq_eq_false_iff_ne.mpr changed]
      rfl
    simp [result, served_exact exact, Session.traced]
  · refine ⟨session, ?_, rfl, rfl⟩
    simp only [standing, bind_apply, Attempt.read, if_neg remembered]
    rfl

/-- A stale trial is rolled back, and then the document is saved. -/
theorem tickAt_exact (exact : world.Exact generation) {session : Session}
    {trial : Trial} (pending : session.disk.trial = some trial)
    {seconds instant : Nat}
    (stale : session.Stale trial generation seconds instant) :
    ∃ begun, begun.topology = session.topology ∧
      tickAt world seconds instant session =
        (do
          apply world (.rollback trial)
            (trial.previous.connected session.topology)
          save world { session.disk with trial := none }
          Attempt.change fun session => { session with
            runtime := { session.runtime with
              trial := none, applied := true } }
          return ({ session.disk with trial := none }, false) :
          Service (Document × Bool)) begun := by
  let woken : Session := { session with calls := session.calls + 2 }
  have stillStale : woken.Stale trial generation seconds instant := stale
  obtain ⟨stood, result, topology, disk⟩ := standing_exact exact stillStale
  refine ⟨(stood.served world).traced (.listed stood.topology), ?_, ?_⟩
  · simpa [served_exact exact, Session.traced] using topology
  have start : tickAt world seconds instant session =
      (standing world trial generation seconds instant >>= fun goesOn =>
        if goesOn then pure (session.disk, true)
        else do
          rollback world trial
          save world { session.disk with trial := none }
          Attempt.change fun session => { session with
            runtime := { session.runtime with
              trial := none, applied := true } }
          return ({ session.disk with trial := none }, false)) woken := by
    simp only [tickAt, load, bind_apply, perform_exact exact,
      served_exact exact, Attempt.read, sleepState, reading, exact.awake,
      pending, pure_apply]
    rfl
  rw [start, bind_apply, result]
  simp only [Bool.false_eq_true, if_false, rollback, bind_apply,
    outputs_exact exact, topology]
  rfl

/-- The pass ends a stale trial exactly when what is connected of the previous
layout can be applied. -/
theorem stale_trial_ends_iff (exact : world.Exact generation)
    {session : Session} (distinct : Distinct session.topology)
    {trial : Trial} (drafted : trial.Drafted)
    (pending : session.disk.trial = some trial) {seconds instant : Nat}
    (stale : session.Stale trial generation seconds instant) :
    (∃ after, tickAt world seconds instant session =
        (.ok ({ session.disk with trial := none }, false), after) ∧
      after.disk = { session.disk with trial := none } ∧
      (trial.previous.connected session.topology).Matched after.topology) ↔
    (trial.previous.connected session.topology).Applicable
      session.topology := by
  have sound : (trial.previous.connected session.topology).Sound
      session.topology := by
    obtain ⟨earlier, baseline, settings, before, document, outputs, result⟩ :=
      drafted
    have parts := draft_eq_ok (Prod.ext result rfl)
    exact (Layout.validate_eq_ok parts.2.2.2.2.2.2).1.connected _
  obtain ⟨begun, topology, same⟩ :=
    tickAt_exact exact pending stale
  have spec := meets_apply exact distinct sound (.rollback trial) begun
    topology
  rw [same, bind_apply]
  rcases result : apply world (.rollback trial)
    (trial.previous.connected session.topology) begun with ⟨outcome, after⟩
  rw [result] at spec
  cases outcome with
  | ok done =>
      let ended := (after.served world).wrote
        { session.disk with trial := none }
      refine ⟨fun _ => spec.1, fun _ => ⟨{ ended with
        runtime := { ended.runtime with trial := none, applied := true } },
        ?_, rfl, ?_⟩⟩
      · simp only [bind_apply, save_exact exact, Attempt.change]
        rfl
      · simpa [ended, served_exact exact, Session.wrote] using spec.2
  | error failure =>
      refine ⟨?_, fun applicable => absurd applicable spec⟩
      rintro ⟨_, impossible, -⟩
      cases impossible

omit [Decimals] in
/-- A trial that turns a laptop panel on beside the monitor. -/
def panelTrial : Trial where
  id := "0"
  expiresAt := 20
  proposed := ⟨[{ exampleSetting "eDP-1" true "" with x := 1920 },
    exampleSetting "DP-1" true ""]⟩
  previous := monitorOnly

omit [Decimals] in
theorem drafted_panelTrial : @Trial.Drafted sixtyHertz panelTrial := by
  refine ⟨.calm, "", panelTrial.proposed.outputs,
    .initial [{ exampleOutput 0 "eDP-1" "" with disabled := true },
      exampleOutput 1 "DP-1" ""] .initial false, .initial,
    [{ exampleOutput 0 "eDP-1" "" with disabled := true },
      exampleOutput 1 "DP-1" ""], ?_⟩
  decide +kernel

omit [Decimals] in
/-- With the monitor still connected, the trial ends. -/
theorem panelTrial_ends :
    let start := Session.initial
      [exampleOutput 0 "eDP-1" "", exampleOutput 1 "DP-1" ""]
      { Document.initial with trial := some panelTrial } false
    ∃ after, @tickAt (@Surroundings.obedient sixtyHertz .calm 0) sixtyHertz
        30 0 start = (.ok (.initial, false), after) ∧
      after.disk = .initial ∧
      @Layout.Matched sixtyHertz
        (panelTrial.previous.connected start.topology) after.topology := by
  intro start
  have unmirrored : ∀ output ∈ start.topology, output.mirrored = false := by
    decide
  refine (@stale_trial_ends_iff sixtyHertz _ 0
    (@obedient_exact sixtyHertz legible_sixtyHertz .calm 0) start
    (by unfold Distinct; decide) panelTrial drafted_panelTrial rfl 30 0
    nofun).mpr (@Layout.Applicable.mk sixtyHertz _ _ ?_ ?_ ?_)
  · intro output member frees
    have mirrored := frees.mirrored
    rw [unmirrored output member] at mirrored
    cases mirrored
  · intro setting _ _
    refine .inr fun other member _ claims => ?_
    have mirrored := Output.mirrored_of_mirrorName claims
    rw [unmirrored other member] at mirrored
    cases mirrored
  · exact .inl ⟨exampleSetting "DP-1" true "", by decide, rfl⟩

omit [Decimals] in
/-- With the monitor unplugged, nothing replaces the panel, and the trial
stays. -/
theorem stale_trial_remains :
    ¬ ∀ [Decimals] (world : Surroundings) (generation : Nat)
      (session : Session) (trial : Trial) (seconds instant : Nat),
      world.Exact generation → Distinct session.topology →
      trial.Drafted → session.disk.trial = some trial →
      session.Stale trial generation seconds instant →
      session.topology ≠ [] →
      (tickAt world seconds instant session).2.disk.trial = none := by
  intro ends
  have ended := @ends sixtyHertz (@Surroundings.obedient sixtyHertz .calm 0) 0
    (Session.initial [exampleOutput 0 "eDP-1" ""]
      { Document.initial with trial := some panelTrial } false) panelTrial 30 0
    (@obedient_exact sixtyHertz legible_sixtyHertz .calm 0)
    (by unfold Distinct; decide) drafted_panelTrial rfl nofun (by decide)
  revert ended
  decide +kernel

end Service

end BarDaemon.Displays
