import BarDaemon.SleepCriticalMonitor
import BarDaemon.Traces

/-!
# Evidence for a hibernation request

A request is made only after a warning has been delivered and every
observation of its whole grace period was critical, under one policy and one
cancellation token.
-/

namespace BarDaemon.SleepPolicies

open TransitionRuns

/-! ### Reading a trace -/

/-- The mark lets a countdown go on. -/
def CriticalMark.Counts (policy : CriticalPolicy) (token : Nat) :
    CriticalMark → Prop
  | .observed seen sample current _ => seen = policy ∧ current = token ∧
      ∃ evidence, sample = some evidence ∧ evidence.critical policy = true
  | .configured _ _ => True
  | .cancelled _ => True
  | .confirmed _ => True
  | .started => False
  | .warned _ => False
  | .requested _ => False

/-- The mark is not the monitor's. -/
def CriticalMark.Aside : CriticalMark → Prop
  | .configured _ _ => True
  | .cancelled _ => True
  | .confirmed _ => True
  | _ => False

/-- A warning has been delivered, and the countdown has gone on since. -/
def Counting (trace : List CriticalMark) (policy : CriticalPolicy)
    (token deadline : Nat) : Prop :=
  ∃ early begun late, trace = early ++ .warned begun :: late ∧
    deadline = begun + policy.graceSeconds ∧
      ∀ mark ∈ late, mark.Counts policy token

/-- The last observation was critical and came after the grace period of the
warning, in which every other one was critical as well. -/
def Graced (trace : List CriticalMark) (policy : CriticalPolicy)
    (token : Nat) : Prop :=
  ∃ before deadline sample now rest,
    trace = before ++ .observed policy (some sample) token now :: rest ∧
      Counting before policy token deadline ∧ deadline ≤ now ∧
        sample.critical policy = true ∧ ∀ mark ∈ rest, mark.Aside

/-- A request has its evidence. -/
def CriticalMark.Evident (past : List CriticalMark) : CriticalMark → Prop
  | .requested request => Graced past request.policy request.token
  | _ => True

theorem Counting.concat {trace : List CriticalMark}
    {policy : CriticalPolicy} {token deadline : Nat}
    (counting : Counting trace policy token deadline) {mark : CriticalMark}
    (counts : mark.Counts policy token) :
    Counting (trace ++ [mark]) policy token deadline := by
  obtain ⟨early, begun, late, rfl, same, throughout⟩ := counting
  refine ⟨early, begun, late ++ [mark], by simp, same, ?_⟩
  intro other member
  rcases List.mem_append.mp member with earlier | last
  · exact throughout other earlier
  · obtain rfl := List.mem_singleton.mp last
    exact counts

theorem Graced.concat {trace : List CriticalMark} {policy : CriticalPolicy}
    {token : Nat} (graced : Graced trace policy token) {mark : CriticalMark}
    (aside : mark.Aside) : Graced (trace ++ [mark]) policy token := by
  obtain ⟨before, deadline, sample, now, rest, rfl, counting, reached,
    critical, quiet⟩ := graced
  refine ⟨before, deadline, sample, now, rest ++ [mark], by simp, counting,
    reached, critical, ?_⟩
  intro other member
  rcases List.mem_append.mp member with earlier | last
  · exact quiet other earlier
  · obtain rfl := List.mem_singleton.mp last
    exact aside

theorem CriticalMark.Aside.counts {mark : CriticalMark} (aside : mark.Aside)
    (policy : CriticalPolicy) (token : Nat) : mark.Counts policy token := by
  cases mark with
  | configured _ _ => exact trivial
  | cancelled _ => exact trivial
  | confirmed _ => exact trivial
  | started => exact aside.elim
  | observed => exact aside.elim
  | warned _ => exact aside.elim
  | requested _ => exact aside.elim

/-! ### The invariant -/

namespace CriticalMonitor

/-- What a stage of the monitor says of its engine. -/
def Prepared (monitor : CriticalMonitor) : CriticalStage → Prop
  | .reading policy => policy.validate = .ok ()
  | .warning refresh => refresh.fire = false ∧
      refresh.policy.validate = .ok () ∧ refresh.policy.enabled = true ∧
        monitor.engine.policy = some refresh.policy ∧
          monitor.engine.latched = false
  | .persisting refresh => refresh.fire = true →
      monitor.engine.deadline = none ∧
        Graced monitor.trace refresh.policy monitor.engine.token
  | _ => True

/-- A countdown that runs has been warned of. -/
def Warned (monitor : CriticalMonitor) : Prop :=
  ∀ deadline, monitor.engine.deadline = some deadline →
    ∃ policy, monitor.engine.policy = some policy ∧
      Counting monitor.trace policy monitor.engine.token deadline

structure Evidence (monitor : CriticalMonitor) : Prop where
  valid : monitor.settings.validate = .ok ()
  prepared : monitor.Prepared monitor.stage
  /-- Only while its warning is delivered, a countdown is not warned of. -/
  warned : (∃ refresh, monitor.stage = .warning refresh) ∨ monitor.Warned
  enabled : ∀ deadline policy, monitor.engine.deadline = some deadline →
    monitor.engine.policy = some policy → policy.enabled = true
  rested : monitor.engine.latched = true → monitor.engine.deadline = none
  evident : Traces.Each CriticalMark.Evident monitor.trace

/-- What a refresh has to know when it returns. -/
structure Returns (monitor : CriticalMonitor) (refresh : Refresh) :
    Prop where
  valid : monitor.settings.validate = .ok ()
  warned : monitor.Warned
  enabled : ∀ deadline policy, monitor.engine.deadline = some deadline →
    monitor.engine.policy = some policy → policy.enabled = true
  rested : monitor.engine.latched = true → monitor.engine.deadline = none
  evident : Traces.Each CriticalMark.Evident monitor.trace
  fire : refresh.fire = true → monitor.engine.deadline = none ∧
    Graced monitor.trace refresh.policy monitor.engine.token

variable {monitor : CriticalMonitor} {refresh : Refresh}

theorem Evidence.stop (valid : monitor.settings.validate = .ok ())
    (evident : Traces.Each CriticalMark.Evident monitor.trace)
    (phase : String) (error : Option String) :
    (monitor.stop phase error).Evidence where
  valid := valid
  prepared := trivial
  warned := .inr nofun
  enabled := nofun
  rested _ := rfl
  evident := evident

theorem Returns.finish (returns : monitor.Returns refresh) :
    (monitor.finish refresh).Evidence := by
  unfold CriticalMonitor.finish
  dsimp only
  split
  · rename_i fires
    rw [Bool.and_eq_true] at fires
    obtain ⟨stopped, graced⟩ := returns.fire fires.1
    have still : Warned { monitor with stage := .publishing } := by
      intro deadline runs
      rw [stopped] at runs
      nomatch runs
    unfold CriticalMonitor.spawn
    dsimp only
    split
    · refine ⟨returns.valid, trivial, .inr ?_, returns.enabled,
        returns.rested, Traces.each_concat_iff.mpr
          ⟨returns.evident, graced⟩⟩
      intro deadline runs
      rw [CriticalMonitor.mark, stopped] at runs
      nomatch runs
    · exact ⟨returns.valid, trivial, .inr still, returns.enabled,
        returns.rested, returns.evident⟩
  · exact ⟨returns.valid, trivial, .inr returns.warned, returns.enabled,
      returns.rested, returns.evident⟩

theorem Returns.record (returns : monitor.Returns refresh) :
    (monitor.record refresh).Evidence := by
  have kept : ∀ state, Returns
      { monitor with engine := { monitor.engine with state := state } }
        refresh :=
    fun _ => ⟨returns.valid, returns.warned, returns.enabled, returns.rested,
      returns.evident, returns.fire⟩
  have recorded : ∀ state, Evidence
      { monitor with
        engine := { monitor.engine with state := state }
        stage := .persisting refresh } :=
    fun _ => ⟨returns.valid, returns.fire, .inr returns.warned,
      returns.enabled, returns.rested, returns.evident⟩
  unfold CriticalMonitor.record
  cases refresh.sampleError with
  | none =>
      dsimp only
      split
      · exact (kept monitor.engine.state).finish
      · exact recorded monitor.engine.state
  | some error =>
      dsimp only
      split
      · exact (kept { monitor.engine.state with error := some error }).finish
      · exact recorded { monitor.engine.state with error := some error }

/-- A mark of another task. -/
theorem Evidence.aside (evidence : monitor.Evidence)
    {after : CriticalMonitor} {mark : CriticalMark} (aside : mark.Aside)
    (valid : after.settings.validate = .ok ())
    (engine : after.engine = monitor.engine)
    (stage : after.stage = monitor.stage)
    (trace : after.trace = monitor.trace ++ [mark]) : after.Evidence where
  valid := valid
  prepared := by
    have prepared := evidence.prepared
    rw [stage]
    cases held : monitor.stage with
    | persisting refresh =>
        rw [held] at prepared
        intro fires
        obtain ⟨stopped, graced⟩ := prepared fires
        rw [engine, trace]
        exact ⟨stopped, graced.concat aside⟩
    | reading policy => simpa [held, Prepared] using prepared
    | warning refresh => simpa [held, Prepared, engine] using prepared
    | waiting => exact trivial
    | publishing => exact trivial
    | stopped => exact trivial
  warned := by
    rw [stage]
    rcases evidence.warned with delivering | warned
    · exact .inl delivering
    · right
      intro deadline runs
      rw [engine] at runs ⊢
      obtain ⟨policy, same, counting⟩ := warned deadline runs
      rw [trace]
      exact ⟨policy, same, counting.concat (aside.counts _ _)⟩
  enabled := by
    rw [engine]
    exact evidence.enabled
  rested := by
    rw [engine]
    exact evidence.rested
  evident := by
    rw [trace]
    refine Traces.each_concat_iff.mpr ⟨evidence.evident, ?_⟩
    cases mark with
    | requested _ => exact aside.elim
    | configured _ _ => exact trivial
    | cancelled _ => exact trivial
    | confirmed _ => exact trivial
    | started => exact trivial
    | observed => exact trivial
    | warned _ => exact trivial

/-- What the monitor does not look at. -/
theorem Evidence.besides (evidence : monitor.Evidence)
    {after : CriticalMonitor} (settings : after.settings = monitor.settings)
    (engine : after.engine = monitor.engine)
    (stage : after.stage = monitor.stage)
    (trace : after.trace = monitor.trace) : after.Evidence := by
  obtain ⟨valid, prepared, warned, enabled, rested, evident⟩ := evidence
  obtain ⟨engine', saved, stage', settings', file, token, published, cancels,
    actions, trace'⟩ := after
  obtain rfl : engine' = monitor.engine := engine
  obtain rfl : stage' = monitor.stage := stage
  obtain rfl : settings' = monitor.settings := settings
  obtain rfl : trace' = monitor.trace := trace
  refine ⟨valid, ?_, warned, enabled, rested, evident⟩
  cases held : monitor.stage with
  | persisting refresh => simpa [held, Prepared] using prepared
  | reading policy => simpa [held, Prepared] using prepared
  | warning refresh => simpa [held, Prepared] using prepared
  | waiting => exact trivial
  | publishing => exact trivial
  | stopped => exact trivial

theorem Evidence.restarted (evidence : monitor.Evidence) (readable : Bool) :
    (monitor.restarted readable).Evidence where
  valid := evidence.valid
  prepared := by cases readable <;> exact trivial
  warned := .inr nofun
  enabled := nofun
  rested _ := rfl
  evident := Traces.each_concat_iff.mpr ⟨evidence.evident, trivial⟩

theorem evidence_initial : initial.Evidence where
  valid := rfl
  prepared := trivial
  warned := .inr nofun
  enabled := nofun
  rested _ := rfl
  evident := by
    have marked : Traces.Each CriticalMark.Evident ([] ++ [.started]) :=
      Traces.each_concat_iff.mpr ⟨Traces.each_nil, trivial⟩
    exact marked

theorem Evidence.delivered (evidence : monitor.Evidence)
    (stage : monitor.stage = .warning refresh) (result : Except String Unit)
    {now : Nat} (bounded : now < 2 ^ 63) :
    (monitor.delivered refresh result now).Evidence := by
  have prepared := evidence.prepared
  rw [stage] at prepared
  obtain ⟨quiet, valid, enabled, same, free⟩ := prepared
  cases result with
  | error text =>
      apply Returns.record
      exact ⟨evidence.valid, nofun, nofun, fun _ => rfl, evidence.evident,
        fun fires => absurd fires (by simp [quiet])⟩
  | ok delivered =>
      apply Returns.record
      refine ⟨evidence.valid, ?_, ?_, ?_, Traces.each_concat_iff.mpr
        ⟨evidence.evident, trivial⟩, fun fires => absurd fires
          (by simp [quiet])⟩
      · intro deadline runs
        obtain rfl := Option.some.inj runs
        exact ⟨refresh.policy, same, monitor.trace, now, [], rfl,
          CriticalEngine.deadlineAfter_eq bounded valid, by simp⟩
      · intro deadline policy _ adopted
        obtain rfl := Option.some.inj (same.symm.trans adopted)
        exact enabled
      · intro latched
        exact absurd (free.symm.trans latched) (by decide)

/-- An observation after which no countdown runs. -/
theorem Evidence.returns (evidence : monitor.Evidence)
    {engine : CriticalEngine} {refresh : Refresh} {policy : CriticalPolicy}
    {seen : Option Sample} {now : Nat} (stopped : engine.deadline = none)
    (fire : refresh.fire = true → Graced (monitor.trace ++
      [.observed policy seen monitor.token now]) refresh.policy engine.token) :
    Returns ({ monitor with engine := engine }.mark
      (.observed policy seen monitor.token now)) refresh where
  valid := evidence.valid
  warned deadline runs := absurd (stopped.symm.trans runs) (by simp)
  enabled deadline _ runs := absurd (stopped.symm.trans runs) (by simp)
  rested _ := stopped
  evident := Traces.each_concat_iff.mpr ⟨evidence.evident, trivial⟩
  fire fires := ⟨stopped, fire fires⟩

/-- An observation that counts on has the same warning. -/
theorem Evidence.counted (evidence : monitor.Evidence)
    {policy : CriticalPolicy} (stage : monitor.stage = .reading policy)
    {seen : Sample} (critical : seen.critical policy = true)
    (free : (monitor.engine.notice monitor.token).latched = false)
    (same : monitor.engine.policy = some policy) {deadline : Nat}
    (runs : monitor.engine.deadline = some deadline) (now : Nat) :
    Counting monitor.trace policy monitor.token deadline ∧
      monitor.engine.token = monitor.token ∧
      Counting (monitor.trace ++
        [.observed policy (some seen) monitor.token now]) policy
          monitor.token deadline := by
  obtain ⟨-, -, current⟩ := CriticalEngine.notice_eq_of_free free
  have token := current deadline runs
  have warned : monitor.Warned := by
    rcases evidence.warned with ⟨refresh, delivering⟩ | warned
    · rw [stage] at delivering
      nomatch delivering
    · exact warned
  obtain ⟨other, equal, counting⟩ := warned deadline runs
  obtain rfl := Option.some.inj (same.symm.trans equal)
  rw [token] at counting
  exact ⟨counting, token, counting.concat ⟨rfl, rfl, seen, rfl, critical⟩⟩

/-- A policy that is off has no countdown. -/
theorem Evidence.idle_of_disabled (evidence : monitor.Evidence)
    {policy : CriticalPolicy} (off : policy.enabled = false) :
    (monitor.engine.adopt policy).deadline = none := by
  cases runs : (monitor.engine.adopt policy).deadline with
  | none => rfl
  | some deadline =>
      have same := CriticalEngine.adopt_deadline runs
      have adopted := CriticalEngine.policy_adopt monitor.engine policy
      rw [same] at runs adopted
      rw [evidence.enabled deadline policy runs adopted] at off
      nomatch off

/-- An episode that is over has no countdown. -/
theorem Evidence.idle_of_latched (evidence : monitor.Evidence)
    {policy : CriticalPolicy} {token : Nat}
    (spent : ((monitor.engine.adopt policy).notice token).latched = true) :
    ((monitor.engine.adopt policy).notice token).deadline = none := by
  have rested : (monitor.engine.adopt policy).latched = true →
      (monitor.engine.adopt policy).deadline = none := by
    unfold CriticalEngine.adopt
    split
    · exact evidence.rested
    · exact fun _ => rfl
  unfold CriticalEngine.notice at spent ⊢
  split
  · rfl
  · rename_i kept
    rw [if_neg kept] at spent
    exact rested spent

theorem Evidence.observed (evidence : monitor.Evidence)
    {policy : CriticalPolicy} (stage : monitor.stage = .reading policy)
    {now : Nat} {seen : Option Sample}
    {answer : (Bool × Bool) × CriticalEngine} {error : Option String}
    (observes : monitor.engine.Observes policy now monitor.token seen answer) :
    let refresh : Refresh := ⟨policy, monitor.token, answer.1.2, error⟩
    let marked := { monitor with engine := answer.2 }.mark
      (.observed policy seen monitor.token now)
    Evidence (if answer.1.1 then { marked with stage := .warning refresh }
      else marked.record refresh) := by
  have valid : policy.validate = .ok () := by
    have prepared := evidence.prepared
    rw [stage] at prepared
    exact prepared
  intro refresh marked
  cases observes with
  | disabled sample off =>
      apply Returns.record
      exact evidence.returns (evidence.idle_of_disabled off)
        fun (fires : false = true) => nomatch fires
  | missing enabled => exact (evidence.returns rfl
        fun (fires : false = true) => nomatch fires).record
  | recovered seen enabled recovered =>
      exact (evidence.returns rfl
        fun (fires : false = true) => nomatch fires).record
  | latched seen enabled low spent =>
      apply Returns.record
      exact evidence.returns (evidence.idle_of_latched spent)
        fun (fires : false = true) => nomatch fires
  | away seen enabled low free =>
      exact (evidence.returns rfl
        fun (fires : false = true) => nomatch fires).record
  | warned seen enabled low free idle remaining =>
      have adopted := CriticalEngine.policy_adopt monitor.engine policy
      have unlatched := (CriticalEngine.notice_eq_of_free free).2.1
      refine ⟨evidence.valid, ⟨rfl, valid, enabled, adopted, unlatched⟩,
        .inl ⟨_, rfl⟩, ?_, ?_, Traces.each_concat_iff.mpr
          ⟨evidence.evident, trivial⟩⟩
      · intro deadline other _ same
        obtain rfl := Option.some.inj (adopted.symm.trans same)
        exact enabled
      · intro latched
        exact absurd (unlatched.symm.trans latched) (by decide)
  | counting seen enabled low critical free deadline same runs remaining =>
      obtain ⟨-, token, counting⟩ :=
        evidence.counted stage critical free same runs now
      apply Returns.record
      refine ⟨evidence.valid, ?_, evidence.enabled, evidence.rested,
        Traces.each_concat_iff.mpr ⟨evidence.evident, trivial⟩,
        fun (fires : false = true) => nomatch fires⟩
      intro other still
      obtain rfl := Option.some.inj (runs.symm.trans still)
      refine ⟨policy, same, ?_⟩
      rw [← token] at counting
      simpa [marked, CriticalMonitor.mark, token] using counting
  | fired seen enabled low critical free deadline same runs reached =>
      obtain ⟨counting, token, -⟩ :=
        evidence.counted stage critical free same runs now
      apply Returns.record
      apply evidence.returns rfl
      intro _
      have stopped : (monitor.engine.stop "acting" none).token =
          monitor.token := token
      rw [stopped]
      exact ⟨monitor.trace, deadline, seen, now, [], rfl, counting, reached,
        critical, by simp⟩

theorem Evidence.step (evidence : monitor.Evidence) (event : CriticalEvent) :
    (monitor.step event).Evidence := by
  cases event with
  | refresh loaded =>
      cases stage : monitor.stage with
      | waiting =>
          cases loaded with
          | ok loaded =>
              simp only [CriticalMonitor.step, stage]
              refine ⟨evidence.valid, evidence.valid, .inr ?_,
                evidence.enabled, evidence.rested, evidence.evident⟩
              rcases evidence.warned with ⟨refresh, delivering⟩ | warned
              · rw [stage] at delivering
                nomatch delivering
              · exact warned
          | error text =>
              simp only [CriticalMonitor.step, stage]
              exact .stop evidence.valid evidence.evident _ _
      | reading policy => simpa [CriticalMonitor.step, stage] using evidence
      | warning refresh => simpa [CriticalMonitor.step, stage] using evidence
      | persisting refresh =>
          simpa [CriticalMonitor.step, stage] using evidence
      | publishing => simpa [CriticalMonitor.step, stage] using evidence
      | stopped => simpa [CriticalMonitor.step, stage] using evidence
  | sampled read now =>
      simp only [CriticalMonitor.step]
      split
      · rename_i policy stage
        have valid : policy.validate = .ok () := by
          have prepared := evidence.prepared
          rw [stage] at prepared
          exact prepared
        exact evidence.observed stage
          (CriticalEngine.observes now.isLt valid _ _)
      · exact evidence
  | delivered result now =>
      simp only [CriticalMonitor.step]
      split
      · rename_i refresh stage
        exact evidence.delivered stage result now.isLt
      · exact evidence
  | persisted saving =>
      simp only [CriticalMonitor.step]
      split
      · rename_i refresh stage
        have prepared := evidence.prepared
        rw [stage] at prepared
        have warned : monitor.Warned := by
          rcases evidence.warned with ⟨other, delivering⟩ | warned
          · rw [stage] at delivering
            nomatch delivering
          · exact warned
        cases saving with
        | saved =>
            apply Returns.finish
            exact ⟨evidence.valid, warned, evidence.enabled, evidence.rested,
              evidence.evident, prepared⟩
        | failed written text =>
            apply Evidence.stop
            · exact evidence.valid
            · exact evidence.evident
      · exact evidence
  | published =>
      simp only [CriticalMonitor.step]
      split
      · rename_i stage
        refine ⟨evidence.valid, trivial, .inr ?_, evidence.enabled,
          evidence.rested, evidence.evident⟩
        rcases evidence.warned with ⟨refresh, delivering⟩ | warned
        · rw [stage] at delivering
          nomatch delivering
        · exact warned
      · exact evidence
  | ended index result =>
      simp only [CriticalMonitor.step]
      split
      · cases result with
        | ok ended =>
            apply Evidence.stop
            · exact evidence.valid
            · exact evidence.evident
        | error text =>
            apply Evidence.stop
            · exact evidence.valid
            · exact evidence.evident
      · exact evidence
  | cancel =>
      simp only [CriticalMonitor.step]
      split
      · exact evidence.besides rfl rfl rfl rfl
      · exact evidence
  | count index =>
      simp only [CriticalMonitor.step]
      split
      · have aside : CriticalMark.Aside (.cancelled (monitor.token + 1)) :=
          trivial
        exact evidence.aside aside evidence.valid rfl rfl rfl
      · exact evidence
  | load index loaded =>
      simp only [CriticalMonitor.step]
      split
      · exact evidence.besides rfl rfl rfl rfl
      · exact evidence
  | confirm index saving =>
      simp only [CriticalMonitor.step]
      split
      · rename_i token policy loaded
        have aside : CriticalMark.Aside (.confirmed token) := trivial
        cases saving with
        | saved => exact evidence.aside aside evidence.valid rfl rfl rfl
        | failed written text => exact evidence.besides rfl rfl rfl rfl
      · exact evidence
  | announce index =>
      simp only [CriticalMonitor.step]
      split
      · exact evidence.besides rfl rfl rfl rfl
      · exact evidence
  | configure policy =>
      simp only [CriticalMonitor.step]
      split
      · rename_i valid
        have aside : CriticalMark.Aside
            (.configured monitor.settings policy) := trivial
        exact evidence.aside aside valid rfl rfl rfl
      · exact evidence
  | restart readable => exact evidence.restarted readable

end CriticalMonitor

end BarDaemon.SleepPolicies
