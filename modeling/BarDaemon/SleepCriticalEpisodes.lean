import BarDaemon.SleepCriticalEvidence

/-!
# Episodes of a critical battery

An episode ends with a sample that shows recovery, or with another policy than
before.  In one episode a request is made at most once, and not after the user
has begun to cancel, provided that every cancellation is noticed and recorded.
-/

namespace BarDaemon.SleepPolicies

open TransitionRuns

/-! ### Reading a trace -/

/-- What has happened in the present episode. -/
structure Episode where
  /-- The policy of the last observation. -/
  policy : Option CriticalPolicy
  requested : Bool
  /-- A cancellation has begun in this episode. -/
  cancelled : Bool
deriving DecidableEq, Repr

namespace Episode

def none : Episode :=
  ⟨Option.none, false, false⟩

/-- A new episode. -/
def begin (policy : Option CriticalPolicy) : Episode :=
  ⟨policy, false, false⟩

/-- Whether an observation ends the episode. -/
def ends (episode : Episode) (policy : CriticalPolicy)
    (sample : Option Sample) : Bool :=
  episode.policy != some policy || sample.any (·.recovered policy)

/-- Policies that are set again and later confirmations change nothing. -/
def next (episode : Episode) : CriticalMark → Episode
  | .started => episode
  | .configured previous policy =>
      if previous = policy then episode else begin episode.policy
  | .observed policy sample _ _ =>
      if episode.ends policy sample then begin (some policy) else episode
  | .warned _ => episode
  | .cancelled _ => { episode with cancelled := true }
  | .confirmed _ => episode
  | .requested _ => { episode with requested := true }

/-- Nothing forbids a request. -/
def Open (episode : Episode) : Prop :=
  episode.requested = false ∧ episode.cancelled = false

end Episode

def episode (trace : List CriticalMark) : Episode :=
  trace.foldl Episode.next .none

@[simp]
theorem episode_concat (trace : List CriticalMark) (mark : CriticalMark) :
    episode (trace ++ [mark]) = (episode trace).next mark := by
  simp [episode]

/-- A request is the first of its episode, which has not been cancelled. -/
def CriticalMark.First (past : List CriticalMark) : CriticalMark → Prop
  | .requested _ => (episode past).Open
  | _ => True

/-! ### Conditions of a step -/

namespace CriticalMonitor

/-- The engine will notice that the token has been advanced. -/
def Notices (engine : CriticalEngine) (token : Nat) : Prop :=
  engine.latched = true ∨ engine.deadline.isSome = true ∧
    engine.token ≠ token

/-- The record keeps a new daemon from acting in the present episode. -/
def Recorded (monitor : CriticalMonitor) : Prop :=
  monitor.file.attempted = true ∧
    (monitor.file.policy = monitor.settings ∨
      some monitor.file.policy = (episode monitor.trace).policy)

/-- A cancellation meets an episode that can be cancelled, the battery can be
read while it has not been noticed, its policy is the configured one when it is
recorded, and the daemon is not started again before that. -/
def Attended (monitor : CriticalMonitor) : CriticalEvent → Prop
  | .count index => monitor.cancels[index]? = some .granted →
      monitor.engine.latched = true ∨ monitor.engine.deadline.isSome = true
  | .sampled read _ => ∀ policy, monitor.stage = .reading policy →
      policy.enabled = true → monitor.engine.policy = some policy →
        monitor.engine.latched = false →
          monitor.engine.deadline.isSome = true →
            monitor.engine.token ≠ monitor.token →
              (sample read).isOk = true
  | .confirm index _ => ∀ token policy,
      monitor.cancels[index]? = some (.loaded token policy) →
        policy = monitor.settings
  | .restart _ => (episode monitor.trace).cancelled = true → monitor.Recorded
  | _ => True

/-! ### The invariant -/

/-- Nothing has been observed since the daemon was started. -/
structure Fresh (monitor : CriticalMonitor) : Prop where
  policy : monitor.engine.policy = some monitor.file.policy
  idle : monitor.engine.deadline = none
  latched : monitor.file.attempted = true → monitor.engine.latched = true
  saved : monitor.saved = monitor.file
  phase : cancellable monitor.engine.state = false ∧
    cancellable monitor.published = false
  cancels : monitor.cancels = []
  actions : monitor.actions = []
  recorded : ¬ (episode monitor.trace).Open → monitor.Recorded
  stage : (monitor.stage = .waiting ∨ monitor.stage = .publishing ∨
      monitor.stage = .stopped) ∨
    ∃ policy, monitor.stage = .reading policy ∧
      (¬ (episode monitor.trace).Open → policy = monitor.settings)

/-- A cancelled or used episode is remembered by the engine. -/
structure Remembers (monitor : CriticalMonitor) : Prop where
  requested : (episode monitor.trace).requested = true →
    monitor.engine.latched = true
  cancelled : (episode monitor.trace).cancelled = true →
    Notices monitor.engine monitor.token

/-- A refresh knows the engine that it has observed with. -/
structure Current (monitor : CriticalMonitor) (refresh : Refresh) :
    Prop where
  policy : monitor.engine.policy = some refresh.policy
  bound : refresh.token ≤ monitor.token
  token : monitor.engine.deadline.isSome = true ∨ refresh.fire = true →
    refresh.token = monitor.engine.token
  advanced : refresh.token = monitor.token ∨
    monitor.engine.latched = true ∨ monitor.engine.deadline.isSome = true
  fire : refresh.fire = true → monitor.engine.latched = true ∧
    (refresh.token = monitor.token → (episode monitor.trace).Open)

/-- What a stage of the monitor says of its episode.  Between two refreshes
the record agrees with the engine. -/
def Agreed (monitor : CriticalMonitor) : CriticalStage → Prop
  | .warning refresh => monitor.Current refresh ∧
      monitor.engine.deadline.isSome = true
  | .persisting refresh => monitor.Current refresh
  | _ => monitor.saved.attempted = true →
      Notices monitor.engine monitor.token

/-- The monitor has observed the battery since it was started. -/
structure Living (monitor : CriticalMonitor) : Prop where
  policy : monitor.engine.policy = (episode monitor.trace).policy
  bound : monitor.engine.deadline.isSome = true →
    monitor.engine.token ≤ monitor.token
  remembers : monitor.Remembers
  agreed : monitor.Agreed monitor.stage

/-- A request is recorded before it is made. -/
def Kept (monitor : CriticalMonitor) : Prop :=
  (episode monitor.trace).requested = true → monitor.Recorded

structure Guarded (monitor : CriticalMonitor) : Prop where
  kept : monitor.Kept
  life : monitor.Fresh ∨ monitor.Living
  first : Traces.Each CriticalMark.First monitor.trace

variable {monitor : CriticalMonitor} {refresh : Refresh}

/-! ### A refresh that returns -/

/-- What a refresh has to know when it returns. -/
structure Settles (monitor : CriticalMonitor) (refresh : Refresh) :
    Prop where
  kept : monitor.Kept
  policy : monitor.engine.policy = (episode monitor.trace).policy
  bound : monitor.engine.deadline.isSome = true →
    monitor.engine.token ≤ monitor.token
  remembers : monitor.Remembers
  current : monitor.Current refresh
  first : Traces.Each CriticalMark.First monitor.trace

theorem Agreed.map {after : CriticalMonitor} {stage : CriticalStage}
    (agreed : monitor.Agreed stage)
    (current : ∀ refresh, monitor.Current refresh → after.Current refresh)
    (runs : monitor.engine.deadline.isSome = true →
      after.engine.deadline.isSome = true)
    (settled : (monitor.saved.attempted = true →
        Notices monitor.engine monitor.token) →
      after.saved.attempted = true → Notices after.engine after.token) :
    after.Agreed stage := by
  cases stage with
  | warning refresh => exact ⟨current refresh agreed.1, runs agreed.2⟩
  | persisting refresh => exact current refresh agreed
  | waiting => exact settled agreed
  | reading policy => exact settled agreed
  | publishing => exact settled agreed
  | stopped => exact settled agreed

theorem Settles.finish (settles : monitor.Settles refresh)
    (saved : monitor.saved.attempted = true →
      Notices monitor.engine monitor.token)
    (filed : refresh.fire = true → monitor.file = ⟨refresh.policy, true⟩) :
    (monitor.finish refresh).Guarded := by
  obtain ⟨kept, policy, bound, remembers, current, first⟩ := settles
  unfold CriticalMonitor.finish
  dsimp only
  split
  · rename_i fires
    rw [Bool.and_eq_true] at fires
    obtain ⟨latched, unused⟩ := current.fire fires.1
    unfold CriticalMonitor.spawn
    dsimp only
    split
    · rename_i same
      have token := current.token (.inr fires.1)
      have isOpen := unused (token.trans same)
      refine ⟨?_, .inr ⟨?_, bound, ⟨fun _ => latched, ?_⟩, saved⟩,
        Traces.each_concat_iff.mpr ⟨first, isOpen⟩⟩
      · intro _
        simp only [Recorded, CriticalMonitor.mark, filed fires.1,
          episode_concat, Episode.next]
        exact ⟨trivial, .inr (current.policy.symm.trans policy)⟩
      · simpa [CriticalMonitor.mark, Episode.next] using policy
      · intro _
        exact .inl latched
    · exact ⟨kept, .inr ⟨policy, bound, ⟨remembers.requested,
        remembers.cancelled⟩, saved⟩, first⟩
  · exact ⟨kept, .inr ⟨policy, bound, ⟨remembers.requested,
      remembers.cancelled⟩, saved⟩, first⟩

theorem Settles.record (settles : monitor.Settles refresh)
    (unsaved : refresh.fire = true → monitor.saved.attempted = false) :
    (monitor.record refresh).Guarded := by
  have kept : ∀ state, Settles
      { monitor with engine := { monitor.engine with state := state } }
        refresh := by
    intro state
    obtain ⟨kept, policy, bound, remembers, current, first⟩ := settles
    exact ⟨kept, policy, bound, ⟨remembers.requested, remembers.cancelled⟩,
      ⟨current.policy, current.bound, current.token, current.advanced,
        current.fire⟩, first⟩
  have recorded : ∀ state, Guarded
      { monitor with
        engine := { monitor.engine with state := state }
        stage := .persisting refresh } := by
    intro state
    obtain ⟨kept, policy, bound, remembers, current, first⟩ := settles
    exact ⟨kept, .inr ⟨policy, bound, ⟨remembers.requested,
      remembers.cancelled⟩, ⟨current.policy, current.bound, current.token,
        current.advanced, current.fire⟩⟩, first⟩
  have finished : ∀ state, (⟨refresh.policy, monitor.engine.latched⟩ :
      Recovery) = monitor.saved → Guarded
        ({ monitor with engine := { monitor.engine with state := state } }.finish
          refresh) := by
    intro state same
    apply (kept state).finish
    · intro attempted
      rw [← same] at attempted
      exact .inl attempted
    · intro fires
      have latched := (settles.current.fire fires).1
      have free := unsaved fires
      rw [← same, latched] at free
      nomatch free
  unfold CriticalMonitor.record
  cases refresh.sampleError with
  | none =>
      dsimp only
      split
      · rename_i same
        exact finished monitor.engine.state same
      · exact recorded monitor.engine.state
  | some error =>
      dsimp only
      split
      · rename_i same
        exact finished { monitor.engine.state with error := some error } same
      · exact recorded { monitor.engine.state with error := some error }

/-- The engine is stopped. -/
theorem Living.stop (living : monitor.Living) (kept : monitor.Kept)
    (first : Traces.Each CriticalMark.First monitor.trace) (phase : String)
    (error : Option String) : (monitor.stop phase error).Guarded where
  kept := kept
  life := .inr ⟨living.policy, nofun, ⟨fun _ => rfl, fun _ => .inl rfl⟩,
    fun _ => .inl rfl⟩
  first := first

/-! ### An observation -/

/-- The engine that has adopted the policy of an observation knows the
episode in which it is made. -/
structure Adopted (monitor : CriticalMonitor) (policy : CriticalPolicy)
    (later : Episode) : Prop where
  bound : (monitor.engine.adopt policy).deadline.isSome = true →
    monitor.engine.token ≤ monitor.token
  requested : later.requested = true →
    (monitor.engine.adopt policy).latched = true
  cancelled : later.cancelled = true →
    Notices (monitor.engine.adopt policy) monitor.token
  unsaved : (monitor.engine.adopt policy).deadline.isSome = true →
    ¬ Notices monitor.engine monitor.token → monitor.saved.attempted = false

theorem not_open_iff {episode : Episode} : ¬ episode.Open ↔
    episode.requested = true ∨ episode.cancelled = true := by
  unfold Episode.Open
  cases episode.requested <;> cases episode.cancelled <;> simp

theorem Guarded.adopted (guarded : monitor.Guarded)
    {policy : CriticalPolicy} (stage : monitor.stage = .reading policy)
    (seen : Option Sample) (token now : Nat) :
    monitor.Adopted policy
      ((episode monitor.trace).next (.observed policy seen token now)) := by
  rcases guarded.life with fresh | living
  · have idle : (monitor.engine.adopt policy).deadline = none := by
      unfold CriticalEngine.adopt
      split
      · exact fresh.idle
      · rfl
    have latched : (episode monitor.trace).ends policy seen = false →
        ¬ (episode monitor.trace).Open →
          (monitor.engine.adopt policy).latched = true := by
      intro stays used
      obtain ⟨attempted, filed⟩ := fresh.recorded used
      have same : monitor.file.policy = policy := by
        rcases filed with configured | observed
        · rcases fresh.stage with idling | ⟨read, reading, current⟩
          · rw [stage] at idling
            simp at idling
          · rw [stage] at reading
            injection reading with equal
            rw [configured, equal, current used]
        · have kept : (episode monitor.trace).policy = some policy := by
            have both := stays
            simp only [Episode.ends, Bool.or_eq_false_iff, bne_eq_false_iff_eq]
              at both
            exact both.1
          exact Option.some.inj (observed.trans kept)
      rw [CriticalEngine.adopt_same (fresh.policy.trans (by rw [same]))]
      exact fresh.latched attempted
    refine ⟨fun runs => ?_, fun requested => ?_, fun cancelled => ?_,
      fun runs => ?_⟩
    · rw [idle] at runs
      nomatch runs
    · simp only [Episode.next] at requested
      split at requested
      · nomatch requested
      · rename_i stays
        exact latched (by simpa using stays)
          (not_open_iff.mpr (.inl requested))
    · simp only [Episode.next] at cancelled
      split at cancelled
      · simp [Episode.begin] at cancelled
      · rename_i stays
        exact .inl (latched (by simpa using stays)
          (not_open_iff.mpr (.inr cancelled)))
    · rw [idle] at runs
      nomatch runs
  · have same : (episode monitor.trace).ends policy seen = false →
        monitor.engine.adopt policy = monitor.engine := by
      intro stays
      simp only [Episode.ends, Bool.or_eq_false_iff, bne_eq_false_iff_eq]
        at stays
      exact CriticalEngine.adopt_same (living.policy.trans stays.1)
    have running : (monitor.engine.adopt policy).deadline.isSome = true →
        monitor.engine.adopt policy = monitor.engine := by
      intro runs
      obtain ⟨deadline, runs⟩ := Option.isSome_iff_exists.mp runs
      exact CriticalEngine.adopt_deadline runs
    have saved := living.agreed
    rw [stage] at saved
    refine ⟨fun runs => ?_, fun requested => ?_, fun cancelled => ?_,
      fun _ unnoticed => ?_⟩
    · have kept := running runs
      rw [kept] at runs
      exact living.bound runs
    · simp only [Episode.next] at requested
      split at requested
      · nomatch requested
      · rename_i stays
        rw [same (by simpa using stays)]
        exact living.remembers.requested requested
    · simp only [Episode.next] at cancelled
      split at cancelled
      · simp [Episode.begin] at cancelled
      · rename_i stays
        rw [same (by simpa using stays)]
        exact living.remembers.cancelled cancelled
    · cases attempted : monitor.saved.attempted with
      | false => rfl
      | true => exact absurd (saved attempted) unnoticed

/-- What the engine that has observed has to know. -/
structure Answers (monitor : CriticalMonitor) (policy : CriticalPolicy)
    (later : Episode) (engine : CriticalEngine) (fire : Bool) : Prop where
  policy : engine.policy = some policy
  requested : later.requested = true → engine.latched = true
  cancelled : later.cancelled = true → Notices engine monitor.token
  token : engine.deadline.isSome = true ∨ fire = true →
    engine.token = monitor.token
  fire : fire = true → engine.latched = true ∧ later.Open

theorem Guarded.settles (guarded : monitor.Guarded) {policy : CriticalPolicy}
    {seen : Option Sample} {now : Nat} {engine : CriticalEngine} {fire : Bool}
    (answers : monitor.Answers policy ((episode monitor.trace).next
      (.observed policy seen monitor.token now)) engine fire)
    (error : Option String) :
    Settles ({ monitor with engine := engine }.mark
      (.observed policy seen monitor.token now))
        ⟨policy, monitor.token, fire, error⟩ := by
  obtain ⟨adopted, requested, cancelled, token, fires⟩ := answers
  refine ⟨?_, ?_, ?_, ⟨?_, ?_⟩, ⟨adopted, Nat.le_refl _, ?_, .inl rfl, ?_⟩,
    Traces.each_concat_iff.mpr ⟨guarded.first, trivial⟩⟩
  · intro used
    simp only [Recorded, CriticalMonitor.mark, episode_concat, Episode.next]
      at used ⊢
    split at used
    · cases used
    · rename_i stays
      rw [if_neg stays]
      exact guarded.kept used
  · simp only [CriticalMonitor.mark, episode_concat, Episode.next, adopted]
    split
    · rfl
    · rename_i stays
      have both : (episode monitor.trace).ends policy seen = false := by
        simpa using stays
      simp only [Episode.ends, Bool.or_eq_false_iff, bne_eq_false_iff_eq]
        at both
      exact both.1.symm
  · intro runs
    exact Nat.le_of_eq (token (.inl runs))
  · simpa only [CriticalMonitor.mark, episode_concat] using requested
  · simpa only [CriticalMonitor.mark, episode_concat] using cancelled
  · intro counts
    exact (token counts).symm
  · intro fired
    obtain ⟨latched, isOpen⟩ := fires fired
    simp only [CriticalMonitor.mark, episode_concat]
    exact ⟨latched, fun _ => isOpen⟩

/-- An engine that is free to act is in an episode that is open. -/
theorem Adopted.free {policy : CriticalPolicy} {later : Episode}
    (adopted : monitor.Adopted policy later)
    (free : ((monitor.engine.adopt policy).notice monitor.token).latched =
      false) : later.Open := by
  obtain ⟨-, unlatched, current⟩ := CriticalEngine.notice_eq_of_free free
  by_contra used
  rcases not_open_iff.mp used with requested | cancelled
  · have latched := adopted.requested requested
    exact absurd (unlatched.symm.trans latched) (by decide)
  · rcases adopted.cancelled cancelled with latched | ⟨runs, advanced⟩
    · exact absurd (unlatched.symm.trans latched) (by decide)
    · obtain ⟨deadline, runs⟩ := Option.isSome_iff_exists.mp runs
      exact advanced (current deadline runs)

/-- An engine that answers in an open episode. -/
theorem Answers.of_open {policy : CriticalPolicy} {later : Episode}
    {engine : CriticalEngine} {fire : Bool}
    (opened : later.Open)
    (adopted : engine.policy = some policy)
    (token : engine.deadline.isSome = true ∨ fire = true →
      engine.token = monitor.token)
    (latched : fire = true → engine.latched = true) :
    monitor.Answers policy later engine fire where
  policy := adopted
  requested requested := absurd (opened.1.symm.trans requested) (by decide)
  cancelled cancelled := absurd (opened.2.symm.trans cancelled) (by decide)
  token := token
  fire fires := ⟨latched fires, opened⟩

/-- An engine that has been latched. -/
theorem Answers.of_latched {policy : CriticalPolicy} {later : Episode}
    {engine : CriticalEngine} (adopted : engine.policy = some policy)
    (latched : engine.latched = true) (idle : engine.deadline = none) :
    monitor.Answers policy later engine false where
  policy := adopted
  requested _ := latched
  cancelled _ := .inl latched
  token counts := by simp [idle] at counts
  fire := nofun

theorem Guarded.observed (guarded : monitor.Guarded)
    (evidence : monitor.Evidence) {policy : CriticalPolicy}
    (stage : monitor.stage = .reading policy) {now : Nat}
    {seen : Option Sample} {answer : (Bool × Bool) × CriticalEngine}
    {error : Option String}
    (readable : policy.enabled = true →
      monitor.engine.policy = some policy → monitor.engine.latched = false →
        monitor.engine.deadline.isSome = true →
          monitor.engine.token ≠ monitor.token → seen ≠ none)
    (observes : monitor.engine.Observes policy now monitor.token seen answer) :
    let refresh : Refresh := ⟨policy, monitor.token, answer.1.2, error⟩
    let marked := { monitor with engine := answer.2 }.mark
      (.observed policy seen monitor.token now)
    Guarded (if answer.1.1 then { marked with stage := .warning refresh }
      else marked.record refresh) := by
  have adopted := guarded.adopted stage seen monitor.token now
  have same := CriticalEngine.policy_adopt monitor.engine policy
  intro refresh marked
  cases observes with
  | disabled _ off =>
      have idle := evidence.idle_of_disabled off
      apply Settles.record
      · apply guarded.settles
        exact ⟨same, adopted.requested, adopted.cancelled,
          by simp [idle], nofun⟩
      · exact fun (fires : false = true) => nomatch fires
  | missing enabled =>
      apply Settles.record
      · apply guarded.settles
        refine ⟨same, adopted.requested, ?_, by simp, nofun⟩
        intro cancelled
        rcases adopted.cancelled cancelled with latched | ⟨runs, advanced⟩
        · exact .inl latched
        -- the cancellation has not been noticed: there must be a sample
        · obtain ⟨deadline, running⟩ := Option.isSome_iff_exists.mp runs
          have kept := CriticalEngine.adopt_deadline running
          rw [kept] at same runs advanced
          cases latched : monitor.engine.latched with
          | true =>
              left
              simpa only [kept] using latched
          | false =>
              exact absurd rfl (readable enabled same latched runs advanced)
      · exact fun (fires : false = true) => nomatch fires
  | recovered seen enabled recovered =>
      have ended : (episode monitor.trace).next
          (.observed policy (some seen) monitor.token now) =
            .begin (some policy) := by
        simp [Episode.next, Episode.ends, recovered]
      apply Settles.record
      · apply guarded.settles
        rw [ended]
        exact .of_open ⟨rfl, rfl⟩ same (by simp) nofun
      · exact fun (fires : false = true) => nomatch fires
  | latched seen enabled low spent =>
      have adopts : ((monitor.engine.adopt policy).notice
          monitor.token).policy = some policy := by
        unfold CriticalEngine.notice
        split
        · exact same
        · exact same
      apply Settles.record
      · apply guarded.settles
        exact .of_latched adopts spent (evidence.idle_of_latched spent)
      · exact fun (fires : false = true) => nomatch fires
  | away seen enabled low free =>
      apply Settles.record
      · apply guarded.settles
        exact .of_open (adopted.free free) same (by simp) nofun
      · exact fun (fires : false = true) => nomatch fires
  | warned seen enabled low free idle remaining =>
      have answers : monitor.Answers policy
          ((episode monitor.trace).next
            (.observed policy (some seen) monitor.token now))
          { monitor.engine.adopt policy with
            token := monitor.token
            deadline := some (now + policy.graceSeconds)
            state := ⟨"countdown", remaining, none⟩ } false :=
        .of_open (adopted.free free) same (fun _ => rfl) nofun
      obtain ⟨kept, followed, bound, remembers, current, first⟩ :=
        guarded.settles answers error
      exact ⟨kept, .inr ⟨followed, bound, ⟨remembers.requested,
        remembers.cancelled⟩, ⟨⟨current.policy, current.bound, current.token,
          current.advanced, current.fire⟩, rfl⟩⟩, first⟩
  | counting seen enabled low critical free deadline policed runs remaining =>
      have kept := CriticalEngine.adopt_same policed
      have token := (CriticalEngine.notice_eq_of_free free).2.2 deadline runs
      apply Settles.record
      · apply guarded.settles
        rw [← kept] at free
        exact .of_open (adopted.free free) policed (fun _ => token) nofun
      · exact fun (fires : false = true) => nomatch fires
  | fired seen enabled low critical free deadline policed runs reached =>
      have kept := CriticalEngine.adopt_same policed
      obtain ⟨-, unlatched, current⟩ :=
        CriticalEngine.notice_eq_of_free free
      have token := current deadline runs
      apply Settles.record
      · apply guarded.settles
        rw [← kept] at free
        exact .of_open (adopted.free free) policed (fun _ => token)
          fun _ => rfl
      · intro _
        apply adopted.unsaved
        · rw [kept, runs]
          rfl
        · rintro (latched | ⟨-, advanced⟩)
          · exact absurd (unlatched.symm.trans latched) (by decide)
          · exact advanced token

/-! ### The other steps -/

theorem Guarded.delivered (guarded : monitor.Guarded)
    (quiet : refresh.fire = false) (living : monitor.Living)
    (current : monitor.Current refresh)
    (runs : monitor.engine.deadline.isSome = true)
    (result : Except String Unit) (now : Nat) :
    (monitor.delivered refresh result now).Guarded := by
  have unsaved : refresh.fire = true → monitor.saved.attempted = false :=
    fun fires => absurd (quiet.symm.trans fires) (by decide)
  have silent : ∀ {statement : Prop}, refresh.fire = true → statement :=
    fun fires => absurd (quiet.symm.trans fires) (by decide)
  cases result with
  | error text =>
      apply Settles.record
      · exact ⟨guarded.kept, living.policy, nofun, ⟨fun _ => rfl,
          fun _ => .inl rfl⟩, ⟨current.policy, current.bound, by
            simp [CriticalEngine.warningDelivered, quiet], .inr (.inl rfl),
              silent⟩, guarded.first⟩
      · exact unsaved
  | ok delivered =>
      have token := current.token (.inl runs)
      apply Settles.record
      · refine ⟨?_, ?_, fun _ => living.bound runs, ⟨?_, ?_⟩,
          ⟨current.policy, current.bound, fun _ => token, .inr (.inr rfl),
            silent⟩, Traces.each_concat_iff.mpr ⟨guarded.first, trivial⟩⟩
        · intro used
          simp only [Recorded, CriticalMonitor.mark, episode_concat,
            Episode.next] at used ⊢
          exact guarded.kept used
        · simp only [CriticalMonitor.mark, episode_concat, Episode.next]
          exact living.policy
        · simp only [CriticalMonitor.mark, episode_concat, Episode.next]
          exact living.remembers.requested
        · simp only [CriticalMonitor.mark, episode_concat, Episode.next]
          intro cancelled
          rcases living.remembers.cancelled cancelled with
            latched | ⟨-, advanced⟩
          · exact .inl latched
          · exact .inr ⟨rfl, advanced⟩
      · exact unsaved

theorem Guarded.persisted (guarded : monitor.Guarded)
    (living : monitor.Living) (current : monitor.Current refresh)
    (saving : Saving) : (monitor.persisted refresh saving).Guarded := by
  have policy : some refresh.policy = (episode monitor.trace).policy :=
    current.policy.symm.trans living.policy
  have kept : Kept { monitor with file := monitor.recovery refresh } :=
    fun used => ⟨by
      simp [CriticalMonitor.recovery, living.remembers.requested used],
      .inr policy⟩
  cases saving with
  | saved =>
      apply Settles.finish
      · exact ⟨kept, living.policy, living.bound,
          ⟨living.remembers.requested, living.remembers.cancelled⟩,
          ⟨current.policy, current.bound, current.token, current.advanced,
            current.fire⟩, guarded.first⟩
      · intro attempted
        have either : monitor.engine.latched = true ∨
            monitor.token ≠ refresh.token := by
          simpa [CriticalMonitor.recovery] using attempted
        rcases either with latched | moved
        · exact .inl latched
        · rcases current.advanced with same | latched | runs
          · exact absurd same.symm moved
          · exact .inl latched
          · right
            rw [← current.token (.inl runs)]
            exact ⟨runs, moved.symm⟩
      · intro fires
        simp [CriticalMonitor.recovery, (current.fire fires).1]
  | failed written text =>
      refine ⟨?_, .inr ⟨living.policy, nofun, ⟨fun _ => rfl, fun _ =>
        .inl rfl⟩, fun _ => .inl rfl⟩, guarded.first⟩
      cases written with
      | true => exact kept
      | false => exact guarded.kept

/-- A cancellation begins, and the engine will notice it. -/
theorem Living.count (living : monitor.Living)
    (attended : monitor.engine.latched = true ∨
      monitor.engine.deadline.isSome = true) (index : Nat) :
    (monitor.count index).Living := by
  have notices : Notices monitor.engine (monitor.token + 1) := by
    rcases attended with latched | runs
    · exact .inl latched
    · have bound := living.bound runs
      exact .inr ⟨runs, by omega⟩
  have moved : ∀ refresh, monitor.Current refresh →
      (monitor.count index).Current refresh := by
    intro refresh current
    have bound := current.bound
    refine ⟨current.policy, Nat.le_succ_of_le bound, current.token,
      .inr attended, fun fires => ⟨(current.fire fires).1, fun same => ?_⟩⟩
    have same : refresh.token = monitor.token + 1 := same
    omega
  refine ⟨?_, fun runs => Nat.le_succ_of_le (living.bound runs), ⟨?_,
    fun _ => notices⟩, ?_⟩
  · simpa [CriticalMonitor.count, CriticalMonitor.mark, Episode.next]
      using living.policy
  · simpa [CriticalMonitor.count, CriticalMonitor.mark, Episode.next]
      using living.remembers.requested
  · exact living.agreed.map moved id fun _ _ => notices

/-- What neither the engine nor the episode looks at. -/
theorem Living.besides (living : monitor.Living) {after : CriticalMonitor}
    (engine : after.engine = monitor.engine)
    (token : after.token = monitor.token)
    (saved : after.saved = monitor.saved)
    (stage : after.stage = monitor.stage)
    (same : episode after.trace = episode monitor.trace) : after.Living := by
  have moved : ∀ refresh, monitor.Current refresh → after.Current refresh := by
    rintro refresh ⟨policy, bound, current, advanced, fire⟩
    rw [← engine] at policy current advanced fire
    rw [← token] at bound advanced fire
    rw [← same] at fire
    exact ⟨policy, bound, current, advanced, fire⟩
  obtain ⟨policy, bound, ⟨requested, cancelled⟩, agreed⟩ := living
  refine ⟨?_, ?_, ⟨?_, ?_⟩, ?_⟩
  · rw [engine, same]
    exact policy
  · rw [engine, token]
    exact bound
  · rw [engine, same]
    exact requested
  · rw [engine, token, same]
    exact cancelled
  · rw [stage]
    apply agreed.map moved
    · rw [engine]
      exact id
    · rw [engine, token, saved]
      exact id

/-- Other settings begin a new episode. -/
theorem Living.configured (living : monitor.Living)
    (policy : CriticalPolicy) :
    Living ({ monitor with settings := policy }.mark
      (.configured monitor.settings policy)) := by
  by_cases same : monitor.settings = policy
  · exact living.besides rfl rfl rfl rfl (by
      simp [CriticalMonitor.mark, Episode.next, same])
  have begun : ∀ after : Episode,
      after.next (.configured monitor.settings policy) = .begin after.policy :=
    fun _ => if_neg same
  have moved : ∀ refresh, monitor.Current refresh →
      Current ({ monitor with settings := policy }.mark
        (.configured monitor.settings policy)) refresh := by
    intro refresh current
    refine ⟨current.policy, current.bound, current.token, current.advanced,
      fun fires => ⟨(current.fire fires).1, fun _ => ?_⟩⟩
    simp [CriticalMonitor.mark, begun, Episode.begin, Episode.Open]
  refine ⟨?_, living.bound, ⟨?_, ?_⟩, ?_⟩
  · simpa [CriticalMonitor.mark, begun, Episode.begin] using living.policy
  · simp [CriticalMonitor.mark, begun, Episode.begin]
  · simp [CriticalMonitor.mark, begun, Episode.begin]
  · exact living.agreed.map moved id id

theorem Guarded.configured (guarded : monitor.Guarded)
    (policy : CriticalPolicy) :
    Guarded ({ monitor with settings := policy }.mark
      (.configured monitor.settings policy)) := by
  by_cases same : monitor.settings = policy
  -- the policy is set again: neither the settings nor the episode change
  · have unchanged : episode (monitor.trace ++
        [.configured monitor.settings policy]) = episode monitor.trace := by
      simp [Episode.next, same]
    subst same
    refine ⟨?_, ?_, Traces.each_concat_iff.mpr ⟨guarded.first, trivial⟩⟩
    · have kept := guarded.kept
      unfold Kept Recorded at kept ⊢
      simpa only [CriticalMonitor.mark, unchanged] using kept
    · refine guarded.life.imp (fun fresh => ?_) fun living =>
        living.configured monitor.settings
      obtain ⟨policed, idle, latched, saved, phase, cancels, actions,
        recorded, stage⟩ := fresh
      refine ⟨policed, idle, latched, saved, phase, cancels, actions, ?_, ?_⟩
      · unfold Recorded at recorded ⊢
        simpa only [CriticalMonitor.mark, unchanged] using recorded
      · simpa only [CriticalMonitor.mark, unchanged] using stage
  · have opened : (episode (monitor.trace ++
        [.configured monitor.settings policy])).Open := by
      rw [episode_concat, Episode.next, if_neg same]
      exact ⟨rfl, rfl⟩
    refine ⟨fun used => ?_, ?_, Traces.each_concat_iff.mpr
      ⟨guarded.first, trivial⟩⟩
    · exact absurd (opened.1.symm.trans used) (by decide)
    · refine guarded.life.imp (fun fresh => ?_) fun living =>
        living.configured policy
      obtain ⟨policed, idle, latched, saved, phase, cancels, actions, -,
        stage⟩ := fresh
      refine ⟨policed, idle, latched, saved, phase, cancels, actions,
        fun used => absurd opened used, ?_⟩
      refine stage.imp_right ?_
      rintro ⟨read, reading, -⟩
      exact ⟨read, reading, fun used => absurd opened used⟩

theorem Guarded.restarted (guarded : monitor.Guarded) (readable : Bool)
    (attended : (episode monitor.trace).cancelled = true → monitor.Recorded) :
    (monitor.restarted readable).Guarded := by
  have same : episode (monitor.restarted readable).trace =
      episode monitor.trace := by
    simp [CriticalMonitor.restarted, Episode.next]
  have recorded : ¬ (episode monitor.trace).Open →
      (monitor.restarted readable).Recorded := by
    intro used
    rw [Recorded, same]
    rcases not_open_iff.mp used with requested | cancelled
    · exact guarded.kept requested
    · exact attended cancelled
  refine ⟨?_, .inl ⟨rfl, rfl, id, rfl, ⟨?_, ?_⟩, rfl, rfl, ?_, .inl ?_⟩,
    Traces.each_concat_iff.mpr ⟨guarded.first, trivial⟩⟩
  · intro requested
    rw [same] at requested
    exact recorded (not_open_iff.mpr (.inl requested))
  · simp only [CriticalMonitor.restarted, CriticalMonitor.recovered]
    cases monitor.file.attempted <;> rfl
  · cases readable <;> rfl
  · rw [same]
    exact recorded
  · cases readable with
    | true => exact .inl rfl
    | false => exact .inr (.inr rfl)

theorem guarded_initial : initial.Guarded where
  kept := nofun
  life := .inl ⟨rfl, rfl, nofun, rfl, ⟨rfl, rfl⟩, rfl, rfl,
    fun used => absurd ⟨rfl, rfl⟩ used, .inl (.inl rfl)⟩
  first := by
    have marked : Traces.Each CriticalMark.First ([] ++ [.started]) :=
      Traces.each_concat_iff.mpr ⟨Traces.each_nil, trivial⟩
    exact marked

/-! ### Runs -/

theorem Guarded.refreshed (guarded : monitor.Guarded)
    (stage : monitor.stage = .waiting) (loaded : Except String Unit) :
    (monitor.step (.refresh loaded)).Guarded := by
  cases loaded with
  | ok loaded =>
      simp only [CriticalMonitor.step, stage]
      refine ⟨guarded.kept, ?_, guarded.first⟩
      rcases guarded.life with fresh | living
      · obtain ⟨policy, idle, latched, saved, phase, cancels, actions,
          recorded, -⟩ := fresh
        exact .inl ⟨policy, idle, latched, saved, phase, cancels, actions,
          recorded, .inr ⟨monitor.settings, rfl, fun _ => rfl⟩⟩
      · have saved := living.agreed
        rw [stage] at saved
        exact .inr ⟨living.policy, living.bound, ⟨living.remembers.requested,
          living.remembers.cancelled⟩, saved⟩
  | error text =>
      simp only [CriticalMonitor.step, stage]
      rcases guarded.life with fresh | living
      · obtain ⟨policy, idle, latched, saved, phase, cancels, actions,
          recorded, -⟩ := fresh
        have still : Fresh (monitor.stop "blocked" (some text)) :=
          ⟨policy, rfl, fun _ => rfl, saved, ⟨by simp [CriticalMonitor.stop,
            CriticalEngine.stop, cancellable], phase.2⟩, cancels, actions,
            recorded, .inl (.inr (.inl rfl))⟩
        exact ⟨guarded.kept, .inl still, guarded.first⟩
      · exact living.stop guarded.kept guarded.first _ _

theorem Guarded.announced (guarded : monitor.Guarded)
    (stage : monitor.stage = .publishing) :
    (monitor.step .published).Guarded := by
  simp only [CriticalMonitor.step, stage]
  refine ⟨guarded.kept, ?_, guarded.first⟩
  rcases guarded.life with fresh | living
  · obtain ⟨policy, idle, latched, saved, phase, cancels, actions, recorded,
      -⟩ := fresh
    exact .inl ⟨policy, idle, latched, saved, ⟨phase.1, phase.1⟩, cancels,
      actions, recorded, .inl (.inl rfl)⟩
  · have saved := living.agreed
    rw [stage] at saved
    exact .inr ⟨living.policy, living.bound, ⟨living.remembers.requested,
      living.remembers.cancelled⟩, saved⟩

/-- A daemon with a cancellation or a worker has observed the battery. -/
theorem Guarded.living (guarded : monitor.Guarded)
    (used : monitor.cancels ≠ [] ∨ monitor.actions ≠ []) :
    monitor.Living := by
  rcases guarded.life with fresh | living
  · rcases used with cancels | actions
    · exact absurd fresh.cancels cancels
    · exact absurd fresh.actions actions
  · exact living

theorem Guarded.busy (guarded : monitor.Guarded)
    (busy : ¬ ((monitor.stage = .waiting ∨ monitor.stage = .publishing ∨
      monitor.stage = .stopped) ∨
        ∃ policy, monitor.stage = .reading policy)) : monitor.Living := by
  rcases guarded.life with fresh | living
  · rcases fresh.stage with idle | ⟨policy, reading, -⟩
    · exact absurd (.inl idle) busy
    · exact absurd (.inr ⟨policy, reading⟩) busy
  · exact living

theorem ne_nil_of_getElem? {α : Type} {xs : List α} {index : Nat} {x : α}
    (present : xs[index]? = some x) : xs ≠ [] := by
  rintro rfl
  cases present

theorem Guarded.step (guarded : monitor.Guarded)
    (evidence : monitor.Evidence) (event : CriticalEvent)
    (attended : monitor.Attended event) : (monitor.step event).Guarded := by
  cases event with
  | refresh loaded =>
      by_cases waits : monitor.stage = .waiting
      · exact guarded.refreshed waits loaded
      · have same : monitor.step (.refresh loaded) = monitor := by
          simp only [CriticalMonitor.step]
          split
          · exact absurd ‹_› waits
          · exact absurd ‹_› waits
          · rfl
        rw [same]
        exact guarded
  | sampled read now =>
      simp only [CriticalMonitor.step]
      split
      · rename_i policy stage
        have valid : policy.validate = .ok () := by
          have prepared := evidence.prepared
          rw [stage] at prepared
          exact prepared
        apply guarded.observed evidence stage _
          (CriticalEngine.observes now.isLt valid _ _)
        intro enabled same free runs advanced
        have known := attended policy stage enabled same free runs advanced
        rw [if_pos enabled]
        cases answer : sample read with
        | error text =>
            rw [answer] at known
            cases known
        | ok seen =>
            intro never
            cases never
      · exact guarded
  | delivered result now =>
      simp only [CriticalMonitor.step]
      split
      · rename_i refresh stage
        have prepared := evidence.prepared
        have living := guarded.busy (by simp [stage])
        have agreed := living.agreed
        rw [stage] at prepared agreed
        exact guarded.delivered prepared.1 living agreed.1 agreed.2 result now
      · exact guarded
  | persisted saving =>
      simp only [CriticalMonitor.step]
      split
      · rename_i refresh stage
        have living := guarded.busy (by simp [stage])
        have agreed := living.agreed
        rw [stage] at agreed
        exact guarded.persisted living agreed saving
      · exact guarded
  | published =>
      by_cases publishing : monitor.stage = .publishing
      · exact guarded.announced publishing
      · have same : monitor.step .published = monitor := by
          simp only [CriticalMonitor.step]
        rw [same]
        exact guarded
  | ended index result =>
      simp only [CriticalMonitor.step]
      split
      · rename_i worker
        have living : monitor.Living := by
          apply guarded.living
          right
          rintro none
          rw [none] at worker
          cases worker.2
        cases result with
        | ok ended =>
            exact ⟨guarded.kept, .inr ⟨living.policy,
              (fun never => by cases never), ⟨fun _ => rfl, fun _ => .inl rfl⟩,
              fun _ => .inl rfl⟩, guarded.first⟩
        | error text =>
            exact ⟨guarded.kept, .inr ⟨living.policy,
              (fun never => by cases never), ⟨fun _ => rfl, fun _ => .inl rfl⟩,
              fun _ => .inl rfl⟩, guarded.first⟩
      · exact guarded
  | cancel =>
      simp only [CriticalMonitor.step]
      split
      · rename_i granted
        rcases guarded.life with fresh | living
        · rw [fresh.phase.2] at granted
          cases granted
        · exact ⟨guarded.kept, .inr (living.besides rfl rfl rfl rfl rfl),
            guarded.first⟩
      · exact guarded
  | count index =>
      simp only [CriticalMonitor.step]
      split
      · rename_i granted
        have living := guarded.living (.inl (ne_nil_of_getElem? granted))
        refine ⟨?_, .inr (living.count (attended granted) index),
          Traces.each_concat_iff.mpr ⟨guarded.first, trivial⟩⟩
        intro used
        simp only [Recorded, CriticalMonitor.count, CriticalMonitor.mark,
          episode_concat, Episode.next] at used ⊢
        exact guarded.kept used
      · exact guarded
  | load index loaded =>
      simp only [CriticalMonitor.step]
      split
      · rename_i token counted
        have living := guarded.living (.inl (ne_nil_of_getElem? counted))
        exact ⟨guarded.kept, .inr (living.besides rfl rfl rfl rfl rfl),
          guarded.first⟩
      · exact guarded
  | confirm index saving =>
      simp only [CriticalMonitor.step]
      split
      · rename_i token policy loaded
        have living := guarded.living (.inl (ne_nil_of_getElem? loaded))
        obtain rfl := attended token policy loaded
        cases saving with
        | saved =>
            exact ⟨fun _ => ⟨rfl, .inl rfl⟩,
              .inr (living.besides rfl rfl rfl rfl (by
                simp [CriticalMonitor.confirm, CriticalMonitor.mark,
                  Episode.next])),
              Traces.each_concat_iff.mpr ⟨guarded.first, trivial⟩⟩
        | failed written text =>
            refine ⟨?_, .inr (living.besides rfl rfl rfl rfl rfl),
              guarded.first⟩
            cases written with
            | true => exact fun _ => ⟨rfl, .inl rfl⟩
            | false => exact guarded.kept
      · exact guarded
  | announce index =>
      simp only [CriticalMonitor.step]
      split
      · rename_i confirmed
        have living := guarded.living (.inl (ne_nil_of_getElem? confirmed))
        exact ⟨guarded.kept, .inr (living.besides rfl rfl rfl rfl rfl),
          guarded.first⟩
      · exact guarded
  | configure policy =>
      simp only [CriticalMonitor.step]
      split
      · exact guarded.configured policy
      · exact guarded
  | restart readable => exact guarded.restarted readable attended

/-- In a run that notices and records every cancellation, a request has its
evidence, and it is the first of an episode in which no cancellation has
begun. -/
theorem requests_attended (events : List CriticalEvent)
    (attended : StepsMeet step Attended initial events) :
    Traces.Each (fun past mark => mark.Evident past ∧ mark.First past)
      (after events).trace := by
  have preserved : ∀ monitor event,
      Evidence monitor ∧ Guarded monitor → Attended monitor event →
        Evidence (monitor.step event) ∧ Guarded (monitor.step event) :=
    fun _ event ⟨evidence, guarded⟩ attended =>
      ⟨evidence.step event, guarded.step evidence event attended⟩
  obtain ⟨evidence, guarded⟩ : Evidence (after events) ∧
      Guarded (after events) :=
    invariant_run preserved ⟨evidence_initial, guarded_initial⟩ attended
  exact evidence.evident.and guarded.first

def protecting : CriticalPolicy :=
  ⟨true, 5, 30⟩

def lowReading : BatteryReading :=
  ⟨true, .ofNat 4, 1, 2, true⟩

def lowSample : Sample :=
  ⟨.ofNat 4, true, true⟩

/-- A warning, its grace period, and the request. -/
def unattended : List CriticalEvent :=
  [.configure protecting, .refresh (.ok ()), .sampled (.ok lowReading) 0,
    .delivered (.ok ()) 0, .persisted .saved, .published, .refresh (.ok ()),
    .sampled (.ok lowReading) 30, .persisted .saved]

def beforeRequest : List CriticalMark :=
  [.started, .configured .default protecting,
    .observed protecting (some lowSample) 0 0, .warned 0,
    .observed protecting (some lowSample) 0 30]

theorem requests_attended_once :
    Graced beforeRequest protecting 0 ∧ (episode beforeRequest).Open := by
  have each := requests_attended unattended
    ⟨trivial, trivial, fun _ _ _ _ _ _ _ => rfl, trivial, trivial, trivial,
      trivial, fun _ _ _ _ _ _ _ => rfl, trivial, trivial⟩
  have trace : (after unattended).trace =
      beforeRequest ++ [.requested ⟨protecting, 0⟩] := by
    decide +kernel
  rw [trace] at each
  exact each beforeRequest (.requested ⟨protecting, 0⟩) List.prefix_rfl

/-! ### A cancellation that is not noticed -/

/-- The countdown is cancelled, the battery cannot be read once, and it is
still low afterwards. -/
def unnoticed : List CriticalEvent :=
  [.configure protecting, .refresh (.ok ()), .sampled (.ok lowReading) 0,
    .delivered (.ok ()) 0, .persisted .saved, .published,
    .cancel, .count 0, .load 0 true, .confirm 0 .saved, .announce 0,
    .refresh (.ok ()), .sampled (.error "UPower is not running") 10,
    .published, .refresh (.ok ()), .sampled (.ok lowReading) 20,
    .delivered (.ok ()) 20, .published, .refresh (.ok ()),
    .sampled (.ok lowReading) 50, .persisted .saved]

/-- The machine hibernates, though the user has cancelled and there has been
neither a recovery nor another policy. -/
theorem cancelled_episode_fires :
    (after unnoticed).trace =
        [.started, .configured .default protecting,
          .observed protecting (some lowSample) 0 0, .warned 0,
          .cancelled 1, .confirmed 1, .observed protecting none 1 10,
          .observed protecting (some lowSample) 1 20, .warned 20,
          .observed protecting (some lowSample) 1 50,
          .requested ⟨protecting, 1⟩] ∧
      ¬ Traces.Each (fun past mark => mark.Evident past ∧ mark.First past)
        (after unnoticed).trace := by
  have trace : (after unnoticed).trace =
      [.started, .configured .default protecting,
        .observed protecting (some lowSample) 0 0, .warned 0,
        .cancelled 1, .confirmed 1, .observed protecting none 1 10,
        .observed protecting (some lowSample) 1 20, .warned 20,
        .observed protecting (some lowSample) 1 50] ++
          [.requested ⟨protecting, 1⟩] := by
    decide +kernel
  refine ⟨trace, ?_⟩
  rw [trace]
  intro each
  have isOpen := (each _ _ List.prefix_rfl).2
  have cancelled : (episode [.started, .configured .default protecting,
      .observed protecting (some lowSample) 0 0, .warned 0, .cancelled 1,
      .confirmed 1, .observed protecting none 1 10,
      .observed protecting (some lowSample) 1 20, .warned 20,
      .observed protecting (some lowSample) 1 50]).cancelled = true := by
    decide +kernel
  exact absurd (isOpen.2.symm.trans cancelled) (by decide)

end CriticalMonitor

end BarDaemon.SleepPolicies
