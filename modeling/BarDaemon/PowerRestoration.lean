import BarDaemon.PowerAutomation
import BarDaemon.TransitionRuns

/-!
# Remembered profiles and foreign selections

While the automation's change to balanced is in effect, the disk knows the
profile that was active before.  What others select in an episode of a low
battery stays, as long as there is something by which a pass notices it.
-/

namespace BarDaemon.PowerProfiles

open Attempt TransitionRuns

/-! ### Evidence of a selection -/

/-- From this state alone the selection is left alone. -/
def Runtime.Guards (runtime : Runtime) (profile : String) : Prop :=
  runtime.level ≠ .normal ∧
    if profile = "balanced" then
      runtime.manualOverride = true ∧ runtime.balancedRestoreProfile = none
    else runtime.manualOverride = true ∨
      runtime.balancedRestoreProfile.isSome = true

namespace Session

/-- No hold of the automation is left. -/
def Unheld (session : Session) : Prop :=
  ∀ hold ∈ session.daemon.holds, hold.application ≠ holdApplication

/-- The selection shows in the loss of a hold. -/
structure Shows (session : Session) (profile : String) : Prop where
  low : session.envelope.runtime.level ≠ .normal
  cookie : session.envelope.cookie.isSome = true
  owner : session.envelope.owner = session.daemon.owner
  selected : profile = "balanced" →
    session.envelope.runtime.balancedRestoreProfile = none

/-- The change of the automation is remembered on the disk. -/
structure Remembers (session : Session) : Prop where
  selected : ∀ before, session.change = some before →
    session.daemon.selected = "balanced"
  disk : ∀ before, session.change = some before →
    session.disk.balancedRestoreProfile = some before

/-- The daemon has what others have selected. -/
structure Respects (session : Session) : Prop where
  selected : ∀ profile, session.selection = some profile →
    session.daemon.selected = profile ∧ session.Unheld
  clean : session.overwritten = []

/-- What the death of the process leaves. -/
structure Survives (session : Session) : Prop where
  remembers : session.Remembers
  respects : session.Respects
  guards : ∀ profile, session.selection = some profile →
    session.disk.Guards profile

/-- What holds between the events while the state is loaded. -/
structure Attends (session : Session) : Prop where
  remembers : session.Remembers
  respects : session.Respects
  level : session.envelope.runtime.level = session.envelope.level
  memory : ∀ before, session.change = some before →
    session.envelope.runtime.balancedRestoreProfile = some before
  evidence : ∀ profile, session.selection = some profile →
    session.envelope.runtime.Guards profile ∨ session.Shows profile

/-- Without a process, or with one. -/
structure Sound (session : Session) : Prop where
  connected : session.envelope.connected = true →
    session.envelope.loaded = true
  survives : session.envelope.loaded = false → session.Survives
  attends : session.envelope.loaded = true → session.Attends

end Session

/-! ### Answers -/

def Saving.dies : Saving → Bool
  | .crashed _ => true
  | _ => false

def Calling.dies : Calling → Bool
  | .crashed _ => true
  | _ => false

def Reading.dies : Reading → Bool
  | .crashed => true
  | _ => false

/-- The process may die in the pass. -/
def Answers.dies (answers : Answers) : Bool :=
  answers.keepLevel.dies || answers.readOwner.dies ||
    answers.readSelection.dies || answers.keepSelection.dies ||
    answers.readHold.dies || answers.releaseHold.dies ||
    answers.readRestore.dies || answers.selectRestored.dies ||
    answers.keepRestored.dies || answers.readApply.dies ||
    answers.keepBalanced.dies || answers.selectBalanced.dies ||
    answers.keepNothing.dies || answers.takeHold.dies ||
    answers.readApplied.dies

/-- The holds are not taken for none because they cannot be read. -/
def Reading.Counts (reading : Reading) (daemon : Daemon) : Prop :=
  ∀ profiles, reading = .done profiles false → daemon.holds = []

/-! ### Within a pass -/

namespace Session

/-- The pass sees what it asks for, and no refused selection of balanced has
taken effect. -/
structure Sure (answers : Answers) (session : Session) : Prop where
  selection : answers.readSelection.Counts session.daemon
  restore : answers.readRestore.Counts session.daemon
  offered : ∀ before, session.change = some before →
    before ∈ session.daemon.profiles ∧
      ∀ holds, answers.readRestore ≠ .done false holds
  honest : answers.selectBalanced ≠ .failed true

/-- Nothing is selected or restored over a pending selection. -/
def Watched (session : Session) : Prop :=
  ∀ profile, session.selection = some profile →
    (session.envelope.runtime.manualOverride = true ∨
      session.envelope.runtime.balancedRestoreProfile.isSome = true) ∧
    (session.envelope.runtime.balancedRestoreProfile.isSome = true →
      profile ≠ "balanced" ∧ session.daemon.holds ≠ [])

/-- What is in memory is kept. -/
def written (session : Session) : Session :=
  { session with disk := session.envelope.runtime }

def persisted (session : Session) : Session :=
  { session with
    disk := session.envelope.runtime
    envelope := { session.envelope with saved := session.envelope.runtime } }

/-- The automation is at work.  Where it may die, the disk guards the
selections as well. -/
structure Going (firm : Prop) (session : Session) : Prop where
  loaded : session.envelope.loaded = true
  attends : session.Attends
  synced : session.envelope.saved = session.disk
  firmly : firm → ∀ profile, session.selection = some profile →
    session.envelope.runtime.Guards profile ∧ session.disk.Guards profile

/-- How an attempt of the automation may fail. -/
def Ends (fault : Fault) (session : Session) : Prop :=
  match fault with
  | .failed => session.envelope.loaded = true ∧ session.Attends
  | .crashed => session.Survives

variable {firm : Prop} {session : Session}

theorem Going.ends (going : session.Going firm) {fault : Fault}
    (dies : fault = .crashed → firm) : Ends fault session := by
  cases fault with
  | failed => exact ⟨going.loaded, going.attends⟩
  | crashed =>
      refine ⟨going.attends.remembers, going.attends.respects, ?_⟩
      intro profile pending
      exact (going.firmly (dies rfl) profile pending).2

theorem Attends.written (attends : session.Attends) :
    session.written.Attends :=
  ⟨⟨attends.remembers.selected, attends.memory⟩,
    ⟨attends.respects.selected, attends.respects.clean⟩, attends.level,
    attends.memory, fun profile pending =>
      (attends.evidence profile pending).imp id fun shows =>
        ⟨shows.low, shows.cookie, shows.owner, shows.selected⟩⟩

theorem Going.written (going : session.Going firm) {fault : Fault}
    (dies : fault = .crashed → firm) : Ends fault session.written := by
  cases fault with
  | failed => exact ⟨going.loaded, going.attends.written⟩
  | crashed =>
      have attends := going.attends.written
      refine ⟨attends.remembers, attends.respects, ?_⟩
      intro profile pending
      exact (going.firmly (dies rfl) profile pending).1

theorem Going.persisted (going : session.Going firm) :
    session.persisted.Going firm := by
  have attends := going.attends.written
  refine ⟨going.loaded, ⟨⟨attends.remembers.selected, attends.remembers.disk⟩,
    ⟨attends.respects.selected, attends.respects.clean⟩, attends.level,
    attends.memory, ?_⟩, rfl, ?_⟩
  · intro profile pending
    exact (attends.evidence profile pending).imp id fun shows =>
      ⟨shows.low, shows.cookie, shows.owner, shows.selected⟩
  · intro firmly profile pending
    have guards := (going.firmly firmly profile pending).1
    exact ⟨guards, guards⟩

theorem persisted_eq
    (same : session.envelope.runtime = session.envelope.saved)
    (synced : session.envelope.saved = session.disk) :
    session.persisted = session := by
  obtain ⟨daemon, envelope, disk, change, selection, overwritten⟩ := session
  obtain ⟨connected, owner, cookie, heldProfile, level, runtime, saved, loaded,
    status⟩ := envelope
  simp only at same synced
  subst synced
  subst same
  rfl

end Session

namespace Automation

open Session

variable {firm : Prop}

theorem meets_save {saving : Saving} {before : Session → Prop}
    {runtime : Runtime} {done : Unit → Session → Prop}
    {failed : Fault → Session → Prop}
    (kept : ∀ session, before session →
      done () { session with disk := runtime })
    (lost : ∀ fault session, before session →
      (fault = .crashed → saving.dies = true) → failed fault session)
    (late : ∀ fault session, before session →
      (fault = .crashed → saving.dies = true) →
        failed fault { session with disk := runtime }) :
    Meets before (save saving runtime) done failed := by
  intro session holds
  cases saving with
  | kept => exact kept session holds
  | failed written =>
      cases written with
      | true => exact late .failed session holds nofun
      | false => exact lost .failed session holds nofun
  | crashed written =>
      cases written with
      | true => exact late .crashed session holds fun _ => rfl
      | false => exact lost .crashed session holds fun _ => rfl

theorem meets_call {calling : Calling} {effect : Session → Session}
    {before : Session → Prop} {done : Unit → Session → Prop}
    {failed : Fault → Session → Prop}
    (settled : ∀ session, before session → done () (effect session))
    (lost : ∀ fault session, before session →
      (fault = .crashed → calling.dies = true) → failed fault session)
    (late : ∀ fault session, before session →
      (fault = .failed → calling = .failed true) →
        (fault = .crashed → calling.dies = true) →
          failed fault (effect session)) :
    Meets before (call calling effect) done failed := by
  intro session holds
  cases calling with
  | done => exact settled session holds
  | failed effect =>
      cases effect with
      | true => exact late .failed session holds (fun _ => rfl) nofun
      | false => exact lost .failed session holds nofun
  | crashed effect =>
      cases effect with
      | true => exact late .crashed session holds nofun fun _ => rfl
      | false => exact lost .crashed session holds fun _ => rfl

theorem meets_readRawState {reading : Reading} {before : Session → Prop}
    {failed : Fault → Session → Prop}
    (lost : ∀ fault session, before session →
      (fault = .crashed → reading.dies = true) → failed fault session) :
    Meets before (readRawState reading)
      (fun current session => before session ∧ ∃ profiles holds,
        reading = .done profiles holds ∧ current = ⟨session.daemon.active,
          if profiles then session.daemon.profiles else [],
          if holds then session.daemon.holds else []⟩) failed := by
  intro session holds
  cases reading with
  | done profiles readable => exact ⟨holds, profiles, readable, rfl, rfl⟩
  | failed => exact lost .failed session holds nofun
  | crashed => exact lost .crashed session holds fun _ => rfl

theorem meets_memory {before : Session → Prop}
    {failed : Fault → Session → Prop} :
    Meets before memory
      (fun envelope session => before session ∧
        session.envelope = envelope) failed :=
  fun _ holds => ⟨holds, rfl⟩

/-- Nothing is to be kept where the disk has it. -/
theorem meets_persist {saving : Saving} {before : Session → Prop}
    {done : Unit → Session → Prop} {failed : Fault → Session → Prop}
    (synced : ∀ session, before session →
      session.envelope.saved = session.disk)
    (kept : ∀ session, before session → done () session.persisted)
    (lost : ∀ fault session, before session →
      (fault = .crashed → saving.dies = true) → failed fault session)
    (late : ∀ fault session, before session →
      (fault = .crashed → saving.dies = true) →
        failed fault session.written) :
    Meets before (persist saving) done failed := by
  apply meets_memory.bind
  intro envelope
  apply meets_ite
  · intro unsaved
    have saved : Meets
        (fun session => before session ∧ session.envelope = envelope)
        (save saving envelope.runtime)
        (fun _ session => ∃ earlier, before earlier ∧
          session = earlier.written) failed := by
      apply meets_save
      · rintro session ⟨holds, rfl⟩
        exact ⟨session, holds, rfl⟩
      · rintro fault session ⟨holds, -⟩ dies
        exact lost fault session holds dies
      · rintro fault session ⟨holds, rfl⟩ dies
        exact late fault session holds dies
    apply saved.bind
    intro answer
    apply meets_change
    rintro session ⟨earlier, holds, rfl⟩
    exact kept earlier holds
  · intro same
    apply meets_pure
    rintro session ⟨holds, rfl⟩
    have same : session.envelope.runtime = session.envelope.saved := by
      simpa using same
    rw [← persisted_eq same (synced session holds)]
    exact kept session holds

theorem meets_persist_going {saving : Saving} {before : Session → Prop}
    {done : Unit → Session → Prop}
    (going : ∀ session, before session → session.Going firm)
    (calm : saving.dies = true → firm)
    (kept : ∀ session, before session → done () session.persisted) :
    Meets before (persist saving) done Ends := by
  apply meets_persist
  · exact fun session holds => (going session holds).synced
  · exact kept
  · exact fun fault session holds dies =>
      (going session holds).ends fun crashed => calm (dies crashed)
  · exact fun fault session holds dies =>
      (going session holds).written fun crashed => calm (dies crashed)

/-! ### Observing -/

/-- A level that is still low leaves the evidence of a selection. -/
theorem guards_observed {runtime : Runtime} {profile : String}
    (guards : runtime.Guards profile) {level : Level}
    (low : level ≠ .normal) :
    Runtime.Guards { runtime with level := level } profile :=
  ⟨low, guards.2⟩

/-- An observation of the battery neither loses nor makes a selection, and
where it ends the episode there is none any more. -/
theorem meets_observe {battery : Battery} :
    Meets (Going firm) (observe battery) (fun _ => Going firm) Ends := by
  apply meets_change
  intro session going
  have attends := going.attends
  by_cases available : battery.available = true
  · by_cases normal : session.envelope.level.observe battery = .normal
    · simp only [available, if_true, normal, decide_true, Bool.and_true,
        Bool.not_true, Bool.false_and]
      exact ⟨going.loaded, ⟨⟨attends.remembers.selected,
        attends.remembers.disk⟩, ⟨nofun, attends.respects.clean⟩, rfl,
        attends.memory, nofun⟩, going.synced, fun _ => nofun⟩
    · simp only [available, if_true, normal, decide_false, Bool.false_and,
        Bool.not_false, Bool.true_and, if_false, Bool.false_eq_true]
      refine ⟨going.loaded, ⟨⟨attends.remembers.selected,
        attends.remembers.disk⟩, ⟨attends.respects.selected,
        attends.respects.clean⟩, rfl, attends.memory, ?_⟩, going.synced, ?_⟩
      · intro profile pending
        rcases attends.evidence profile pending with guards | shows
        · exact .inl (guards_observed guards normal)
        · exact .inr ⟨normal, shows.cookie, shows.owner, shows.selected⟩
      · intro firmly profile pending
        obtain ⟨guards, kept⟩ := going.firmly firmly profile pending
        exact ⟨guards_observed guards normal, kept⟩
  · simp only [available, Bool.and_false, Bool.not_false, Bool.true_and,
      if_false, Bool.false_eq_true]
    exact ⟨going.loaded, ⟨⟨attends.remembers.selected,
      attends.remembers.disk⟩, ⟨attends.respects.selected,
      attends.respects.clean⟩, attends.level, attends.memory, fun profile
      pending => (attends.evidence profile pending).imp id fun shows =>
        ⟨shows.low, shows.cookie, shows.owner, shows.selected⟩⟩,
      going.synced, going.firmly⟩

/-- What an observation of the battery leaves alone. -/
structure Observes (session after : Session) : Prop where
  daemon : after.daemon = session.daemon
  change : after.change = session.change
  restore : after.envelope.runtime.balancedRestoreProfile =
    session.envelope.runtime.balancedRestoreProfile
  pending : ∀ profile, after.selection = some profile →
    session.selection = some profile ∧
      after.envelope.runtime.manualOverride =
        session.envelope.runtime.manualOverride

theorem within_observe (battery : Battery) :
    Within Observes (observe battery) := by
  apply within_change
  intro session
  constructor
  · rfl
  · rfl
  · rfl
  · intro profile pending
    dsimp only at pending ⊢
    generalize (decide ((if battery.available then
      session.envelope.level.observe battery else session.envelope.level) =
        .normal) && battery.available) = ended at pending ⊢
    cases ended with
    | true => cases pending
    | false => exact ⟨pending, rfl⟩

theorem Observes.sure {answers : Answers} {session after : Session}
    (observes : Observes session after) (sure : session.Sure answers) :
    after.Sure answers := by
  obtain ⟨selection, restore, offered, honest⟩ := sure
  rw [← observes.daemon] at selection restore offered
  rw [← observes.change] at offered
  exact ⟨selection, restore, offered, honest⟩

theorem Observes.watched {session after : Session}
    (observes : Observes session after) (watched : session.Watched) :
    after.Watched := by
  intro profile pending
  obtain ⟨before, override⟩ := observes.pending profile pending
  rw [override, observes.restore, observes.daemon]
  exact watched profile before

/-- The automation is at work in a pass. -/
def Pass (firm : Prop) (answers : Answers) (session : Session) : Prop :=
  session.Going firm ∧ session.Sure answers

theorem meets_observe_pass {battery : Battery} {answers : Answers} :
    Meets (Pass firm answers) (observe battery)
      (fun _ => Pass firm answers) Ends := by
  have observed : Meets (Pass firm answers) (observe battery)
      (fun _ => Going firm) Ends :=
    meets_observe.weaken (fun _ pass => pass.1) (fun _ _ holds => holds)
      fun _ _ holds => holds
  refine (observed.within (within_observe battery)).weaken
    (fun _ holds => holds) ?_ fun _ _ holds => holds
  rintro answer session ⟨going, earlier, pass, observes⟩
  exact ⟨going, observes.sure pass.2⟩

/-! ### Selections of others -/

/-- What a pass reads of the holds is what there is. -/
theorem activeHolds_eq {reading : Reading} {session : Session}
    (counts : reading.Counts session.daemon) {profiles holds : Bool}
    (read : reading = .done profiles holds) :
    (if holds then session.daemon.holds else []) = session.daemon.holds := by
  cases holds with
  | true => rfl
  | false => simp [counts profiles read]

theorem active_of_unheld {daemon : Daemon} (unheld : daemon.holds = []) :
    daemon.active = daemon.selected := by
  simp [Daemon.active, unheld]

/-- What is observed is what there is. -/
structure Sees (current : Observed) (session : Session) : Prop where
  profile : current.profile = session.daemon.active
  activeHolds : current.activeHolds = session.daemon.holds

def lostHold (session : Session) (current : Observed) : Bool :=
  session.envelope.cookie.isSome && !current.hasOwnHold

def replacedBalanced (session : Session) (current : Observed) : Bool :=
  session.envelope.runtime.balancedRestoreProfile.isSome &&
    current.profile != "balanced" && current.activeHolds.isEmpty

/-- A selection over a remembered profile is noticed, unless other holds hide
it. -/
theorem holds_of_not_replaced {current : Observed} {session : Session}
    (sees : Sees current session) (attends : session.Attends)
    {profile : String} (pending : session.selection = some profile)
    (different : profile ≠ "balanced")
    (remembered :
      session.envelope.runtime.balancedRestoreProfile.isSome = true)
    (unnoticed : replacedBalanced session current = false) :
    session.daemon.holds ≠ [] := by
  intro unheld
  have selected := (attends.respects.selected profile pending).1
  have active : current.profile = profile := by
    rw [sees.profile, active_of_unheld unheld, selected]
  simp [replacedBalanced, remembered, active, different, sees.activeHolds,
    unheld] at unnoticed

theorem lostHold_of_shows {current : Observed} {session : Session}
    (sees : Sees current session) (attends : session.Attends)
    {profile : String} (pending : session.selection = some profile)
    (shows : session.Shows profile) : lostHold session current = true := by
  have unheld := (attends.respects.selected profile pending).2
  have unowned : current.hasOwnHold = false := by
    simp only [Observed.hasOwnHold, sees.activeHolds, List.any_eq_false,
      beq_iff_eq]
    exact unheld
  simp [lostHold, shows.cookie, unowned]

/-- Where nothing is noticed, the state in memory guards the selection. -/
theorem watched_of_unnoticed {current : Observed} {session : Session}
    (sees : Sees current session) (attends : session.Attends)
    (kept : lostHold session current = false)
    (unnoticed : replacedBalanced session current = false) :
    session.Watched := by
  intro profile pending
  rcases attends.evidence profile pending with ⟨-, guards⟩ | shows
  · split at guards
    case isTrue balanced => simp [guards.1, guards.2]
    case isFalse different =>
        refine ⟨guards, fun remembered => ⟨different, ?_⟩⟩
        exact holds_of_not_replaced sees attends pending different remembered
          unnoticed
  · have lost := lostHold_of_shows sees attends pending shows
    exact absurd (kept.symm.trans lost) Bool.false_ne_true

theorem guards_of_watched {session : Session} {profile : String}
    (watched : session.Watched)
    (low : session.envelope.runtime.level ≠ .normal)
    (pending : session.selection = some profile) :
    session.envelope.runtime.Guards profile := by
  obtain ⟨guarded, restores⟩ := watched profile pending
  refine ⟨low, ?_⟩
  split
  case isTrue balanced =>
      have nothing :
          session.envelope.runtime.balancedRestoreProfile = none := by
        by_contra remembered
        exact (restores (Option.isSome_iff_ne_none.mpr remembered)).1 balanced
      simpa [nothing] using guarded
  case isFalse different => exact guarded

/-- What has been noticed pauses the automation. -/
def noticed (session : Session) (lost replaced : Bool) : Session :=
  { session with envelope := { session.envelope with
      cookie := if lost then none else session.envelope.cookie
      heldProfile := if lost then none else session.envelope.heldProfile
      runtime := { session.envelope.runtime with
        manualOverride := session.envelope.level != .normal
        balancedRestoreProfile := if replaced then none
          else session.envelope.runtime.balancedRestoreProfile } } }

theorem pass_noticed {current : Observed} {session : Session}
    {answers : Answers} (pass : Pass firm answers session)
    (sees : Sees current session) :
    Pass firm answers (noticed session (lostHold session current)
        (replacedBalanced session current)) ∧
      (noticed session (lostHold session current)
        (replacedBalanced session current)).Watched := by
  obtain ⟨going, sure⟩ := pass
  have attends := going.attends
  have low : ∀ profile, session.selection = some profile →
      session.envelope.runtime.level ≠ .normal := by
    intro profile pending
    rcases attends.evidence profile pending with guards | shows
    · exact guards.1
    · exact shows.low
  -- A change of the automation is no selection of others.
  have remembered : ∀ before, session.change = some before →
      replacedBalanced session current = false := by
    intro before changed
    by_contra replaced
    simp only [replacedBalanced, Bool.not_eq_false, Bool.and_eq_true,
      bne_iff_ne, ne_eq, sees.activeHolds, sees.profile,
      List.isEmpty_iff] at replaced
    obtain ⟨⟨-, other⟩, unheld⟩ := replaced
    rw [active_of_unheld unheld] at other
    exact other (attends.remembers.selected before changed)
  have watched : (noticed session (lostHold session current)
      (replacedBalanced session current)).Watched := by
    intro profile pending
    have override : (session.envelope.level != .normal) = true := by
      rw [← attends.level]
      simpa using low profile pending
    refine ⟨.inl override, fun restores => ?_⟩
    have unnoticed : replacedBalanced session current = false := by
      by_contra replaced
      simp [noticed, Bool.of_not_eq_false replaced] at restores
    have restoring :
        session.envelope.runtime.balancedRestoreProfile.isSome = true := by
      simpa [noticed, unnoticed] using restores
    have different : profile ≠ "balanced" := by
      rintro rfl
      have nothing :
          session.envelope.runtime.balancedRestoreProfile = none := by
        rcases attends.evidence _ pending with ⟨-, guards⟩ | shows
        · rw [if_pos rfl] at guards
          exact guards.2
        · exact shows.selected rfl
      simp [nothing] at restoring
    have held : session.daemon.holds ≠ [] := by
      apply holds_of_not_replaced sees attends
      · exact pending
      · exact different
      · exact restoring
      · exact unnoticed
    exact ⟨different, held⟩
  refine ⟨⟨⟨going.loaded, ⟨⟨attends.remembers.selected,
    attends.remembers.disk⟩, ⟨attends.respects.selected,
    attends.respects.clean⟩, attends.level, ?_, ?_⟩, going.synced, ?_⟩,
    sure.selection, sure.restore, sure.offered, sure.honest⟩, watched⟩
  · intro before changed
    simpa [noticed, remembered before changed] using
      attends.memory before changed
  · exact fun profile pending =>
      .inl (guards_of_watched watched (low profile pending) pending)
  · exact fun firmly profile pending =>
      ⟨guards_of_watched watched (low profile pending) pending,
        (going.firmly firmly profile pending).2⟩

theorem meets_observeExternalSelection {battery : Battery}
    {answers : Answers} (calm : answers.dies = true → firm) :
    Meets (Pass firm answers) (observeExternalSelection battery answers)
      (fun _ session => Pass firm answers session ∧ session.Watched)
      Ends := by
  have ends : ∀ {reading : Reading}, (reading.dies = true →
      answers.dies = true) → ∀ fault session, Pass firm answers session →
        (fault = .crashed → reading.dies = true) → Ends fault session :=
    fun part fault session pass dies =>
      pass.1.ends fun crashed => calm (part (dies crashed))
  have owner : Meets (Pass firm answers) (nameOwner answers.readOwner)
      (fun owner session => Pass firm answers session ∧
        owner = session.daemon.owner) Ends := by
    have part : answers.readOwner.dies = true → answers.dies = true := by
      simp +contextual [Answers.dies]
    intro session pass
    cases read : answers.readOwner with
    | done profiles holds => exact ⟨pass, rfl⟩
    | failed => exact ends part .failed session pass nofun
    | crashed =>
        exact ends part .crashed session pass fun _ => by rw [read]; rfl
  apply owner.bind
  intro owner
  have owned : Meets (fun session => Pass firm answers session ∧
        owner = session.daemon.owner)
      (Automation.update fun envelope =>
        if envelope.owner ≠ owner then
          { envelope with owner := owner, cookie := none, heldProfile := none }
        else envelope)
      (fun _ => Pass firm answers) Ends := by
    apply meets_change
    rintro session ⟨⟨going, sure⟩, rfl⟩
    by_cases other : session.envelope.owner ≠ session.daemon.owner
    · have attends := going.attends
      have guards : ∀ profile, session.selection = some profile →
          session.envelope.runtime.Guards profile := fun profile pending =>
        (attends.evidence profile pending).resolve_right fun shows =>
          other shows.owner
      simp only [updated, if_pos other]
      exact ⟨⟨going.loaded, ⟨⟨attends.remembers.selected,
        attends.remembers.disk⟩, ⟨attends.respects.selected,
        attends.respects.clean⟩, attends.level, attends.memory,
        fun profile pending => .inl (guards profile pending)⟩, going.synced,
        going.firmly⟩, sure.selection, sure.restore, sure.offered,
        sure.honest⟩
    · simp only [updated, if_neg other]
      exact ⟨going, sure⟩
  apply owned.bind
  intro settled
  have seen : Meets (Pass firm answers) (readRawState answers.readSelection)
      (fun current session => Pass firm answers session ∧
        Sees current session) Ends := by
    have part : answers.readSelection.dies = true → answers.dies = true := by
      simp +contextual [Answers.dies]
    refine (meets_readRawState (ends part)).weaken (fun _ holds => holds) ?_
      fun _ _ holds => holds
    rintro current session ⟨pass, profiles, holds, read, rfl⟩
    exact ⟨pass, rfl, activeHolds_eq pass.2.selection read⟩
  apply seen.bind
  intro current
  apply meets_memory.bind
  intro envelope
  have paused : Meets (fun session => Pass firm answers session ∧
        session.Watched) (do
          persist answers.keepSelection
          observe battery)
      (fun _ session => Pass firm answers session ∧ session.Watched)
      Ends := by
    have part : answers.keepSelection.dies = true → answers.dies = true := by
      simp +contextual [Answers.dies]
    have kept : Meets (fun session => Pass firm answers session ∧
          session.Watched) (persist answers.keepSelection)
        (fun _ session => Pass firm answers session ∧ session.Watched)
        Ends := by
      apply meets_persist_going (fun _ holds => holds.1.1) fun dies =>
        calm (part dies)
      rintro session ⟨⟨going, sure⟩, watched⟩
      exact ⟨⟨going.persisted, sure.selection, sure.restore, sure.offered,
        sure.honest⟩, watched⟩
    apply kept.bind
    intro answer
    have observed : Meets (fun session => Pass firm answers session ∧
          session.Watched) (observe battery)
        (fun _ => Pass firm answers) Ends :=
      meets_observe_pass.weaken (fun _ holds => holds.1)
        (fun _ _ holds => holds) fun _ _ holds => holds
    refine (observed.within (within_observe battery)).weaken
      (fun _ holds => holds) ?_ fun _ _ holds => holds
    rintro answer session ⟨pass, earlier, ⟨-, watched⟩, observes⟩
    exact ⟨pass, observes.watched watched⟩
  dsimp only
  generalize losing : (envelope.cookie.isSome && !current.hasOwnHold) = lost
  generalize replacing :
    (envelope.runtime.balancedRestoreProfile.isSome &&
      current.profile != "balanced" && current.activeHolds.isEmpty) = replaced
  have same : ∀ session : Session, session.envelope = envelope →
      lostHold session current = lost ∧
        replacedBalanced session current = replaced := by
    rintro session rfl
    exact ⟨losing, replacing⟩
  have marked : Meets (fun session => (Pass firm answers session ∧
        Sees current session) ∧ session.envelope = envelope)
      (Automation.update fun envelope =>
        if lost then { envelope with cookie := none, heldProfile := none }
        else envelope)
      (fun _ session => ∃ earlier : Session, ((Pass firm answers earlier ∧
        Sees current earlier) ∧ earlier.envelope = envelope) ∧
          session = earlier.updated fun envelope =>
            if lost then { envelope with cookie := none, heldProfile := none }
            else envelope) Ends :=
    meets_change fun session holds => ⟨session, holds, rfl⟩
  apply marked.bind
  intro answer
  have forgotten : Meets (fun session => ∃ earlier : Session,
        ((Pass firm answers earlier ∧ Sees current earlier) ∧
          earlier.envelope = envelope) ∧
            session = earlier.updated fun envelope => if lost then
              { envelope with cookie := none, heldProfile := none }
              else envelope)
      (remember fun runtime =>
        if replaced then { runtime with balancedRestoreProfile := none }
        else runtime)
      (fun _ session => ∃ earlier : Session, ((Pass firm answers earlier ∧
        Sees current earlier) ∧ earlier.envelope = envelope) ∧
          session = (earlier.updated fun envelope => if lost then
            { envelope with cookie := none, heldProfile := none }
            else envelope).remembered fun runtime => if replaced then
              { runtime with balancedRestoreProfile := none }
              else runtime) Ends := by
    apply meets_change
    rintro session ⟨earlier, holds, rfl⟩
    exact ⟨earlier, holds, rfl⟩
  apply forgotten.bind
  intro answer
  apply meets_ite
  · intro noticing
    apply Meets.bind _ fun _ => paused
    apply meets_change
    rintro session ⟨earlier, ⟨⟨pass, sees⟩, held⟩, rfl⟩
    have watched := pass_noticed pass sees
    rw [(same earlier held).1, (same earlier held).2] at watched
    have equal : noticed earlier lost replaced =
        ((earlier.updated fun envelope => if lost then
          { envelope with cookie := none, heldProfile := none }
          else envelope).remembered fun runtime => if replaced then
            { runtime with balancedRestoreProfile := none }
            else runtime).updated fun envelope =>
              { envelope with runtime := { envelope.runtime with
                manualOverride := envelope.level != .normal } } := by
      cases lost with
      | true => cases replaced <;> rfl
      | false => cases replaced <;> rfl
    rw [equal] at watched
    exact watched
  · intro unnoticed
    apply meets_pure
    rintro session ⟨earlier, ⟨⟨pass, sees⟩, held⟩, rfl⟩
    simp only [Bool.or_eq_true, not_or, Bool.not_eq_true] at unnoticed
    obtain ⟨rfl, rfl⟩ := unnoticed
    exact ⟨pass, watched_of_unnoticed sees pass.1.attends
      (same earlier held).1 (same earlier held).2⟩

/-! ### Releasing a hold -/

def dropped (session : Session) (cookie : Nat) : Session :=
  { session with daemon := { session.daemon with
    holds := session.daemon.holds.filter (·.cookie != cookie) } }

def freed (session : Session) : Session :=
  session.updated fun envelope =>
    { envelope with cookie := none, heldProfile := none }

/-- Only a hold of the automation is released. -/
theorem meets_release {reading : Reading} {calling : Calling}
    {invariant : Session → Prop} {failed : Fault → Session → Prop}
    (lost : ∀ fault session, invariant session →
      (fault = .crashed → reading.dies = true ∨ calling.dies = true) →
        failed fault session)
    (drops : ∀ session cookie, invariant session → ¬ session.Unheld →
      invariant (dropped session cookie))
    (frees : ∀ session, invariant session → invariant (freed session)) :
    Meets invariant (release reading calling) (fun _ => invariant) failed := by
  apply meets_memory.bind
  intro envelope
  cases envelope.cookie with
  | none => exact meets_pure fun _ holds => holds.1
  | some cookie =>
      have seen : Meets
          (fun session => invariant session ∧ session.envelope = envelope)
          (readRawState reading)
          (fun current session => invariant session ∧
            (current.hasOwnHold = true → ¬ session.Unheld)) failed := by
        refine (meets_readRawState ?_).weaken (fun _ holds => holds) ?_
          fun _ _ holds => holds
        · rintro fault session ⟨holds, -⟩ dies
          exact lost fault session holds fun crashed => .inl (dies crashed)
        · rintro current session ⟨⟨holds, -⟩, profiles, readable, -, rfl⟩
          refine ⟨holds, fun own unheld => ?_⟩
          simp only [Observed.hasOwnHold, List.any_eq_true, beq_iff_eq] at own
          obtain ⟨hold, member, application⟩ := own
          cases readable with
          | true => exact unheld hold member application
          | false => cases member
      apply seen.bind
      intro current
      have rest : Meets invariant (Automation.update fun envelope =>
            { envelope with cookie := none, heldProfile := none })
          (fun _ => invariant) failed :=
        meets_change fun session holds => frees session holds
      apply meets_ite
      · intro own
        apply Meets.bind _ fun _ => rest
        apply meets_call
        · rintro session ⟨holds, held⟩
          exact drops session cookie holds (held own)
        · rintro fault session ⟨holds, -⟩ dies
          exact lost fault session holds fun crashed => .inr (dies crashed)
        · rintro fault session ⟨holds, held⟩ - dies
          exact lost fault _ (drops session cookie holds (held own))
            fun crashed => .inr (dies crashed)
      · intro foreign
        exact rest.weaken (fun _ holds => holds.1) (fun _ _ holds => holds)
          fun _ _ holds => holds

theorem going_dropped {session : Session} (going : session.Going firm)
    (held : ¬ session.Unheld) (cookie : Nat) :
    (dropped session cookie).Going firm := by
  have attends := going.attends
  have none : ∀ profile, session.selection ≠ some profile :=
    fun profile pending => held (attends.respects.selected profile pending).2
  exact ⟨going.loaded, ⟨⟨attends.remembers.selected,
    attends.remembers.disk⟩, ⟨fun profile pending => absurd pending
      (none profile), attends.respects.clean⟩, attends.level, attends.memory,
    fun profile pending => absurd pending (none profile)⟩, going.synced,
    going.firmly⟩

theorem going_freed {session : Session} (going : session.Going firm)
    (guards : ∀ profile, session.selection = some profile →
      session.envelope.runtime.Guards profile) :
    (freed session).Going firm := by
  have attends := going.attends
  exact ⟨going.loaded, ⟨⟨attends.remembers.selected,
    attends.remembers.disk⟩, ⟨attends.respects.selected,
    attends.respects.clean⟩, attends.level, attends.memory,
    fun profile pending => .inl (guards profile pending)⟩, going.synced,
    going.firmly⟩

end Automation

end BarDaemon.PowerProfiles
