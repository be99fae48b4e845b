import BarDaemon.PowerRestoration

/-!
# Passes of the power profile automation

In runs whose steps leave a trace of every selection, the remembered profile is
on the disk and no selection is overwritten.
-/

namespace BarDaemon.PowerProfiles

open Attempt TransitionRuns

namespace Session

/-- Neither a change of the automation nor a selection of others is known. -/
structure Idle (session : Session) : Prop where
  loaded : session.envelope.loaded = true
  level : session.envelope.runtime.level = session.envelope.level
  unchanged : session.change = none
  unselected : session.selection = none
  clean : session.overwritten = []

variable {firm : Prop} {session : Session}

theorem Idle.attends (idle : session.Idle) : session.Attends where
  remembers := ⟨by simp [idle.unchanged], by simp [idle.unchanged]⟩
  respects := ⟨by simp [idle.unselected], idle.clean⟩
  level := idle.level
  memory := by simp [idle.unchanged]
  evidence := by simp [idle.unselected]

theorem Idle.survives (idle : session.Idle) : session.Survives where
  remembers := idle.attends.remembers
  respects := idle.attends.respects
  guards := by simp [idle.unselected]

theorem Idle.ends (idle : session.Idle) (fault : Fault) :
    Ends fault session := by
  cases fault with
  | failed => exact ⟨idle.loaded, idle.attends⟩
  | crashed => exact idle.survives

theorem Idle.going (idle : session.Idle)
    (synced : session.envelope.saved = session.disk) :
    session.Going firm where
  loaded := idle.loaded
  attends := idle.attends
  synced := synced
  firmly := by simp [idle.unselected]

theorem Idle.remembered (idle : session.Idle) {update : Runtime → Runtime}
    (level : (update session.envelope.runtime).level =
      session.envelope.runtime.level) :
    (session.remembered update).Idle where
  loaded := idle.loaded
  level := level.trans idle.level
  unchanged := idle.unchanged
  unselected := idle.unselected
  clean := idle.clean

theorem Idle.persisted (idle : session.Idle) : session.persisted.Idle :=
  ⟨idle.loaded, idle.level, idle.unchanged, idle.unselected, idle.clean⟩

theorem Idle.written (idle : session.Idle) : session.written.Idle :=
  ⟨idle.loaded, idle.level, idle.unchanged, idle.unselected, idle.clean⟩

/-- Without a selection of others there is nothing to overwrite. -/
theorem acted_overwritten {daemon : Daemon} {change : Option String}
    (unselected : session.selection = none) :
    (session.acted daemon change).overwritten = session.overwritten := by
  simp [acted, unselected]

/-- Nothing is selected or restored over a pending selection, where the
automation is paused or not. -/
def WatchedBy (override : Bool) (session : Session) : Prop :=
  ∀ profile, session.selection = some profile →
    (override = true ∨
      session.envelope.runtime.balancedRestoreProfile.isSome = true) ∧
    (session.envelope.runtime.balancedRestoreProfile.isSome = true →
      profile ≠ "balanced" ∧ session.daemon.holds ≠ [])

end Session

namespace Automation

open Session

variable {firm : Prop}

/-! ### Restoring the remembered profile -/

theorem meets_persist_idle {saving : Saving} {before : Session → Prop}
    {done : Unit → Session → Prop}
    (idle : ∀ session, before session → session.Idle)
    (synced : ∀ session, before session →
      session.envelope.saved = session.disk)
    (kept : ∀ session, before session → done () session.persisted) :
    Meets before (persist saving) done Ends := by
  apply meets_persist synced kept
  · exact fun fault session holds _ => (idle session holds).ends fault
  · exact fun fault session holds _ => (idle session holds).written.ends fault

theorem meets_restoreBalanced {answers : Answers} {override : Bool}
    (calm : answers.dies = true → firm) :
    Meets (fun session => Pass firm answers session ∧
        session.WatchedBy override)
      (restoreBalanced answers)
      (fun clear session => (Pass firm answers session ∧
        session.WatchedBy override) ∧ (clear = true →
          session.envelope.runtime.balancedRestoreProfile = none))
      Ends := by
  apply meets_memory.bind
  intro envelope
  cases remembered : envelope.runtime.balancedRestoreProfile with
  | none =>
      apply meets_pure
      rintro session ⟨holds, rfl⟩
      exact ⟨holds, fun _ => remembered⟩
  | some previous =>
      have seen : Meets (fun session => (Pass firm answers session ∧
            session.WatchedBy override) ∧ session.envelope = envelope)
          (readRawState answers.readRestore)
          (fun current session => ((Pass firm answers session ∧
            session.WatchedBy override) ∧ session.envelope = envelope) ∧
              Sees current session ∧ (session.change ≠ none →
                current.profiles = session.daemon.profiles)) Ends := by
        have part : answers.readRestore.dies = true →
            answers.dies = true := by
          simp +contextual [Answers.dies]
        refine (meets_readRawState ?_).weaken (fun _ holds => holds) ?_
          fun _ _ holds => holds
        · rintro fault session ⟨⟨pass, -⟩, -⟩ dies
          exact pass.1.ends fun crashed => calm (part (dies crashed))
        · rintro current session ⟨holds, profiles, readable, read, rfl⟩
          refine ⟨holds, ⟨rfl, activeHolds_eq holds.1.1.2.restore read⟩, ?_⟩
          intro changed
          obtain ⟨before, same⟩ := Option.ne_none_iff_exists'.mp changed
          have offered := (holds.1.1.2.offered before same).2
          cases profiles with
          | true => rfl
          | false => exact absurd read (offered readable)
      apply seen.bind
      intro current
      apply meets_ite
      · intro held
        apply meets_pure
        rintro session ⟨⟨holds, -⟩, -⟩
        exact ⟨holds, fun never => by cases never⟩
      · intro unheld
        have empty : current.activeHolds = [] := by simpa using unheld
        -- Other holds hide the selections that a pass must not touch.
        have alone : ∀ session : Session, ((Pass firm answers session ∧
            session.WatchedBy override) ∧ session.envelope = envelope) ∧
              Sees current session ∧ (session.change ≠ none →
                current.profiles = session.daemon.profiles) →
            session.selection = none ∧ session.daemon.holds = [] := by
          rintro session ⟨⟨⟨pass, watched⟩, rfl⟩, sees, -⟩
          have unheld := sees.activeHolds.symm.trans empty
          refine ⟨?_, unheld⟩
          by_contra pending
          obtain ⟨profile, same⟩ := Option.ne_none_iff_exists'.mp pending
          exact ((watched profile same).2 (by simp [remembered])).2 unheld
        have rest : Meets (fun session => session.Idle ∧
              session.envelope.saved = session.disk ∧ session.Sure answers)
            (do
              remember fun runtime =>
                { runtime with balancedRestoreProfile := none }
              persist answers.keepRestored
              return true)
            (fun clear session => (Pass firm answers session ∧
              session.WatchedBy override) ∧ (clear = true →
                session.envelope.runtime.balancedRestoreProfile = none))
            Ends := by
          have forgotten : Meets (fun session => session.Idle ∧
                session.envelope.saved = session.disk ∧ session.Sure answers)
              (remember fun runtime =>
                { runtime with balancedRestoreProfile := none })
              (fun _ session => session.Idle ∧
                session.envelope.saved = session.disk ∧
                session.Sure answers ∧
                session.envelope.runtime.balancedRestoreProfile = none)
              Ends := by
            apply meets_change
            rintro session ⟨idle, synced, sure⟩
            exact ⟨idle.remembered rfl, synced, ⟨sure.selection, sure.restore,
              sure.offered, sure.honest⟩, rfl⟩
          apply forgotten.bind
          intro answer
          have kept : Meets (fun session => session.Idle ∧
                session.envelope.saved = session.disk ∧
                session.Sure answers ∧
                session.envelope.runtime.balancedRestoreProfile = none)
              (persist answers.keepRestored)
              (fun _ session => session.Idle ∧
                session.envelope.saved = session.disk ∧
                session.Sure answers ∧
                session.envelope.runtime.balancedRestoreProfile = none)
              Ends := by
            apply meets_persist_idle
            · exact fun _ holds => holds.1
            · exact fun _ holds => holds.2.1
            · rintro session ⟨idle, -, sure, nothing⟩
              exact ⟨idle.persisted, rfl, ⟨sure.selection, sure.restore,
                sure.offered, sure.honest⟩, nothing⟩
          apply kept.bind
          intro answer
          apply meets_pure
          rintro session ⟨idle, synced, sure, nothing⟩
          exact ⟨⟨⟨idle.going synced, sure⟩, by simp [WatchedBy,
            idle.unselected]⟩, fun _ => nothing⟩
        apply meets_ite
        · rintro ⟨balanced, offered⟩
          apply Meets.bind _ fun _ => rest
          have restored : ∀ session : Session, ((Pass firm answers session ∧
              session.WatchedBy override) ∧ session.envelope = envelope) ∧
                Sees current session ∧ (session.change ≠ none →
                  current.profiles = session.daemon.profiles) →
              (session.acted (session.daemon.select previous) none).Idle := by
            intro session holds
            have going := holds.1.1.1.1
            have unselected := (alone session holds).1
            exact ⟨going.loaded, going.attends.level, rfl, unselected,
              (acted_overwritten unselected).trans
                going.attends.respects.clean⟩
          apply meets_call
          · intro session holds
            have sure := holds.1.1.1.2
            exact ⟨restored session holds, holds.1.1.1.1.synced,
              fun _ _ => rfl, fun _ _ => rfl,
              (fun _ never => by cases never), sure.honest⟩
          · intro fault session holds dies
            have part : answers.selectRestored.dies = true →
                answers.dies = true := by
              simp +contextual [Answers.dies]
            exact holds.1.1.1.1.ends fun crashed => calm (part (dies crashed))
          · exact fun fault session holds _ _ =>
              (restored session holds).ends fault
        · intro elsewhere
          refine rest.weaken ?_ (fun _ _ holds => holds) fun _ _ holds => holds
          intro session holds
          obtain ⟨unselected, unheld⟩ := alone session holds
          obtain ⟨⟨⟨⟨going, sure⟩, -⟩, rfl⟩, sees, profiles⟩ := holds
          have unchanged : session.change = none := by
            by_contra changed
            obtain ⟨before, same⟩ := Option.ne_none_iff_exists'.mp changed
            have known := going.attends.memory before same
            rw [remembered] at known
            cases known
            refine elsewhere ⟨?_, ?_⟩
            · rw [sees.profile, active_of_unheld unheld]
              exact going.attends.remembers.selected previous same
            · rw [profiles changed]
              exact (sure.offered previous same).1
          exact ⟨⟨going.loaded, going.attends.level, unchanged, unselected,
            going.attends.respects.clean⟩, going.synced, sure⟩

/-! ### Selecting balanced -/

/-- Balanced is selected with the profile before it on the disk. -/
theorem going_balanced {session : Session} (idle : session.Idle)
    (synced : session.envelope.saved = session.disk)
    (memory : session.envelope.runtime.balancedRestoreProfile =
      some session.daemon.active)
    (disk : session.disk.balancedRestoreProfile =
      some session.daemon.active) :
    (session.acted (session.daemon.select "balanced")
      (some session.daemon.active)).Going firm := by
  have unselected : (session.acted (session.daemon.select "balanced")
      (some session.daemon.active)).selection = none := idle.unselected
  constructor
  · exact idle.loaded
  · constructor
    · constructor
      · exact fun _ _ => rfl
      · rintro other ⟨rfl⟩
        exact disk
    · constructor
      · simp [unselected]
      · exact (acted_overwritten idle.unselected).trans idle.clean
    · exact idle.level
    · rintro other ⟨rfl⟩
      exact memory
    · simp [unselected]
  · exact synced
  · simp [unselected]

theorem meets_applyBalanced {answers : Answers} {current : Observed} :
    Meets (fun session => Pass firm answers session ∧
        current.profile = session.daemon.active ∧
        (session.selection ≠ none →
          session.envelope.runtime.balancedRestoreProfile.isSome = true))
      (applyBalanced answers current) (fun _ => Going firm) Ends := by
  apply meets_memory.bind
  intro envelope
  apply meets_ite
  · intro held
    apply meets_pure
    rintro session ⟨⟨⟨going, -⟩, -⟩, -⟩
    exact going
  intro unheld
  apply meets_ite
  · intro balanced
    apply meets_pure
    rintro session ⟨⟨⟨going, -⟩, -⟩, -⟩
    exact going
  intro changing
  have nothing : envelope.runtime.balancedRestoreProfile = none := by
    simpa using fun remembered => changing (.inl remembered)
  have honest : Meets (fun session => (Pass firm answers session ∧
        current.profile = session.daemon.active ∧
        (session.selection ≠ none →
          session.envelope.runtime.balancedRestoreProfile.isSome = true)) ∧
        session.envelope = envelope)
      (remember fun runtime =>
        { runtime with balancedRestoreProfile := some current.profile })
      (fun _ session => session.Idle ∧
        session.envelope.saved = session.disk ∧
        session.envelope.runtime.balancedRestoreProfile =
          some session.daemon.active ∧
        answers.selectBalanced ≠ .failed true) Ends := by
    apply meets_change
    rintro session ⟨⟨⟨going, sure⟩, active, known⟩, rfl⟩
    have unselected : session.selection = none := by
      by_contra pending
      simp [nothing] at known
      exact pending known
    have unchanged : session.change = none := by
      by_contra changed
      obtain ⟨before, same⟩ := Option.ne_none_iff_exists'.mp changed
      have remembered := going.attends.memory before same
      simp [nothing] at remembered
    exact ⟨⟨going.loaded, going.attends.level, unchanged, unselected,
      going.attends.respects.clean⟩, going.synced, congrArg some active,
      sure.honest⟩
  apply honest.bind
  intro answer
  have kept : Meets (fun session => session.Idle ∧
        session.envelope.saved = session.disk ∧
        session.envelope.runtime.balancedRestoreProfile =
          some session.daemon.active ∧
        answers.selectBalanced ≠ .failed true)
      ((persist answers.keepBalanced).catching Fault.handled?)
      (handled
        (fun _ session => session.Idle ∧
          session.envelope.saved = session.disk ∧
          session.envelope.runtime.balancedRestoreProfile =
            some session.daemon.active ∧
          session.disk.balancedRestoreProfile = some session.daemon.active ∧
          answers.selectBalanced ≠ .failed true)
        fun _ session => session.Idle) Ends := by
    apply Meets.catching
    apply meets_persist
    · exact fun session holds => holds.2.1
    · rintro session ⟨idle, -, remembered, honest⟩
      exact ⟨idle.persisted, rfl, remembered, remembered, honest⟩
    · rintro fault session ⟨idle, -⟩ -
      cases fault with
      | crashed => exact idle.survives
      | failed => exact idle
    · rintro fault session ⟨idle, -⟩ -
      cases fault with
      | crashed => exact idle.written.survives
      | failed => exact idle.written
  apply kept.bind
  intro kept
  cases kept with
  | error lost =>
      have forgotten : Meets (fun session => session.Idle)
          (remember fun runtime =>
            { runtime with balancedRestoreProfile := none })
          (fun _ session => session.Idle) Ends :=
        meets_change fun session idle => idle.remembered rfl
      apply forgotten.bind
      intro answer
      exact meets_fail fun session idle => idle.ends .failed
  | ok saved =>
      have selected : Meets (fun session => session.Idle ∧
            session.envelope.saved = session.disk ∧
            session.envelope.runtime.balancedRestoreProfile =
              some session.daemon.active ∧
            session.disk.balancedRestoreProfile = some session.daemon.active ∧
            answers.selectBalanced ≠ .failed true)
          ((setActiveProfile answers.selectBalanced "balanced"
            false).catching Fault.handled?)
          (handled (fun _ session => session.Going firm)
            fun _ session => session.Idle ∧
              session.envelope.saved = session.disk) Ends := by
        apply Meets.catching
        apply meets_call
        · rintro session ⟨idle, synced, memory, disk, -⟩
          exact going_balanced idle synced memory disk
        · rintro fault session ⟨idle, synced, -⟩ -
          cases fault with
          | crashed => exact idle.survives
          | failed => exact ⟨idle, synced⟩
        · rintro fault session ⟨idle, synced, memory, disk, honest⟩ refused -
          cases fault with
          | failed => exact absurd (refused rfl) honest
          | crashed =>
              have going : Going True _ :=
                going_balanced idle synced memory disk
              exact going.ends fun _ => trivial
      apply selected.bind
      intro selected
      cases selected with
      | ok done => exact meets_pure fun _ going => going
      | error refused =>
          have forgotten : Meets (fun session => session.Idle ∧
                session.envelope.saved = session.disk)
              (remember fun runtime =>
                { runtime with balancedRestoreProfile := none })
              (fun _ session => session.Idle ∧
                session.envelope.saved = session.disk) Ends := by
            apply meets_change
            rintro session ⟨idle, synced⟩
            exact ⟨idle.remembered rfl, synced⟩
          apply forgotten.bind
          intro answer
          have kept : Meets (fun session => session.Idle ∧
                session.envelope.saved = session.disk)
              (persist answers.keepNothing) (fun _ => Idle) Ends := by
            apply meets_persist_idle
            · exact fun _ holds => holds.1
            · exact fun _ holds => holds.2
            · exact fun _ holds => holds.1.persisted
          apply kept.bind
          intro answer
          exact meets_fail fun session idle => idle.ends .failed

/-! ### Applying a profile -/

/-- A note about the status is no change of the state. -/
theorem going_said {session : Session} (going : session.Going firm)
    (update : Envelope → Status) :
    (session.updated fun envelope =>
      { envelope with status := update envelope }).Going firm := by
  have attends := going.attends
  refine ⟨going.loaded, ⟨⟨attends.remembers.selected,
    attends.remembers.disk⟩, ⟨attends.respects.selected,
    attends.respects.clean⟩, attends.level, attends.memory, ?_⟩,
    going.synced, going.firmly⟩
  exact fun profile pending => (attends.evidence profile pending).imp id
    fun shows => ⟨shows.low, shows.cookie, shows.owner, shows.selected⟩

theorem meets_say {status : String} :
    Meets (Going firm) (say status) (fun _ => Going firm) Ends :=
  meets_change fun _ going => going_said going fun envelope =>
    { envelope.status with status := status }

/-- A hold is taken where others have selected nothing. -/
theorem going_held {session : Session} (going : session.Going firm)
    (unselected : session.selection = none) {daemon : Daemon}
    (selected : daemon.selected = session.daemon.selected) :
    (session.acted daemon session.change).Going firm := by
  have attends := going.attends
  have still : (session.acted daemon session.change).selection = none :=
    unselected
  constructor
  · exact going.loaded
  · constructor
    · constructor
      · intro before changed
        exact selected.trans (attends.remembers.selected before changed)
      · exact attends.remembers.disk
    · constructor
      · simp [still]
      · exact (acted_overwritten unselected).trans attends.respects.clean
    · exact attends.level
    · exact attends.memory
    · simp [still]
  · exact going.synced
  · simp [still]

theorem meets_holdProfile {calling : Calling} {profile : String}
    (calm : calling.dies = true → firm) :
    Meets (fun session => session.Going firm ∧ session.selection = none)
      (holdProfile calling profile)
      (fun _ session => session.Going firm ∧ session.selection = none)
      Ends := by
  have started : Meets
      (fun session => session.Going firm ∧ session.selection = none)
      (Attempt.read : Automation Session)
      (fun _ session => session.Going firm ∧ session.selection = none)
      Ends := meets_read fun session holds => holds
  apply started.bind
  intro seen
  dsimp only
  apply Meets.bind
  case rest => exact fun _ => meets_pure fun _ holds => holds
  apply meets_call
  · rintro session ⟨going, unselected⟩
    exact ⟨going_held going unselected rfl, unselected⟩
  · rintro fault session ⟨going, -⟩ dies
    exact going.ends fun crashed => calm (dies crashed)
  · rintro fault session ⟨going, unselected⟩ - dies
    apply Going.ends _ fun crashed => calm (dies crashed)
    exact going_held going unselected rfl

/-- A selection of others is pending at most where balanced is desired and
has been selected before. -/
def Clear (profile : String) (session : Session) : Prop :=
  session.selection ≠ none → profile = "balanced" ∧
    session.envelope.runtime.balancedRestoreProfile.isSome = true

theorem meets_applyProfile {answers : Answers} {profile : String}
    (calm : answers.dies = true → firm) :
    Meets (fun session => Pass firm answers session ∧ Clear profile session)
      (applyProfile answers profile) (fun _ => Going firm) Ends := by
  have seen : Meets
      (fun session => Pass firm answers session ∧ Clear profile session)
      (readRawState answers.readApply)
      (fun current session => (Pass firm answers session ∧
        Clear profile session) ∧ current.profile = session.daemon.active)
      Ends := by
    have part : answers.readApply.dies = true → answers.dies = true := by
      simp +contextual [Answers.dies]
    refine (meets_readRawState ?_).weaken (fun _ holds => holds) ?_
      fun _ _ holds => holds
    · rintro fault session ⟨pass, -⟩ dies
      exact pass.1.ends fun crashed => calm (part (dies crashed))
    · rintro current session ⟨holds, profiles, readable, -, rfl⟩
      exact ⟨holds, rfl⟩
  apply seen.bind
  intro current
  apply meets_ite
  · intro unavailable
    exact meets_say.weaken (fun _ holds => holds.1.1.1)
      (fun _ _ holds => holds) fun _ _ holds => holds
  intro available
  apply meets_memory.bind
  intro envelope
  have applied : Meets (fun session => ((Pass firm answers session ∧
        Clear profile session) ∧ current.profile = session.daemon.active) ∧
        session.envelope = envelope)
      (if profile = "balanced" then applyBalanced answers current
        else if envelope.cookie.isNone then do
          let cookie ← holdProfile answers.takeHold profile
          update fun envelope => { envelope with
            cookie := some cookie, heldProfile := some profile }
          return true
        else return true)
      (fun _ => Going firm) Ends := by
    apply meets_ite
    · rintro rfl
      refine meets_applyBalanced.weaken ?_ (fun _ _ holds => holds)
        fun _ _ holds => holds
      rintro session ⟨⟨⟨pass, clear⟩, active⟩, -⟩
      exact ⟨pass, active, fun pending => (clear pending).2⟩
    intro held
    have unselected : ∀ session, Clear profile session →
        session.selection = none := by
      intro session clear
      by_contra pending
      exact held (clear pending).1
    apply meets_ite
    · intro free
      have part : answers.takeHold.dies = true → answers.dies = true := by
        simp +contextual [Answers.dies]
      have taken : Meets (fun session => ((Pass firm answers session ∧
            Clear profile session) ∧
            current.profile = session.daemon.active) ∧
            session.envelope = envelope)
          (holdProfile answers.takeHold profile)
          (fun _ session => session.Going firm ∧ session.selection = none)
          Ends := by
        refine (meets_holdProfile fun dies => calm (part dies)).weaken ?_
          (fun _ _ holds => holds) fun _ _ holds => holds
        rintro session ⟨⟨⟨pass, clear⟩, -⟩, -⟩
        exact ⟨pass.1, unselected session clear⟩
      apply taken.bind
      intro cookie
      apply Meets.bind
      case rest => exact fun _ => meets_pure fun _ going => going
      apply meets_change
      rintro session ⟨going, unselected⟩
      have attends := going.attends
      exact ⟨going.loaded, ⟨⟨attends.remembers.selected,
        attends.remembers.disk⟩, ⟨attends.respects.selected,
        attends.respects.clean⟩, attends.level, attends.memory,
        by simp [updated, unselected]⟩, going.synced, going.firmly⟩
    · intro kept
      apply meets_pure
      rintro session ⟨⟨⟨pass, -⟩, -⟩, -⟩
      exact pass.1
  apply applied.bind
  intro applied
  apply meets_ite
  · exact fun blocked => meets_say
  intro done
  have after : Meets (Going firm) (readRawState answers.readApplied)
      (fun _ => Going firm) Ends := by
    have part : answers.readApplied.dies = true → answers.dies = true := by
      simp +contextual [Answers.dies]
    refine (meets_readRawState ?_).weaken (fun _ holds => holds)
      (fun _ _ holds => holds.1) fun _ _ holds => holds
    exact fun fault session going dies =>
      going.ends fun crashed => calm (part (dies crashed))
  apply after.bind
  intro after
  apply meets_ite
  · exact fun different => meets_say
  · exact fun same => meets_pure fun _ going => going

/-! ### Passes -/

theorem sure_dropped {answers : Answers} {session : Session}
    (sure : session.Sure answers) (cookie : Nat) :
    (dropped session cookie).Sure answers where
  selection := by
    intro profiles read
    simp [dropped, sure.selection profiles read]
  restore := by
    intro profiles read
    simp [dropped, sure.restore profiles read]
  offered := sure.offered
  honest := sure.honest

theorem meets_release_pass {answers : Answers} {override : Bool}
    (calm : answers.dies = true → firm) :
    Meets (fun session => Pass firm answers session ∧ session.Watched ∧
        session.envelope.runtime.manualOverride = override)
      (release answers.readHold answers.releaseHold)
      (fun _ session => Pass firm answers session ∧
        session.WatchedBy override) Ends := by
  have parts : answers.readHold.dies = true ∨ answers.releaseHold.dies = true →
      answers.dies = true := by
    rintro (dies | dies) <;> simp [Answers.dies, dies]
  refine (meets_release ?_ ?_ ?_).weaken (fun _ holds => holds) ?_
    fun _ _ holds => holds
  · exact fun fault session holds dies =>
      holds.1.1.ends fun crashed => calm (parts (dies crashed))
  · rintro session cookie ⟨⟨going, sure⟩, -, override⟩ held
    refine ⟨⟨going_dropped going held cookie, sure_dropped sure cookie⟩, ?_,
      override⟩
    intro profile pending
    exact absurd (going.attends.respects.selected profile pending).2 held
  · rintro session ⟨⟨going, sure⟩, watched, override⟩
    refine ⟨⟨going_freed going fun profile pending => ?_, sure.selection,
      sure.restore, sure.offered, sure.honest⟩, watched, override⟩
    have low : session.envelope.runtime.level ≠ .normal := by
      rcases going.attends.evidence profile pending with guards | shows
      · exact guards.1
      · exact shows.low
    exact guards_of_watched watched low pending
  · rintro answer session ⟨pass, watched, rfl⟩
    exact ⟨pass, watched⟩

theorem meets_reconcile {battery : Battery} {answers : Answers}
    (calm : answers.dies = true → firm) :
    Meets (Pass firm answers) (reconcile battery answers)
      (fun _ => Going firm) Ends := by
  apply meets_observe_pass.bind
  intro observed
  apply meets_ite
  · exact fun unavailable => meets_pure fun _ pass => pass.1
  intro available
  have kept : Meets (Pass firm answers) (persist answers.keepLevel)
      (fun _ => Pass firm answers) Ends := by
    have part : answers.keepLevel.dies = true → answers.dies = true := by
      simp +contextual [Answers.dies]
    apply meets_persist_going (fun _ pass => pass.1) fun dies =>
      calm (part dies)
    rintro session ⟨going, sure⟩
    exact ⟨going.persisted, sure.selection, sure.restore, sure.offered,
      sure.honest⟩
  apply kept.bind
  intro kept
  apply meets_memory.bind
  intro before
  apply meets_ite
  · exact fun detached => meets_say.weaken (fun _ holds => holds.1.1)
      (fun _ _ holds => holds) fun _ _ holds => holds
  intro connected
  have noticed : Meets (fun session => Pass firm answers session ∧
        session.envelope = before)
      (observeExternalSelection battery answers)
      (fun _ session => Pass firm answers session ∧ session.Watched) Ends :=
    (meets_observeExternalSelection calm).weaken (fun _ holds => holds.1)
      (fun _ _ holds => holds) fun _ _ holds => holds
  apply noticed.bind
  intro noticed
  apply meets_memory.bind
  intro envelope
  dsimp only
  generalize wanted : (if envelope.runtime.manualOverride = true then none
    else (envelope.level.action battery).profile) = desired
  have unpaused : ∀ profile, desired = some profile →
      envelope.runtime.manualOverride = false := by
    rintro profile rfl
    by_contra paused
    simp [Bool.of_not_eq_false paused] at wanted
  have rest {next : Automation Unit}
      (idle : desired = none → next = return ())
      (applies : ∀ profile, desired = some profile →
        next = applyProfile answers profile) :
      Meets (fun session => Pass firm answers session ∧
        session.WatchedBy envelope.runtime.manualOverride)
      (do
        let clear ← (if desired ≠ some "balanced" then restoreBalanced answers
          else return true)
        if !clear then say "blocked" else next) (fun _ => Going firm) Ends := by
    have restored : Meets (fun session => Pass firm answers session ∧
          session.WatchedBy envelope.runtime.manualOverride)
        (if desired ≠ some "balanced" then restoreBalanced answers
          else return true)
        (fun clear session => (Pass firm answers session ∧
          session.WatchedBy envelope.runtime.manualOverride) ∧
          (desired ≠ some "balanced" → clear = true →
            session.envelope.runtime.balancedRestoreProfile = none)) Ends := by
      apply meets_ite
      · intro other
        exact (meets_restoreBalanced calm).weaken (fun _ holds => holds)
          (fun _ _ holds => ⟨holds.1, fun _ => holds.2⟩)
          fun _ _ holds => holds
      · intro balanced
        exact meets_pure fun _ holds =>
          ⟨holds, fun other => absurd other balanced⟩
    apply restored.bind
    intro clear
    apply meets_ite
    · exact fun blocked => meets_say.weaken (fun _ holds => holds.1.1.1)
        (fun _ _ holds => holds) fun _ _ holds => holds
    intro free
    cases desired with
    | none =>
        rw [idle rfl]
        exact meets_pure fun _ holds => holds.1.1.1
    | some profile =>
        rw [applies profile rfl]
        refine (meets_applyProfile calm).weaken ?_ (fun _ _ holds => holds)
          fun _ _ holds => holds
        rintro session ⟨⟨pass, watched⟩, restored⟩
        refine ⟨pass, fun selected => ?_⟩
        obtain ⟨other, pending⟩ := Option.ne_none_iff_exists'.mp selected
        have remembered := (watched other pending).1.resolve_left
          (by simp [unpaused profile rfl])
        refine ⟨?_, remembered⟩
        by_contra different
        have nothing := restored (by simpa using different) (by simpa using free)
        simp [nothing] at remembered
  have released : Meets (fun session => (Pass firm answers session ∧
        session.Watched) ∧ session.envelope = envelope)
      (release answers.readHold answers.releaseHold)
      (fun _ session => Pass firm answers session ∧
        session.WatchedBy envelope.runtime.manualOverride) Ends := by
    refine (meets_release_pass calm).weaken ?_ (fun _ _ holds => holds)
      fun _ _ holds => holds
    rintro session ⟨⟨pass, watched⟩, rfl⟩
    exact ⟨pass, watched, rfl⟩
  apply meets_ite
  · intro other
    apply released.bind
    intro _
    apply rest
    · rintro rfl
      rfl
    · rintro profile rfl
      rfl
  · intro same
    refine (rest ?_ ?_).weaken ?_ (fun _ _ holds => holds)
      fun _ _ holds => holds
    · rintro rfl
      rfl
    · rintro profile rfl
      rfl
    · rintro session ⟨⟨pass, watched⟩, rfl⟩
      exact ⟨pass, watched⟩

end Automation

end BarDaemon.PowerProfiles
