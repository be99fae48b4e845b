import BarDaemon.PowerPasses

/-!
# Selections of power profiles

A manual selection pauses the automation first, and takes the pause back where
it fails.  In runs whose steps leave something by which every selection is
noticed, none is overwritten, and the profile before a change to balanced is on
the disk.
-/

namespace BarDaemon.PowerProfiles

open Attempt TransitionRuns

/-- The process may die in the selection. -/
def ManualAnswers.dies (answers : ManualAnswers) : Bool :=
  answers.readBefore.dies || answers.keepPause.dies ||
    answers.readHold.dies || answers.releaseHold.dies ||
    answers.selectManual.dies || answers.keepUnpaused.dies ||
    answers.keepSelected.dies || answers.pass.dies

/-! ### Pausing -/

namespace Session

def overridden (session : Session) (override : Bool) : Session :=
  session.remembered fun runtime =>
    { runtime with manualOverride := override }

/-- The state in memory guards every selection. -/
def Guarded (session : Session) : Prop :=
  ∀ profile, session.selection = some profile →
    session.envelope.runtime.Guards profile

/-- The level that a pass observes. -/
def observedLevel (session : Session) (battery : Battery) : Level :=
  if battery.available then session.envelope.level.observe battery
  else session.envelope.level

variable {firm : Prop} {session : Session} {override : Bool}

theorem Attends.overridden (attends : session.Attends)
    (guarded : (session.overridden override).Guarded) :
    (session.overridden override).Attends where
  remembers := ⟨attends.remembers.selected, attends.remembers.disk⟩
  respects := ⟨attends.respects.selected, attends.respects.clean⟩
  level := attends.level
  memory := attends.memory
  evidence := fun profile pending => .inl (guarded profile pending)

theorem Going.overridden (going : session.Going firm)
    (guarded : (session.overridden override).Guarded) :
    (session.overridden override).Going firm where
  loaded := going.loaded
  attends := going.attends.overridden guarded
  synced := going.synced
  firmly := fun firmly profile pending =>
    ⟨guarded profile pending, (going.firmly firmly profile pending).2⟩

/-- A manual selection under way.  Without the pause the state in memory would
guard the earlier selections as well. -/
structure Choosing (firm : Prop) (profile : String) (answers : ManualAnswers)
    (paused : Bool) (session : Session) : Prop where
  going : session.Going firm
  sure : session.Sure answers.pass
  unpaused : (session.overridden paused).Guarded
  refused : answers.selectManual = .failed true →
    session.envelope.level = .normal
  restore : firm → profile = "balanced" →
    session.envelope.runtime.balancedRestoreProfile = none

/-- The pause is in memory and on the disk. -/
structure Paused (firm : Prop) (profile : String) (answers : ManualAnswers)
    (paused : Bool) (session : Session) : Prop where
  choosing : session.Choosing firm profile answers paused
  override : session.envelope.runtime.manualOverride =
    (session.envelope.level != .normal)
  disk : session.disk = session.envelope.runtime

variable {profile : String} {answers : ManualAnswers} {paused : Bool}

/-- The pause itself. -/
theorem Choosing.pause
    (choosing : session.Choosing firm profile answers paused) :
    (session.overridden (session.envelope.level != .normal)).Choosing firm
        profile answers paused ∧
      (session.overridden (session.envelope.level != .normal)).Guarded := by
  have guarded :
      (session.overridden (session.envelope.level != .normal)).Guarded := by
    intro other pending
    obtain ⟨low, guards⟩ := choosing.unpaused other pending
    have low : session.envelope.runtime.level ≠ .normal := low
    have overriding : (session.envelope.level != .normal) = true := by
      rw [← choosing.going.attends.level]
      simpa using low
    refine ⟨low, ?_⟩
    split
    case isTrue balanced =>
        rw [if_pos balanced] at guards
        exact ⟨overriding, guards.2⟩
    case isFalse different => exact .inl overriding
  refine ⟨⟨choosing.going.overridden guarded, ?_, choosing.unpaused,
    choosing.refused, choosing.restore⟩, guarded⟩
  exact ⟨choosing.sure.selection, choosing.sure.restore,
    choosing.sure.offered, choosing.sure.honest⟩

theorem Choosing.guarded
    (choosing : session.Choosing firm profile answers paused)
    (override : session.envelope.runtime.manualOverride =
      (session.envelope.level != .normal)) : session.Guarded := by
  have guarded := choosing.pause.2
  rw [← override] at guarded
  exact guarded

theorem Choosing.persisted
    (choosing : session.Choosing firm profile answers paused) :
    session.persisted.Choosing firm profile answers paused :=
  ⟨choosing.going.persisted, ⟨choosing.sure.selection,
    choosing.sure.restore, choosing.sure.offered, choosing.sure.honest⟩,
    choosing.unpaused, choosing.refused, choosing.restore⟩

/-! ### The selection itself -/

/-- At the normal level a selection is nothing to be kept. -/
theorem Choosing.chosen_normal
    (choosing : session.Choosing firm profile answers paused)
    (normal : session.envelope.level = .normal) :
    (session.chosen profile).Choosing firm profile answers paused := by
  have going := choosing.going
  have unselected : (session.chosen profile).selection = none := by
    simp [chosen, going.loaded, normal]
  have idle : (session.chosen profile).Idle :=
    ⟨going.loaded, going.attends.level, rfl, unselected,
      going.attends.respects.clean⟩
  refine ⟨idle.going going.synced, ⟨fun _ _ => rfl, fun _ _ => rfl, nofun,
    choosing.sure.honest⟩, ?_, choosing.refused, choosing.restore⟩
  intro other pending
  exact absurd (unselected.symm.trans pending) (by simp)

theorem selection_chosen (loaded : session.envelope.loaded = true)
    {other : String} (pending : (session.chosen profile).selection = some other) :
    other = profile ∧ session.envelope.level ≠ .normal := by
  simp only [chosen, loaded, if_true] at pending
  split at pending
  · cases pending
  · next low =>
      cases pending
      exact ⟨rfl, low⟩

/-- The disk has the pause, which guards the new selection. -/
theorem Paused.disk_guards
    (paused : session.Paused firm profile answers override) (firmly : firm)
    (low : session.envelope.level ≠ .normal) : session.disk.Guards profile := by
  have overriding : session.disk.manualOverride = true := by
    rw [paused.disk, paused.override]
    simpa using low
  constructor
  · rw [paused.disk, paused.choosing.going.attends.level]
    exact low
  · split
    case isTrue balanced =>
        refine ⟨overriding, ?_⟩
        rw [paused.disk]
        exact paused.choosing.restore firmly balanced
    case isFalse different => exact .inl overriding

theorem Paused.survives
    (paused : session.Paused firm profile answers override) (firmly : firm) :
    (session.chosen profile).Survives := by
  have going := paused.choosing.going
  refine ⟨⟨nofun, nofun⟩, ⟨?_, going.attends.respects.clean⟩, ?_⟩
  · intro other pending
    obtain ⟨rfl, -⟩ := selection_chosen going.loaded pending
    exact ⟨rfl, nofun⟩
  · intro other pending
    obtain ⟨rfl, low⟩ := selection_chosen going.loaded pending
    exact paused.disk_guards firmly low

/-- The new selection supersedes the remembered profile. -/
theorem Paused.superseded
    (paused : session.Paused firm profile answers override) :
    ((session.chosen profile).remembered fun runtime =>
      { runtime with balancedRestoreProfile := none }).Going firm := by
  have going := paused.choosing.going
  have guards : ∀ other, (session.chosen profile).selection = some other →
      Runtime.Guards { session.envelope.runtime with
        balancedRestoreProfile := none } other := by
    intro other pending
    obtain ⟨rfl, low⟩ := selection_chosen going.loaded pending
    have overriding : session.envelope.runtime.manualOverride = true := by
      rw [paused.override]
      simpa using low
    constructor
    · exact fun normal => low (going.attends.level.symm.trans normal)
    · simp [overriding]
  constructor
  · exact going.loaded
  · constructor
    · exact ⟨nofun, nofun⟩
    · constructor
      · intro other pending
        obtain ⟨rfl, -⟩ := selection_chosen going.loaded pending
        exact ⟨rfl, nofun⟩
      · exact going.attends.respects.clean
    · exact going.attends.level
    · nofun
    · exact fun other pending => .inl (guards other pending)
  · exact going.synced
  · intro firmly other pending
    refine ⟨guards other pending, ?_⟩
    obtain ⟨rfl, low⟩ := selection_chosen going.loaded pending
    exact paused.disk_guards firmly low

theorem Paused.dropped
    (paused : session.Paused firm profile answers override)
    (held : ¬ session.Unheld) (cookie : Nat) :
    (Automation.dropped session cookie).Paused firm profile answers
      override := by
  have choosing := paused.choosing
  have unselected : ∀ other, session.selection ≠ some other :=
    fun other pending =>
      held (choosing.going.attends.respects.selected other pending).2
  exact ⟨⟨Automation.going_dropped choosing.going held cookie,
    Automation.sure_dropped choosing.sure cookie,
    fun other pending => absurd pending (unselected other), choosing.refused,
    choosing.restore⟩, paused.override, paused.disk⟩

theorem Paused.freed
    (paused : session.Paused firm profile answers override) :
    (Automation.freed session).Paused firm profile answers override := by
  have choosing := paused.choosing
  have guarded := choosing.guarded paused.override
  exact ⟨⟨Automation.going_freed choosing.going guarded,
    ⟨choosing.sure.selection, choosing.sure.restore, choosing.sure.offered,
      choosing.sure.honest⟩, choosing.unpaused, choosing.refused,
    choosing.restore⟩, paused.override, paused.disk⟩

end Session

namespace Automation

open Session

variable {firm : Prop}

/-! ### Manual selections -/

theorem Observes.guarded {session after : Session}
    (observes : Observes session after) (attends : after.Attends)
    (guarded : session.Guarded) : after.Guarded := by
  intro profile pending
  obtain ⟨before, override⟩ := observes.pending profile pending
  obtain ⟨-, guards⟩ := guarded profile before
  rw [← override, ← observes.restore] at guards
  refine ⟨?_, guards⟩
  rcases attends.evidence profile pending with guards | shows
  · exact guards.1
  · exact shows.low

/-- What the release of the hold and the write of the selection lead to. -/
def Selects (firm : Prop) (profile : String) (answers : ManualAnswers)
    (paused : Bool) : Except Unit Unit → Session → Prop
  | .ok (), session => ∃ earlier : Session,
      earlier.Paused firm profile answers paused ∧
        session = earlier.chosen profile
  | .error (), session => session.Choosing firm profile answers paused

theorem meets_selection {answers : ManualAnswers} {profile : String}
    {paused : Bool} (calm : answers.dies = true → firm) :
    Meets (Paused firm profile answers paused)
      ((do
        release answers.readHold answers.releaseHold
        setManual answers.selectManual profile : Automation Unit).catching
          Fault.handled?)
      (Selects firm profile answers paused) Ends := by
  apply Meets.catching
  apply Meets.bind
  · apply meets_release
    · intro fault session holds dies
      cases fault with
      | failed => exact holds.choosing
      | crashed =>
          apply holds.choosing.going.ends
          intro crashed
          rcases dies crashed with dies | dies
          · exact calm (by simp [ManualAnswers.dies, dies])
          · exact calm (by simp [ManualAnswers.dies, dies])
    · exact fun session cookie holds held => holds.dropped held cookie
    · exact fun session holds => holds.freed
  · intro answer
    have part : answers.selectManual.dies = true → answers.dies = true := by
      simp +contextual [ManualAnswers.dies]
    apply meets_call
    · exact fun session holds => ⟨session, holds, rfl⟩
    · intro fault session holds dies
      cases fault with
      | failed => exact holds.choosing
      | crashed =>
          exact holds.choosing.going.ends fun crashed =>
            calm (part (dies crashed))
    · intro fault session holds refused dies
      cases fault with
      | failed =>
          exact holds.choosing.chosen_normal
            (holds.choosing.refused (refused rfl))
      | crashed => exact holds.survives (calm (part (dies rfl)))

/-- What a manual selection asks for. -/
structure Chooses (firm : Prop) (profile : String) (battery : Battery)
    (answers : ManualAnswers) (session : Session) : Prop where
  sure : session.Sure answers.pass
  guarded : session.Guarded
  refused : answers.selectManual = .failed true →
    session.observedLevel battery = .normal
  restore : firm → profile = "balanced" →
    session.envelope.runtime.balancedRestoreProfile = none

theorem meets_observe_choosing {profile : String} {battery : Battery}
    {answers : ManualAnswers} :
    Meets (fun session => session.Going firm ∧
        Chooses firm profile battery answers session)
      (observe battery)
      (fun _ session => session.Choosing firm profile answers
        session.envelope.runtime.manualOverride) Ends := by
  have observed : Meets (fun session => session.Going firm ∧
        Chooses firm profile battery answers session)
      (observe battery) (fun _ => Going firm) Ends :=
    meets_observe.weaken (fun _ holds => holds.1) (fun _ _ holds => holds)
      fun _ _ holds => holds
  have within : Within (fun session after => Observes session after ∧
      after.envelope.level = session.observedLevel battery)
      (observe battery) :=
    fun session => ⟨within_observe battery session, rfl⟩
  refine (observed.within within).weaken (fun _ holds => holds) ?_
    fun _ _ holds => holds
  rintro answer session ⟨going, earlier, ⟨-, chooses⟩, observes, level⟩
  constructor
  · exact going
  · exact observes.sure chooses.sure
  · exact observes.guarded going.attends chooses.guarded
  · exact fun refused => level.trans (chooses.refused refused)
  · exact fun firmly balanced =>
      observes.restore.trans (chooses.restore firmly balanced)

/-- Where the pause is not kept, it is taken back. -/
theorem meets_pause {answers : ManualAnswers} {profile : String}
    {paused : Bool} (calm : answers.dies = true → firm) :
    Meets (fun session => session.Choosing firm profile answers paused ∧
        session.envelope.runtime.manualOverride =
          (session.envelope.level != .normal))
      ((persist answers.keepPause).catching Fault.handled?)
      (fun kept session => match kept with
        | .ok () => session.Paused firm profile answers paused
        | .error () => session.envelope.loaded = true ∧ session.Attends ∧
            (session.overridden paused).Guarded) Ends := by
  have part : answers.keepPause.dies = true → answers.dies = true := by
    simp +contextual [ManualAnswers.dies]
  apply Meets.catching
  apply meets_persist
  · exact fun session holds => holds.1.going.synced
  · exact fun session holds => ⟨holds.1.persisted, holds.2, rfl⟩
  · intro fault session holds dies
    cases fault with
    | failed =>
        exact ⟨holds.1.going.loaded, holds.1.going.attends, holds.1.unpaused⟩
    | crashed =>
        exact holds.1.going.ends fun crashed => calm (part (dies crashed))
  · intro fault session holds dies
    cases fault with
    | failed =>
        exact ⟨holds.1.going.loaded, holds.1.going.attends.written,
          holds.1.unpaused⟩
    | crashed =>
        exact holds.1.going.written fun crashed => calm (part (dies crashed))

theorem meets_selectManual {profile : String} {battery : Battery}
    {answers : ManualAnswers} (calm : answers.dies = true → firm) :
    Meets (fun session => session.Going firm ∧
        Chooses firm profile battery answers session)
      (selectManual profile battery answers) (fun _ => Going firm) Ends := by
  apply meets_memory.bind
  intro envelope
  apply meets_ensure_bind
  · exact fun session holds => holds.1.1.ends nofun
  intro attached
  apply meets_ensure_bind
  · exact fun session holds => holds.1.1.ends nofun
  intro supported
  have seen : Meets (fun session => (session.Going firm ∧
        Chooses firm profile battery answers session) ∧
        session.envelope = envelope)
      (readRawState answers.readBefore)
      (fun _ session => session.Going firm ∧
        Chooses firm profile battery answers session) Ends := by
    have part : answers.readBefore.dies = true → answers.dies = true := by
      simp +contextual [ManualAnswers.dies]
    refine (meets_readRawState ?_).weaken (fun _ holds => holds)
      (fun _ _ holds => holds.1.1) fun _ _ holds => holds
    exact fun fault session holds dies =>
      holds.1.1.ends fun crashed => calm (part (dies crashed))
  apply seen.bind
  intro current
  apply meets_ensure_bind
  · exact fun session holds => holds.1.ends nofun
  intro available
  apply meets_observe_choosing.bind
  intro answer
  apply meets_memory.bind
  intro observed
  dsimp only
  have paused : Meets (fun session => session.Choosing firm profile answers
        session.envelope.runtime.manualOverride ∧ session.envelope = observed)
      (remember fun runtime =>
        { runtime with manualOverride := observed.level != .normal })
      (fun _ session => session.Choosing firm profile answers
        observed.runtime.manualOverride ∧
        session.envelope.runtime.manualOverride =
          (session.envelope.level != .normal)) Ends := by
    apply meets_change
    rintro session ⟨choosing, rfl⟩
    exact ⟨choosing.pause.1, rfl⟩
  apply paused.bind
  intro answer
  apply (meets_pause calm).bind
  intro kept
  cases kept with
  | error lost =>
      have resumed : Meets (fun session => session.envelope.loaded = true ∧
            session.Attends ∧
            (session.overridden observed.runtime.manualOverride).Guarded)
          (remember fun runtime => { runtime with
            manualOverride := observed.runtime.manualOverride })
          (fun _ session => Ends .failed session) Ends := by
        apply meets_change
        rintro session ⟨loaded, attends, guarded⟩
        exact ⟨loaded, attends.overridden guarded⟩
      apply resumed.bind
      intro answer
      exact meets_fail fun _ holds => holds
  | ok saved =>
      apply (meets_selection calm).bind
      intro selected
      cases selected with
      | error refused =>
          have resumed : Meets (fun session => session.Choosing firm profile
                answers observed.runtime.manualOverride)
              (remember fun runtime => { runtime with
                manualOverride := observed.runtime.manualOverride })
              (fun _ => Pass firm answers.pass) Ends := by
            apply meets_change
            intro session choosing
            exact ⟨choosing.going.overridden choosing.unpaused,
              choosing.sure.selection, choosing.sure.restore,
              choosing.sure.offered, choosing.sure.honest⟩
          apply resumed.bind
          intro answer
          have kept : Meets (Pass firm answers.pass)
              (persist answers.keepUnpaused) (fun _ => Pass firm answers.pass)
              Ends := by
            have part : answers.keepUnpaused.dies = true →
                answers.dies = true := by
              simp +contextual [ManualAnswers.dies]
            apply meets_persist_going (fun _ pass => pass.1) fun dies =>
              calm (part dies)
            rintro session ⟨going, sure⟩
            exact ⟨going.persisted, sure.selection, sure.restore,
              sure.offered, sure.honest⟩
          apply kept.bind
          intro answer
          have part : answers.pass.dies = true → answers.dies = true := by
            simp +contextual [ManualAnswers.dies]
          apply (meets_reconcile fun dies => calm (part dies)).bind
          intro answer
          exact meets_fail fun session going => going.ends nofun
      | ok done =>
          have superseded : Meets (Selects firm profile answers
                observed.runtime.manualOverride (.ok ()))
              (remember fun runtime =>
                { runtime with balancedRestoreProfile := none })
              (fun _ => Going firm) Ends := by
            apply meets_change
            rintro session ⟨earlier, paused, rfl⟩
            exact paused.superseded
          apply superseded.bind
          intro answer
          have kept : Meets (Going firm) (persist answers.keepSelected)
              (fun _ => Going firm) Ends := by
            have part : answers.keepSelected.dies = true →
                answers.dies = true := by
              simp +contextual [ManualAnswers.dies]
            exact meets_persist_going (fun _ going => going)
              (fun dies => calm (part dies)) fun _ going => going.persisted
          apply kept.bind
          intro answer
          exact meets_observe

/-! ### Resuming -/

theorem meets_resume {battery : Battery} {keepResumed : Saving}
    {answers : Answers} :
    Meets (fun session => session.Going firm ∧ session.Sure answers)
      (resume battery keepResumed answers) (fun _ => Going True) Ends := by
  apply meets_memory.bind
  intro envelope
  apply meets_ensure_bind
  · exact fun session holds => holds.1.1.ends nofun
  intro attached
  have given : Meets (fun session => (session.Going firm ∧
        session.Sure answers) ∧ session.envelope = envelope)
      (Attempt.change fun session => { session with selection := none } :
        Automation Unit)
      (fun _ session => Pass True answers session ∧ session.selection = none)
      Ends := by
    apply meets_change
    rintro session ⟨⟨going, sure⟩, -⟩
    have attends := going.attends
    exact ⟨⟨⟨going.loaded, ⟨⟨attends.remembers.selected,
      attends.remembers.disk⟩, ⟨nofun, attends.respects.clean⟩,
      attends.level, attends.memory, nofun⟩, going.synced, fun _ => nofun⟩,
      sure.selection, sure.restore, sure.offered, sure.honest⟩, rfl⟩
  apply given.bind
  intro answer
  have resumed : Meets (fun session => Pass True answers session ∧
        session.selection = none)
      (remember fun runtime => { runtime with manualOverride := false })
      (fun _ => Pass True answers) Ends := by
    apply meets_change
    rintro session ⟨⟨going, sure⟩, unselected⟩
    have guarded : (session.overridden false).Guarded :=
      fun profile pending => absurd (unselected.symm.trans pending) (by simp)
    exact ⟨going.overridden guarded, sure.selection, sure.restore,
      sure.offered, sure.honest⟩
  apply resumed.bind
  intro answer
  have kept : Meets (Pass True answers) (persist keepResumed)
      (fun _ => Pass True answers) Ends := by
    apply meets_persist_going (fun _ pass => pass.1) fun _ => trivial
    rintro session ⟨going, sure⟩
    exact ⟨going.persisted, sure.selection, sure.restore, sure.offered,
      sure.honest⟩
  apply kept.bind
  intro answer
  exact meets_reconcile fun _ => trivial

end Automation

/-! ### Runs -/

namespace Session

/-- Where the process may die, the disk guards the selections. -/
def Firm (session : Session) : Prop :=
  session.Guarded ∧ ∀ profile, session.selection = some profile →
    session.disk.Guards profile

/-- A selection of others is noticed where it is made. -/
def Noticeable (session : Session) (profile : String) : Prop :=
  if session.envelope.loaded = true then
    session.envelope.level ≠ .normal →
      session.envelope.runtime.Guards profile ∨ session.Shows profile
  else session.disk.level ≠ .normal → session.disk.Guards profile

/-- A pass finds the state that it has left, and sees what it asks for. -/
structure Passes (answers : Answers) (session : Session) : Prop where
  synced : session.envelope.saved = session.disk
  sure : session.Sure answers
  firm : answers.dies = true → session.Firm

/-- What a step asks for, so that no selection and no remembered profile is
lost. -/
def Orderly (session : Session) : Event → Prop
  | .attach _ => session.envelope.loaded = true → session.Guarded
  | .detach => session.envelope.loaded = true → session.Guarded
  | .restart => ∀ profile, session.selection = some profile →
      session.disk.Guards profile
  | .reconcile _ answers =>
      session.envelope.connected = true → session.Passes answers
  | .selectManual profile battery answers =>
      session.envelope.loaded = true →
        session.envelope.saved = session.disk ∧
          Automation.Chooses (answers.dies = true) profile battery answers
            session ∧ (answers.dies = true → session.Firm)
  | .resume _ _ answers => session.envelope.loaded = true →
      session.envelope.saved = session.disk ∧ session.Sure answers
  | .external profile => session.Noticeable profile
  | .hold _ application _ => application ≠ holdApplication
  | .unhold _ => True
  | .offer _ => True
  | .replaced _ => session.envelope.loaded = true → session.Guarded

/-! ### Steps -/

variable {firm : Prop} {session : Session} {profile : String}

theorem sound_of_attends (loaded : session.envelope.loaded = true)
    (attends : session.Attends) : session.Sound where
  connected := fun _ => loaded
  survives := fun unloaded => absurd (loaded.symm.trans unloaded) nofun
  attends := fun _ => attends

theorem unheld_disconnect (unheld : session.Unheld) :
    ∀ hold ∈ session.daemon.disconnect.holds,
      hold.application ≠ holdApplication := by
  intro hold member
  exact unheld hold (List.mem_of_mem_filter member)

theorem Survives.restarted (survives : session.Survives) :
    session.restarted.Survives where
  remembers := ⟨survives.remembers.selected, survives.remembers.disk⟩
  respects := ⟨fun profile pending =>
    have selected := survives.respects.selected profile pending
    ⟨selected.1, unheld_disconnect selected.2⟩, survives.respects.clean⟩
  guards := survives.guards

theorem sound_restarted (survives : session.Survives) :
    session.restarted.Sound where
  connected := nofun
  survives := fun _ => survives.restarted
  attends := nofun

/-- However an attempt ends, the state is sound. -/
theorem sound_settled {before : Session → Prop} {attempt : Automation Unit}
    (spec : Meets before attempt (fun _ => Going firm) Ends)
    (holds : before session) : (settled (attempt session)).Sound := by
  have reached := spec session holds
  rcases result : attempt session with ⟨outcome, after⟩
  rw [result] at reached
  cases outcome with
  | ok answer => exact sound_of_attends reached.loaded reached.attends
  | error fault =>
      cases fault with
      | failed => exact sound_of_attends reached.1 reached.2
      | crashed => exact sound_restarted reached

theorem Sound.attach (sound : session.Sound) {readable : Bool}
    (guarded : session.envelope.loaded = true → session.Guarded) :
    (session.attach readable).Sound := by
  rw [Session.attach]
  split
  · next loaded =>
      have attends := sound.attends loaded
      apply sound_of_attends
      · exact loaded
      · exact ⟨⟨attends.remembers.selected, attends.remembers.disk⟩,
          ⟨attends.respects.selected, attends.respects.clean⟩, attends.level,
          attends.memory, fun profile pending =>
            .inl (guarded loaded profile pending)⟩
  · next unloaded =>
      split
      · have survives := sound.survives (by simpa using unloaded)
        apply sound_of_attends
        · rfl
        · exact ⟨⟨survives.remembers.selected, survives.remembers.disk⟩,
            ⟨survives.respects.selected, survives.respects.clean⟩, rfl,
            survives.remembers.disk, fun profile pending =>
              .inl (survives.guards profile pending)⟩
      · exact sound

theorem Sound.detach (sound : session.Sound)
    (guarded : session.envelope.loaded = true → session.Guarded) :
    session.detach.Sound where
  connected := nofun
  survives := fun unloaded =>
    have survives := (sound.survives unloaded).restarted
    ⟨⟨survives.remembers.selected, survives.remembers.disk⟩,
      ⟨survives.respects.selected, survives.respects.clean⟩, survives.guards⟩
  attends := fun loaded =>
    have attends := sound.attends loaded
    ⟨⟨attends.remembers.selected, attends.remembers.disk⟩,
      ⟨fun profile pending =>
        have selected := attends.respects.selected profile pending
        ⟨selected.1, unheld_disconnect selected.2⟩, attends.respects.clean⟩,
      attends.level, attends.memory, fun profile pending =>
        .inl (guarded loaded profile pending)⟩

theorem Sound.restarted (sound : session.Sound)
    (guards : ∀ profile, session.selection = some profile →
      session.disk.Guards profile) : session.restarted.Sound := by
  apply sound_restarted
  by_cases loaded : session.envelope.loaded = true
  · have attends := sound.attends loaded
    exact ⟨attends.remembers, attends.respects, guards⟩
  · exact sound.survives (by simpa using loaded)

/-- A new selection of others. -/
theorem Sound.chosen (sound : session.Sound)
    (noticeable : session.Noticeable profile) :
    (session.chosen profile).Sound := by
  by_cases loaded : session.envelope.loaded = true
  · have attends := sound.attends loaded
    rw [Noticeable, if_pos loaded] at noticeable
    apply sound_of_attends
    · exact loaded
    · refine ⟨⟨nofun, nofun⟩, ⟨?_, attends.respects.clean⟩, attends.level,
        nofun, ?_⟩
      · intro other pending
        obtain ⟨rfl, -⟩ := selection_chosen loaded pending
        exact ⟨rfl, nofun⟩
      · intro other pending
        obtain ⟨rfl, low⟩ := selection_chosen loaded pending
        exact (noticeable low).imp id fun shows =>
          ⟨shows.low, shows.cookie, shows.owner, shows.selected⟩
  · have survives := sound.survives (by simpa using loaded)
    rw [Noticeable, if_neg loaded] at noticeable
    have selected : ∀ other, (session.chosen profile).selection =
        some other → other = profile ∧ session.disk.level ≠ .normal := by
      intro other pending
      simp only [Session.chosen, if_neg loaded] at pending
      split at pending
      · cases pending
      · next low =>
          cases pending
          exact ⟨rfl, low⟩
    refine ⟨sound.connected, fun _ => ⟨⟨nofun, nofun⟩,
      ⟨?_, survives.respects.clean⟩, ?_⟩, fun reloaded =>
        absurd reloaded loaded⟩
    · intro other pending
      obtain ⟨rfl, -⟩ := selected other pending
      exact ⟨rfl, nofun⟩
    · intro other pending
      obtain ⟨rfl, low⟩ := selected other pending
      exact noticeable low

/-- A change on the bus that neither selects a profile nor takes a hold of the
automation. -/
theorem Sound.rearranged (sound : session.Sound) {daemon : Daemon}
    (selected : daemon.selected = session.daemon.selected)
    (unheld : session.Unheld → ∀ hold ∈ daemon.holds,
      hold.application ≠ holdApplication)
    (owner : session.envelope.loaded = true → session.Guarded ∨
      daemon.owner = session.daemon.owner) :
    ({ session with daemon := daemon } : Session).Sound where
  connected := sound.connected
  survives := fun unloaded =>
    have survives := sound.survives unloaded
    ⟨⟨fun before changed => selected.trans
        (survives.remembers.selected before changed), survives.remembers.disk⟩,
      ⟨fun profile pending =>
        have settled := survives.respects.selected profile pending
        ⟨selected.trans settled.1, unheld settled.2⟩,
        survives.respects.clean⟩, survives.guards⟩
  attends := fun loaded =>
    have attends := sound.attends loaded
    ⟨⟨fun before changed => selected.trans
        (attends.remembers.selected before changed), attends.remembers.disk⟩,
      ⟨fun profile pending =>
        have settled := attends.respects.selected profile pending
        ⟨selected.trans settled.1, unheld settled.2⟩,
        attends.respects.clean⟩, attends.level, attends.memory, by
        intro profile pending
        rcases owner loaded with guarded | same
        · exact .inl (guarded profile pending)
        · exact (attends.evidence profile pending).imp id fun shows =>
            ⟨shows.low, shows.cookie, shows.owner.trans same.symm,
              shows.selected⟩⟩

theorem Sound.going (sound : session.Sound)
    (loaded : session.envelope.loaded = true)
    (synced : session.envelope.saved = session.disk) {firm : Prop}
    (firmly : firm → session.Firm) : session.Going firm where
  loaded := loaded
  attends := sound.attends loaded
  synced := synced
  firmly := fun holds profile pending =>
    ⟨(firmly holds).1 profile pending, (firmly holds).2 profile pending⟩

/-- Requests that come before the state is loaded are refused. -/
theorem selectManual_unloaded (unloaded : session.envelope.loaded = false)
    (battery : Battery) (answers : ManualAnswers) :
    Automation.selectManual profile battery answers session =
      (.error .failed, session) := by
  simp [Automation.selectManual, Automation.memory, Attempt.bind_apply,
    Attempt.read, ensure, fail, unloaded]

theorem resume_unloaded (unloaded : session.envelope.loaded = false)
    (battery : Battery) (keepResumed : Saving) (answers : Answers) :
    Automation.resume battery keepResumed answers session =
      (.error .failed, session) := by
  simp [Automation.resume, Automation.memory, Attempt.bind_apply,
    Attempt.read, ensure, fail, unloaded]

/-- The step lemma. -/
theorem Sound.step (sound : session.Sound) {event : Event}
    (orderly : session.Orderly event) : (session.step event).Sound := by
  cases event with
  | attach readable => exact sound.attach orderly
  | detach => exact sound.detach orderly
  | restart => exact sound.restarted orderly
  | external profile => exact sound.chosen orderly
  | reconcile battery answers =>
      simp only [Session.step]
      split
      · next connected =>
          have passes := orderly connected
          apply sound_settled (Automation.meets_reconcile id)
          exact ⟨sound.going (sound.connected connected) passes.synced
            passes.firm, passes.sure⟩
      · exact sound
  | selectManual profile battery answers =>
      simp only [Session.step]
      by_cases loaded : session.envelope.loaded = true
      · obtain ⟨synced, chooses, firm⟩ := orderly loaded
        apply sound_settled (Automation.meets_selectManual id)
        exact ⟨sound.going loaded synced firm, chooses⟩
      · rw [selectManual_unloaded (by simpa using loaded)]
        exact sound
  | resume battery keepResumed answers =>
      simp only [Session.step]
      by_cases loaded : session.envelope.loaded = true
      · obtain ⟨synced, sure⟩ := orderly loaded
        have going : session.Going False := sound.going loaded synced nofun
        exact sound_settled Automation.meets_resume ⟨going, sure⟩
      · rw [resume_unloaded (by simpa using loaded)]
        exact sound
  | hold cookie application profile =>
      apply sound.rearranged
      · rfl
      · intro unheld hold member
        rcases List.mem_append.mp member with member | member
        · exact unheld hold member
        · rw [List.mem_singleton.mp member]
          exact orderly
      · exact fun _ => .inr rfl
  | unhold cookie =>
      apply sound.rearranged
      · rfl
      · exact fun unheld hold member =>
          unheld hold (List.mem_of_mem_filter member)
      · exact fun _ => .inr rfl
  | offer profiles =>
      exact sound.rearranged rfl (fun unheld => unheld) fun _ => .inr rfl
  | replaced owner =>
      exact sound.rearranged rfl (fun _ => nofun) fun loaded =>
        .inl (orderly loaded)

theorem sound_initial (daemon : Daemon) : (initial daemon).Sound where
  connected := nofun
  survives := fun _ => ⟨⟨nofun, nofun⟩, ⟨nofun, rfl⟩, nofun⟩
  attends := nofun

theorem Sound.remembers (sound : session.Sound) : session.Remembers := by
  by_cases loaded : session.envelope.loaded = true
  · exact (sound.attends loaded).remembers
  · exact (sound.survives (by simpa using loaded)).remembers

theorem Sound.respects (sound : session.Sound) : session.Respects := by
  by_cases loaded : session.envelope.loaded = true
  · exact (sound.attends loaded).respects
  · exact (sound.survives (by simpa using loaded)).respects

/-! ### Runs of events -/

/-- A daemon without holds, as it starts. -/
def offering (selected : String) : Daemon :=
  ⟨":1.7", selected, [], manualProfiles, 1⟩

/-- Balanced is to be selected at the warning level. -/
def warning : Battery :=
  ⟨true, false, 10, 20, 5, .balanced, .powerSaver⟩

def answered : Answers where
  keepLevel := .kept
  readOwner := .done true true
  readSelection := .done true true
  keepSelection := .kept
  readHold := .done true true
  releaseHold := .done
  readRestore := .done true true
  selectRestored := .done
  keepRestored := .kept
  readApply := .done true true
  keepBalanced := .kept
  selectBalanced := .done
  keepNothing := .kept
  takeHold := .done
  readApplied := .done true true

/-- A refused write of balanced that has taken effect is forgotten, and a
selection over a balanced profile that was there before is overwritten. -/
theorem refused_balanced_forgotten :
    (∃ session : Session, session = run step
        (initial (offering "performance"))
        [.attach true, .reconcile warning
          { answered with selectBalanced := .failed true }] ∧
      session.daemon.active = "balanced" ∧
      session.change = some "performance" ∧
      session.disk.balancedRestoreProfile = none) ∧
    ∃ session : Session, session = run step (initial (offering "balanced"))
        [.attach true, .reconcile warning answered, .external "performance",
          .reconcile warning answered] ∧
      session.daemon.active = "balanced" ∧
      session.overwritten = [("performance", "balanced")] :=
  ⟨⟨_, rfl, by decide +kernel⟩, ⟨_, rfl, by decide +kernel⟩⟩

theorem sure_answered {session : Session}
    (offered : session.change = none) : session.Sure answered where
  selection := nofun
  restore := nofun
  offered := by simp [offered]
  honest := nofun

/-- In every state that is reached, the disk knows the profile before the
automation's change to balanced, and no selection of others has been
overwritten. -/
theorem selections_respected (daemon : Daemon) (events : List Event)
    (orderly : StepsMeet step Orderly (initial daemon) events) :
    (∀ before, (run step (initial daemon) events).change = some before →
      (run step (initial daemon) events).disk.balancedRestoreProfile =
        some before) ∧
      (run step (initial daemon) events).overwritten = [] := by
  have sound : (run step (initial daemon) events).Sound :=
    invariant_run (fun _ _ sound orderly => sound.step orderly)
      (sound_initial daemon) orderly
  exact ⟨sound.remembers.disk, sound.respects.clean⟩

/-- Others select the saver over balanced, and the automation is paused. -/
theorem selections_respected_paused :
    StepsMeet step Orderly (initial (offering "performance"))
        [.attach true, .reconcile warning answered, .external "power-saver",
          .reconcile warning answered] ∧
      (run step (initial (offering "performance"))
        [.attach true, .reconcile warning answered, .external "power-saver",
          .reconcile warning answered]).overwritten = [] := by
  have orderly : StepsMeet step Orderly (initial (offering "performance"))
      [.attach true, .reconcile warning answered, .external "power-saver",
        .reconcile warning answered] := by
    refine ⟨nofun, ?_, ?_, ?_, trivial⟩
    · exact fun _ => ⟨by decide +kernel, sure_answered rfl, nofun⟩
    · rw [Orderly, Noticeable, if_pos (by decide +kernel)]
      refine fun _ => .inl ⟨by decide +kernel, ?_⟩
      rw [if_neg (by decide)]
      exact .inr (by decide +kernel)
    · exact fun _ => ⟨by decide +kernel, sure_answered (by decide +kernel),
        nofun⟩
  exact ⟨orderly, (selections_respected _ _ orderly).2⟩

end Session

end BarDaemon.PowerProfiles
