import BarDaemon.DisplayRuns

/-!
# What the parts of the display service leave alone

Reading and applying change neither the document nor what is remembered, and
only the docking decision touches the planner.
-/

namespace BarDaemon.Displays

open Attempt

namespace Session

/-- Only the outputs have changed, and the new events are of one kind. -/
structure Follows (kind : Event → Prop) (session after : Session) : Prop where
  disk : after.disk = session.disk
  preferExternal : after.preferExternal = session.preferExternal
  runtime : after.runtime = session.runtime
  planner : after.planner = session.planner
  lastResume : after.lastResume = session.lastResume
  armed : after.armed = session.armed
  calls : session.calls ≤ after.calls
  trace : ∃ events, after.trace = session.trace ++ events ∧
    ∀ event ∈ events, kind event

/-- The planner has not been touched, and no event is its doing. -/
structure Aside (session after : Session) : Prop where
  planner : after.planner = session.planner
  trace : ∃ events, after.trace = session.trace ++ events ∧
    ∀ event ∈ events,
      (∀ outputs now, event ≠ .planned outputs now) ∧
        ∀ target, event ≠ .docked target true

variable {kind : Event → Prop}

instance : Std.Refl (Follows kind) where
  refl _ := ⟨rfl, rfl, rfl, rfl, rfl, rfl, le_rfl, [], by simp⟩

instance : IsTrans Session (Follows kind) where
  trans first second third before after := by
    obtain ⟨earlier, early, ofKind⟩ := before.trace
    obtain ⟨later, late, alsoOfKind⟩ := after.trace
    refine ⟨after.disk.trans before.disk,
      after.preferExternal.trans before.preferExternal,
      after.runtime.trans before.runtime, after.planner.trans before.planner,
      after.lastResume.trans before.lastResume,
      after.armed.trans before.armed, before.calls.trans after.calls,
      earlier ++ later, by simp [late, early], ?_⟩
    intro event member
    rcases List.mem_append.mp member with inEarlier | inLater
    · exact ofKind event inEarlier
    · exact alsoOfKind event inLater

instance : Std.Refl Aside where
  refl _ := ⟨rfl, [], by simp⟩

instance : IsTrans Session Aside where
  trans first second third before after := by
    obtain ⟨earlier, early, aside⟩ := before.trace
    obtain ⟨later, late, alsoAside⟩ := after.trace
    refine ⟨after.planner.trans before.planner, earlier ++ later,
      by simp [late, early], ?_⟩
    intro event member
    rcases List.mem_append.mp member with inEarlier | inLater
    · exact aside event inEarlier
    · exact alsoAside event inLater

theorem Follows.mono {other : Event → Prop} {session after : Session}
    (follows : Follows kind session after)
    (wider : ∀ event, kind event → other event) :
    Follows other session after := by
  obtain ⟨events, trace, ofKind⟩ := follows.trace
  exact { follows with
    trace := ⟨events, trace, fun event member =>
      wider event (ofKind event member)⟩ }

/-- Nothing but a reply about the outputs. -/
def Listing (event : Event) : Prop :=
  ∃ outputs, event = .listed outputs

/-- A reply about the outputs, or a command for the given purpose. -/
def Applying (purpose : Purpose) (event : Event) : Prop :=
  Listing event ∨ ∃ setting, event = .configured purpose setting

theorem Follows.aside {purpose : Purpose} {session after : Session}
    (follows : Follows (Applying purpose) session after) :
    Aside session after := by
  obtain ⟨events, trace, ofKind⟩ := follows.trace
  refine ⟨follows.planner, events, trace, ?_⟩
  intro event member
  rcases ofKind event member with ⟨outputs, rfl⟩ | ⟨setting, rfl⟩
  · exact ⟨nofun, nofun⟩
  · exact ⟨nofun, nofun⟩

end Session

namespace Service

open Session

variable {world : Surroundings} {kind : Event → Prop}

/-- A call respects a relation that hotplug and the effect respect. -/
theorem within_perform {relation : Session → Session → Prop}
    [IsTrans Session relation] {refusal : String}
    {effect : Nat → Session → Session}
    (served : ∀ session, relation session (session.served world))
    (effected : ∀ index session, relation session (effect index session)) :
    Within relation (perform world refusal effect) := by
  intro session
  have whole : relation session
      (effect session.calls (session.served world)) :=
    trans_of relation (served session) (effected _ _)
  unfold perform
  cases world.fate session.calls with
  | answered => exact whole
  | failed effective | abandoned effective | crashed effective =>
      cases effective with
      | true => exact whole
      | false => exact served session

theorem within_reading {Value : Type} {relation : Session → Session → Prop}
    {value : Nat → Value}
    (called : ∀ session : Session,
      relation session { session with calls := session.calls + 1 }) :
    Within relation (reading value) :=
  called

theorem follows_served (session : Session) :
    Follows kind session (session.served world) :=
  ⟨rfl, rfl, rfl, rfl, rfl, rfl, Nat.le_succ _, [], by simp [served]⟩

theorem follows_called (session : Session) :
    Follows kind session { session with calls := session.calls + 1 } :=
  ⟨rfl, rfl, rfl, rfl, rfl, rfl, Nat.le_succ _, [], by simp⟩

theorem within_eligible : Within (Follows kind) (eligible world) :=
  within_perform follows_served fun _ session => refl_of (Follows kind) session

theorem within_load : Within (Follows kind) (load world) :=
  (within_perform follows_served
    fun _ session => refl_of (Follows kind) session).bind fun _ =>
      within_read.bind fun _ => within_pure _

theorem within_loadPolicy : Within (Follows kind) (loadPolicy world) :=
  (within_perform follows_served
    fun _ session => refl_of (Follows kind) session).bind fun _ =>
      within_read.bind fun _ => within_pure _

theorem within_sleepState : Within (Follows kind) (sleepState world) :=
  within_reading follows_called

theorem within_sleepInterrupted (generation : Nat) :
    Within (Follows kind) (sleepInterrupted world generation) :=
  within_sleepState.bind fun _ => within_pure _

theorem within_now : Within (Follows kind) (now world) :=
  within_reading follows_called

theorem within_instant : Within (Follows kind) (instant world) :=
  within_reading follows_called

theorem within_ensureDockingSettled :
    Within (Follows kind) (ensureDockingSettled world) :=
  (within_reading follows_called).bind fun _ => within_ensure _ _

/-- An answered request for the outputs. -/
theorem outputs_eq_ok {session after : Session} {current : List Output}
    (result : outputs world session = (.ok current, after)) :
    world.fate session.calls = .answered ∧
      current = (session.served world).topology ∧
      after = (session.served world).traced (.listed current) := by
  obtain ⟨done, middle, performed, rest⟩ := bind_eq_ok_iff.mp result
  unfold perform at performed
  cases fate : world.fate session.calls with
  | answered =>
      simp only [fate, Prod.mk.injEq, true_and] at performed
      obtain ⟨read, final, isRead, returned⟩ := bind_eq_ok_iff.mp rest
      cases isRead
      cases returned
      subst performed
      exact ⟨rfl, rfl, rfl⟩
  | failed effective | abandoned effective | crashed effective =>
      simp [fate] at performed

/-- An answered request for the document. -/
theorem load_eq_ok {session after : Session} {document : Document}
    (result : load world session = (.ok document, after)) :
    world.fate session.calls = .answered ∧ document = session.disk ∧
      after = session.served world := by
  obtain ⟨done, middle, performed, rest⟩ := bind_eq_ok_iff.mp result
  unfold perform at performed
  cases fate : world.fate session.calls with
  | answered =>
      simp only [fate, Prod.mk.injEq, true_and] at performed
      obtain ⟨read, final, isRead, returned⟩ := bind_eq_ok_iff.mp rest
      cases isRead
      cases returned
      subst performed
      exact ⟨rfl, rfl, rfl⟩
  | failed effective | abandoned effective | crashed effective =>
      simp [fate] at performed

theorem within_outputs (listed : ∀ outputs, kind (.listed outputs)) :
    Within (Follows kind) (outputs world) := by
  refine Within.bind (within_perform follows_served ?_) fun _ =>
    within_read.bind fun _ => within_pure _
  intro index session
  refine ⟨rfl, rfl, rfl, rfl, rfl, rfl, le_rfl, [.listed session.topology],
    rfl, ?_⟩
  simpa using listed _

variable [Decimals]

theorem within_configure {purpose : Purpose}
    (configured : ∀ setting, kind (.configured purpose setting))
    (setting : Setting) :
    Within (Follows kind) (configure world purpose setting) := by
  refine Within.bind (within_lift _ _) fun _ =>
    within_perform follows_served ?_
  intro index session
  refine ⟨rfl, rfl, rfl, rfl, rfl, rfl, le_rfl, [.configured purpose setting],
    rfl, ?_⟩
  simpa using configured setting

section Apply

variable {purpose : Purpose}

theorem within_applySetting (generation : Nat) (setting : Setting) :
    Within (Follows (Applying purpose))
      (applySetting world purpose generation setting) := by
  refine within_eligible.bind fun _ =>
    (within_sleepInterrupted generation).bind fun interrupted =>
      (within_ensure _ _).bind fun _ =>
        (within_outputs fun outputs => .inl ⟨outputs, rfl⟩).bind
          fun outputs => ?_
  cases outputs.find? fun output => output.name == setting.name with
  | none => exact within_pure ()
  | some output =>
      exact Within.ite (within_pure ()) ((within_lift _ _).bind fun _ =>
        within_configure (fun setting => .inr ⟨setting, rfl⟩) setting)

theorem within_detach (generation : Nat) (layout : Layout)
    (current : List Output) (output : Output) :
    Within (Follows (Applying purpose))
      (detach world purpose generation layout current output) :=
  Within.ite (within_applySetting generation _) (within_pure ())

theorem within_apply (layout : Layout) :
    Within (Follows (Applying purpose)) (apply world purpose layout) :=
  within_sleepState.bind fun _ =>
    (within_outputs fun outputs => .inl ⟨outputs, rfl⟩).bind fun current =>
      (within_forEach (within_detach _ layout current) _).bind fun _ =>
        within_forEach (within_applySetting _) _

end Apply

/-! ### Everything but docking -/

omit [Decimals] in
theorem Follows.within_aside {Value : Type} {service : Service Value}
    (within : Within (Follows Listing) service) : Within Aside service :=
  within.mono fun _ _ follows => (follows.mono fun _ listing =>
    show Applying (.rollback ⟨"", 0, ⟨[]⟩, ⟨[]⟩⟩) _ from .inl listing).aside

theorem aside_apply (purpose : Purpose) (layout : Layout) :
    Within Aside (apply world purpose layout) :=
  (within_apply layout).mono fun _ _ follows => follows.aside

omit [Decimals] in
theorem aside_outputs : Within Aside (outputs world) :=
  Follows.within_aside (within_outputs fun outputs => ⟨outputs, rfl⟩)

theorem aside_configure (purpose : Purpose) (setting : Setting) :
    Within Aside (configure world purpose setting) :=
  (within_configure (fun setting => .inr ⟨setting, rfl⟩) setting).mono
    fun _ _ follows =>
      (show Follows (Applying purpose) _ _ from follows).aside

omit [Decimals] in
/-- What is remembered may change. -/
theorem aside_remember {update : Session → Session}
    (planner : ∀ session, (update session).planner = session.planner)
    (trace : ∀ session, (update session).trace = session.trace) :
    Within Aside (Attempt.change update : Service Unit) :=
  within_change fun session => ⟨planner session, [], by simp [trace]⟩

omit [Decimals] in
theorem aside_save (document : Document) :
    Within Aside (save world document) := by
  intro session
  have served : Aside session (session.served world) :=
    ⟨rfl, [], by simp [Session.served]⟩
  have wrote : Aside session ((session.served world).wrote document) :=
    ⟨rfl, [.saved document], rfl, by simp⟩
  unfold save
  cases world.writing session.calls with
  | written => exact wrote
  | failed | abandoned => exact served
  | crashed written =>
      cases written with
      | true => exact wrote
      | false => exact served

omit [Decimals] in
theorem aside_arm (trial : Trial) (outputs : List Output) :
    Within Aside (arm world trial outputs) := by
  refine (Follows.within_aside within_instant).bind fun _ =>
    (Follows.within_aside within_sleepState).bind fun _ => aside_remember ?_ ?_
  · exact fun _ => rfl
  · exact fun _ => rfl

theorem aside_rollback (trial : Trial) :
    Within Aside (rollback world trial) :=
  aside_outputs.bind fun _ => aside_apply _ _

theorem within_draft (baseline : String) (settings : List Setting) :
    Within (Follows Listing) (draft world baseline settings) :=
  within_eligible.bind fun _ => within_ensureDockingSettled.bind fun _ =>
    within_sleepState.bind fun _ => (within_ensure _ _).bind fun _ =>
    within_load.bind fun _ => (within_ensure _ _).bind fun _ =>
    (within_outputs fun outputs => ⟨outputs, rfl⟩).bind fun _ =>
    (within_reading follows_called).bind fun _ =>
    (within_ensure _ _).bind fun _ => (within_lift _ _).bind fun _ =>
    (within_lift _ _).bind fun _ => (within_lift _ _).bind fun _ =>
    (within_reading follows_called).bind fun _ =>
    (within_ensure _ _).bind fun _ => within_now.bind fun _ => within_pure _

theorem aside_attempt (trial : Trial) :
    Within Aside (attempt world trial) := by
  refine (aside_apply _ _).catching.bind fun applied => ?_
  cases applied with
  | ok done => exact within_pure _
  | error text =>
      refine (aside_remember ?_ ?_).bind fun _ => within_fail _
      · exact fun _ => rfl
      · exact fun _ => rfl

theorem aside_preview (baseline : String) (settings : List Setting) :
    Within Aside (preview world baseline settings) :=
  (Follows.within_aside (within_draft _ _)).bind fun _ =>
    (aside_save _).bind fun _ => (aside_arm _ _).bind fun _ =>
    (aside_attempt _).bind fun _ => within_pure _

theorem aside_confirmed (document : Document) (trial : Trial) :
    Within Aside (confirmed world document trial) :=
  within_read.bind fun _ => (Follows.within_aside within_now).bind fun _ =>
    (Follows.within_aside within_instant).bind fun _ =>
    (within_ensure _ _).bind fun _ =>
    (Follows.within_aside (within_sleepInterrupted _)).bind fun _ =>
    (within_ensure _ _).bind fun _ => aside_outputs.bind fun _ =>
    (within_ensure _ _).bind fun _ => (within_lift _ _).bind fun _ =>
    (within_ensure _ _).bind fun _ => within_pure _

theorem aside_conclude (document : Document) (trial : Trial)
    (confirm : Bool) :
    Within Aside (conclude world document trial confirm) :=
  Within.ite (aside_confirmed document trial)
    ((aside_rollback trial).bind fun _ => within_pure _)

theorem aside_finish (id : String) (confirm : Bool) :
    Within Aside (finish world id confirm) := by
  refine (Follows.within_aside within_load).bind fun document => ?_
  cases document.trial with
  | none => exact within_fail _
  | some trial =>
      refine (within_ensure _ _).bind fun _ =>
        (Follows.within_aside within_eligible).bind fun _ =>
        (aside_conclude document trial confirm).bind fun finished =>
        (aside_save _).bind fun _ =>
        (aside_remember ?_ ?_).bind fun _ => within_pure _
      · exact fun _ => rfl
      · exact fun _ => rfl

theorem aside_replay (document : Document) (outputs : List Output) :
    Within Aside (replay world document outputs) := by
  refine (aside_remember ?_ ?_).bind fun _ =>
    Within.ite (Within.bind
      (((within_lift _ _).bind fun _ => aside_apply _ _).catching) fun _ =>
        aside_remember ?_ ?_) (within_pure ())
  all_goals exact fun _ => rfl

omit [Decimals] in
theorem aside_verdict : Within Aside verdict := by
  refine within_read.bind fun session => ?_
  cases session.runtime.error with
  | none => exact within_pure _
  | some error => exact within_fail _

theorem aside_tickAt (seconds instant : Nat) :
    Within Aside (tickAt world seconds instant) := by
  refine (Follows.within_aside within_load).bind fun document =>
    (Follows.within_aside within_sleepState).bind fun sleep =>
      Within.ite ((aside_remember ?_ ?_).bind fun _ => within_pure _) ?_
  · exact fun _ => rfl
  · exact fun _ => rfl
  cases document.trial with
  | some trial =>
      have goesOn : Within Aside
          (standing world trial sleep.2 seconds instant) :=
        within_read.bind fun _ => Within.ite
          (aside_outputs.bind fun _ => within_pure _) (within_pure _)
      refine goesOn.bind fun _ => Within.ite (within_pure _)
        ((aside_rollback trial).bind fun _ => (aside_save _).bind fun _ =>
          (aside_remember ?_ ?_).bind fun _ => within_pure _)
      · exact fun _ => rfl
      · exact fun _ => rfl
  | none =>
      refine aside_outputs.bind fun outputs => Within.bind
        (aside_remember ?_ ?_) fun _ => Within.bind ?_ fun _ => within_pure _
      · intro session
        split <;> rfl
      · intro session
        split <;> rfl
      · exact within_read.bind fun _ => Within.ite
          (Within.ite (within_pure _) ((aside_replay _ _).bind
            fun _ => aside_verdict)) aside_verdict

theorem aside_tick : Within Aside (tick world) :=
  (Follows.within_aside within_now).bind fun _ =>
    (Follows.within_aside within_instant).bind fun _ => aside_tickAt _ _

omit [Decimals] in
theorem aside_setPolicy (preferExternal : Bool) :
    Within Aside (setPolicy world preferExternal) := by
  refine (Follows.within_aside within_ensureDockingSettled).bind fun _ =>
    (Follows.within_aside within_load).bind fun _ =>
    (within_ensure _ _).bind fun _ => Within.bind (within_perform ?_ ?_)
      fun _ => (Follows.within_aside within_load).bind fun _ =>
        Within.ite (aside_save _) (within_pure ())
  · exact fun session => ⟨rfl, [], by simp [Session.served]⟩
  · exact fun index session => ⟨rfl, [], by simp⟩

end Service

end BarDaemon.Displays
