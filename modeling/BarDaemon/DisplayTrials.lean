import BarDaemon.DisplayEffects
import BarDaemon.Traces
import BarDaemon.TransitionRuns

/-!
# Trials are durable before they are tried

A trial is on disk, with the layout to go back to, before any command of its
layout is sent.  It leaves the disk by a timely confirmation of what was
previewed, or after the previous layout has been put back.
-/

namespace BarDaemon.Displays

open Attempt Traces TransitionRuns

variable [Decimals]

/-- Every command of a proposed layout comes after a saved document with its
trial, whose previous layout was observed. -/
def Announced (trace : List Event) : Prop :=
  Each (fun before event => ∀ trial setting,
    event = .configured (.trial trial) setting →
      ∃ document outputs, .saved document ∈ before ∧
        document.trial = some trial ∧ .listed outputs ∈ before ∧
        trial.previous = Layout.observed outputs) trace

theorem Announced.append {trace events : List Event}
    (announced : Announced trace)
    (quiet : ∀ event ∈ events, ∀ trial setting,
      event ≠ .configured (.trial trial) setting) :
    Announced (trace ++ events) :=
  Each.append announced fun event member _ _ trial setting same =>
    absurd same (quiet event member trial setting)

namespace Session

/-- A trial that is remembered is the one on disk, and what is remembered of
it is what its preview saw. -/
def Remembers (session : Session) : Prop :=
  ∀ id, session.runtime.trial = some id →
    ∃ armed ∈ session.armed, session.disk.trial = some armed.trial ∧
      armed.trial.id = id ∧
      session.runtime.deadline = some armed.deadline ∧
      session.runtime.topology = Displays.topology armed.outputs ∧
      session.runtime.resume = armed.resume

/-- The invariant of trials. -/
structure Sound (session : Session) : Prop where
  announced : Announced session.trace
  remembers : session.Remembers

/-- A reply about the outputs between two states. -/
def Listed (start after : Session) (outputs : List Output) : Prop :=
  ∃ earlier, start.trace <+: earlier ∧
    earlier ++ [.listed outputs] <+: after.trace

/-- A call between two states whose number has a property. -/
def Called (start after : Session) (property : Nat → Prop) : Prop :=
  ∃ index, start.calls ≤ index ∧ index < after.calls ∧ property index

variable (world : Surroundings)

/-- Between two states the clocks were before the deadlines, nothing had
slept, and the outputs were those of the preview and showed the proposal. -/
structure Verified (start after : Session) (trial : Trial)
    (deadline resume : Nat) (hardware : List (String × Int)) : Prop where
  wall : Called start after fun index =>
    (world.clock index).getD 0 / 1000000000 < trial.expiresAt
  monotonic : Called start after fun index => world.instant index < deadline
  awake : Called start after fun index => world.sleep index = (false, resume)
  observed : ∃ outputs, Listed start after outputs ∧
    Displays.topology outputs = hardware ∧
    ∀ setting ∈ trial.proposed.outputs, ∃ output,
      outputs.find? (fun output => output.name == setting.name) =
          some output ∧
        setting.matchesOutput output outputs = true

/-- A confirmation of the pending trial that compared everything with what the
preview saw. -/
structure Confirmation (start : Session) (request : Request)
    (after : Session) (trial : Trial) : Prop where
  request : request = .finish trial.id true
  pending : start.disk.trial = some trial
  verified : ∃ armed ∈ start.armed, armed.trial = trial ∧
    Verified world start after trial armed.deadline armed.resume
      (Displays.topology armed.outputs)

/-- Between two states the previous layout, as far as its outputs were
connected, was applied without an error. -/
def RolledBack (start after : Session) (trial : Trial) : Prop :=
  ∃ outputs started finished, Listed start started outputs ∧
    Service.apply world (.rollback trial)
        (trial.previous.connected outputs) started = (.ok (), finished) ∧
    finished.trace <+: after.trace

/-- What a request may do to the document. -/
structure Progress (start : Session) (request : Request)
    (after : Session) : Prop where
  sound : after.Sound
  calls : start.calls ≤ after.calls
  trace : start.trace <+: after.trace
  saved : after.disk.saved = start.disk.saved ∨ ∃ trial,
    Confirmation world start request after trial ∧
      after.disk.saved = trial.proposed
  trial : ∀ trial, start.disk.trial = some trial →
    after.disk.trial = some trial ∨
      Confirmation world start request after trial ∨
      RolledBack world start after trial

variable {world}

/-! ### Evidence stays evidence -/

section Later

variable {start after later : Session} (calls : after.calls ≤ later.calls)
  (trace : after.trace <+: later.trace)

include trace in
omit [Decimals] in
theorem Listed.mono {outputs : List Output}
    (listed : Listed start after outputs) : Listed start later outputs := by
  obtain ⟨earlier, early, prior⟩ := listed
  exact ⟨earlier, early, prior.trans trace⟩

include calls in
omit [Decimals] in
theorem Called.mono {property : Nat → Prop}
    (called : Called start after property) :
    Called start later property := by
  obtain ⟨index, low, high, holds⟩ := called
  exact ⟨index, low, by omega, holds⟩

include calls trace

theorem Verified.mono {trial : Trial} {deadline resume : Nat}
    {hardware : List (String × Int)}
    (verified : Verified world start after trial deadline resume hardware) :
    Verified world start later trial deadline resume hardware := by
  obtain ⟨outputs, listed, same, shown⟩ := verified.observed
  exact ⟨verified.wall.mono calls, verified.monotonic.mono calls,
    verified.awake.mono calls, outputs, listed.mono trace, same, shown⟩

omit calls trace in
theorem Verified.since {trial : Trial} {deadline resume : Nat}
    {hardware : List (String × Int)} {earlier : Session}
    (verified : Verified world start after trial deadline resume hardware)
    (calls : earlier.calls ≤ start.calls)
    (trace : earlier.trace <+: start.trace) :
    Verified world earlier after trial deadline resume hardware := by
  have called : ∀ {property : Nat → Prop}, Called start after property →
      Called earlier after property :=
    fun ⟨index, low, high, holds⟩ => ⟨index, calls.trans low, high, holds⟩
  obtain ⟨outputs, ⟨before, early, listed⟩, same, shown⟩ := verified.observed
  exact ⟨called verified.wall, called verified.monotonic,
    called verified.awake, outputs, ⟨before, trace.trans early, listed⟩, same,
    shown⟩

theorem Confirmation.mono {request : Request} {trial : Trial}
    (confirmation : Confirmation world start request after trial) :
    Confirmation world start request later trial := by
  obtain ⟨armed, member, same, verified⟩ := confirmation.verified
  exact ⟨confirmation.request, confirmation.pending, armed, member, same,
    verified.mono calls trace⟩

omit calls in
theorem RolledBack.mono {trial : Trial}
    (back : RolledBack world start after trial) :
    RolledBack world start later trial := by
  obtain ⟨outputs, started, finished, listed, applied, prior⟩ := back
  exact ⟨outputs, started, finished, listed, applied, prior.trans trace⟩

omit calls trace in
theorem RolledBack.since {trial : Trial} {earlier : Session}
    (back : RolledBack world start after trial)
    (trace : earlier.trace <+: start.trace) :
    RolledBack world earlier after trial := by
  obtain ⟨outputs, started, finished, ⟨before, early, listed⟩, rest⟩ := back
  exact ⟨outputs, started, finished, ⟨before, trace.trans early, listed⟩,
    rest⟩

end Later

/-- Progress goes on over a change that leaves the document alone. -/
theorem Progress.mono {start after later : Session} {request : Request}
    (progress : Progress world start request after) (sound : later.Sound)
    (calls : after.calls ≤ later.calls) (trace : after.trace <+: later.trace)
    (disk : later.disk = after.disk) :
    Progress world start request later := by
  refine ⟨sound, progress.calls.trans calls, progress.trace.trans trace, ?_,
    ?_⟩
  · rw [disk]
    refine progress.saved.imp id ?_
    rintro ⟨trial, confirmation, same⟩
    exact ⟨trial, confirmation.mono calls trace, same⟩
  · intro trial pending
    rw [disk]
    exact (progress.trial trial pending).imp id (Or.imp
      (fun confirmation => confirmation.mono calls trace)
      fun back => back.mono trace)

theorem progress_refl {start : Session} (sound : start.Sound)
    (request : Request) : Progress world start request start :=
  ⟨sound, le_rfl, List.prefix_rfl, .inl rfl, fun _ pending => .inl pending⟩

omit [Decimals] in
/-- A memory without a trial is right about it. -/
theorem remembers_of_none {session : Session}
    (none : session.runtime.trial = none) : session.Remembers := by
  intro id some
  rw [none] at some
  cases some

theorem Sound.forgotten {session : Session} (sound : session.Sound)
    (idle : session.disk.trial = none) : session.runtime.trial = none := by
  cases remembered : session.runtime.trial with
  | none => rfl
  | some id =>
      obtain ⟨armed, -, onDisk, -⟩ := sound.remembers id remembered
      rw [idle] at onDisk
      cases onDisk

/-- Forgetting the trial is progress. -/
theorem Progress.forget {start after later : Session} {request : Request}
    (progress : Progress world start request after)
    (none : later.runtime.trial = none) (calls : later.calls = after.calls)
    (trace : later.trace = after.trace) (disk : later.disk = after.disk) :
    Progress world start request later :=
  progress.mono ⟨trace ▸ progress.sound.announced, remembers_of_none none⟩
    calls.ge (trace ▸ List.prefix_rfl) disk

/-! ### What leaves trials alone -/

/-- Neither the document nor what is remembered has changed, and no command of
a proposed layout has been sent. -/
structure Untouched (session after : Session) : Prop where
  disk : after.disk = session.disk
  runtime : after.runtime = session.runtime
  armed : after.armed = session.armed
  calls : session.calls ≤ after.calls
  trace : ∃ events, after.trace = session.trace ++ events ∧
    ∀ event ∈ events, ∀ trial setting,
      event ≠ .configured (.trial trial) setting

omit [Decimals] in
theorem Untouched.prefix {session after : Session}
    (untouched : Untouched session after) : session.trace <+: after.trace := by
  obtain ⟨events, trace, -⟩ := untouched.trace
  exact trace ▸ List.prefix_append _ _

omit [Decimals] in
instance : Std.Refl Untouched where
  refl _ := ⟨rfl, rfl, rfl, le_rfl, [], by simp⟩

omit [Decimals] in
instance : IsTrans Session Untouched where
  trans first second third before after := by
    obtain ⟨earlier, early, quiet⟩ := before.trace
    obtain ⟨later, late, alsoQuiet⟩ := after.trace
    refine ⟨after.disk.trans before.disk, after.runtime.trans before.runtime,
      after.armed.trans before.armed, before.calls.trans after.calls,
      earlier ++ later, by simp [late, early], ?_⟩
    intro event member
    rcases List.mem_append.mp member with inEarlier | inLater
    · exact quiet event inEarlier
    · exact alsoQuiet event inLater

omit [Decimals] in
theorem Follows.untouched {purpose : Purpose} {session after : Session}
    (follows : Follows (Applying purpose) session after)
    (other : ∀ trial, purpose ≠ .trial trial) : Untouched session after := by
  obtain ⟨events, trace, ofKind⟩ := follows.trace
  refine ⟨follows.disk, follows.runtime, follows.armed, follows.calls, events,
    trace, ?_⟩
  intro event member trial setting same
  rcases ofKind event member with ⟨outputs, listed⟩ | ⟨other', configured⟩
  · rw [same] at listed
    cases listed
  · rw [same] at configured
    cases configured
    exact other trial rfl

theorem Sound.untouched {session after : Session} (sound : session.Sound)
    (untouched : Untouched session after) : after.Sound := by
  obtain ⟨events, trace, quiet⟩ := untouched.trace
  refine ⟨trace ▸ sound.announced.append quiet, ?_⟩
  intro id remembered
  rw [untouched.runtime] at remembered
  rw [untouched.armed, untouched.disk, untouched.runtime]
  exact sound.remembers id remembered

theorem Progress.untouched {start after later : Session} {request : Request}
    (progress : Progress world start request after)
    (untouched : Untouched after later) :
    Progress world start request later :=
  progress.mono (progress.sound.untouched untouched) untouched.calls
    untouched.prefix untouched.disk

/-- Reading, saving nothing and remembering nothing is progress. -/
theorem Untouched.progress {start after : Session}
    (untouched : Untouched start after) (sound : start.Sound)
    (request : Request) : Progress world start request after :=
  (progress_refl sound request).untouched untouched

/-- A failure leaves a state, or a crash and a restart. -/
def Lands (property : Session → Prop) (failure : Failure)
    (session : Session) : Prop :=
  match failure with
  | .crashed => property session.restarted
  | _ => property session

theorem Progress.lands {start after : Session} {request : Request}
    (progress : Progress world start request after) (failure : Failure) :
    Lands (Progress world start request) failure after := by
  cases failure with
  | error text => exact progress
  | abandoned => exact progress
  | crashed => exact progress.forget rfl rfl rfl rfl

end Session

namespace Service

open Session

variable {world : Surroundings}

omit [Decimals] in
theorem Follows.within_untouched {Value : Type} {service : Service Value}
    (within : Within (Follows Listing) service) : Within Untouched service :=
  within.mono fun _ _ follows => (follows.mono fun _ listing =>
    show Applying (.rollback ⟨"", 0, ⟨[]⟩, ⟨[]⟩⟩) _ from
      .inl listing).untouched nofun

theorem untouched_apply {purpose : Purpose} (layout : Layout)
    (other : ∀ trial, purpose ≠ .trial trial) :
    Within Untouched (apply world purpose layout) :=
  (within_apply layout).mono fun _ _ follows => follows.untouched other

omit [Decimals] in
theorem untouched_outputs : Within Untouched (outputs world) :=
  Follows.within_untouched (within_outputs fun outputs => ⟨outputs, rfl⟩)

theorem untouched_rollback (trial : Trial) :
    Within Untouched (rollback world trial) :=
  untouched_outputs.bind fun _ => untouched_apply _ nofun

theorem untouched_confirmed (document : Document) (trial : Trial) :
    Within Untouched (confirmed world document trial) :=
  within_read.bind fun _ => (Follows.within_untouched within_now).bind fun _ =>
    (Follows.within_untouched within_instant).bind fun _ =>
    (within_ensure _ _).bind fun _ =>
    (Follows.within_untouched (within_sleepInterrupted _)).bind fun _ =>
    (within_ensure _ _).bind fun _ => untouched_outputs.bind fun _ =>
    (within_ensure _ _).bind fun _ => (within_lift _ _).bind fun _ =>
    (within_ensure _ _).bind fun _ => within_pure _

/-! ### Ending a trial -/

/-- A confirmation that passes has compared everything. -/
theorem confirmed_eq_ok {session after : Session}
    {document finished : Document} {trial : Trial}
    (result : confirmed world document trial session = (.ok finished, after)) :
    finished.saved = trial.proposed ∧ finished.trial = none ∧
      session.runtime.trial = some trial.id ∧
      ∃ deadline, session.runtime.deadline = some deadline ∧
        Verified world session after trial deadline session.runtime.resume
          session.runtime.topology := by
  obtain ⟨read, first, isRead, result⟩ := bind_eq_ok_iff.mp result
  cases isRead
  obtain ⟨seconds, second, isNow, result⟩ := bind_eq_ok_iff.mp result
  cases isNow
  obtain ⟨instant, third, isInstant, result⟩ := bind_eq_ok_iff.mp result
  cases isInstant
  obtain ⟨timely, result⟩ := ensure_bind_eq_ok_iff.mp result
  obtain ⟨interrupted, fourth, slept, result⟩ := bind_eq_ok_iff.mp result
  cases slept
  obtain ⟨awake, result⟩ := ensure_bind_eq_ok_iff.mp result
  obtain ⟨outputs, fifth, listed, result⟩ := bind_eq_ok_iff.mp result
  obtain ⟨-, -, rfl⟩ := outputs_eq_ok listed
  obtain ⟨hardware, result⟩ := ensure_bind_eq_ok_iff.mp result
  obtain ⟨_, -, result⟩ := lift_bind_eq_ok_iff.mp result
  obtain ⟨shown, result⟩ := ensure_bind_eq_ok_iff.mp result
  cases result
  simp only [Bool.and_eq_true, beq_iff_eq, decide_eq_true_eq] at timely
  obtain ⟨⟨remembered, wall⟩, monotonic⟩ := timely
  obtain ⟨deadline, isDeadline, before⟩ :=
    (Option.any_eq_true _ _).mp monotonic
  refine ⟨rfl, rfl, remembered, deadline, isDeadline, ?_, ?_, ?_, ?_⟩
  · exact ⟨session.calls,
      le_rfl, show session.calls < session.calls + 4 by omega, wall⟩
  · exact ⟨session.calls + 1, by omega,
      show session.calls + 1 < session.calls + 4 by omega,
      of_decide_eq_true before⟩
  · refine ⟨session.calls + 2, by omega,
      show session.calls + 2 < session.calls + 4 by omega, ?_⟩
    exact Prod.ext_iff.mpr (by simpa using awake)
  · refine ⟨outputs, ⟨session.trace, List.prefix_rfl, List.prefix_rfl⟩,
      by simpa using hardware, ?_⟩
    intro setting member
    exact (Option.any_eq_true _ _).mp
      (List.all_eq_true.mp shown setting member)

/-- A rollback that passes has applied the previous layout. -/
theorem rolledBack_of_ok {session after : Session} {trial : Trial}
    (result : rollback world trial session = (.ok (), after)) :
    RolledBack world session after trial := by
  obtain ⟨outputs, middle, listed, applied⟩ := bind_eq_ok_iff.mp result
  obtain ⟨-, -, rfl⟩ := outputs_eq_ok listed
  exact ⟨outputs, _, after, ⟨session.trace, List.prefix_rfl, List.prefix_rfl⟩,
    applied, List.prefix_rfl⟩

variable (world) in
/-- What a request knows when it is about to take the trial off the disk. -/
structure Concluded (start : Session) (request : Request) (trial : Trial)
    (finished : Document) (after : Session) : Prop where
  untouched : Untouched start after
  ended : finished.trial = none
  evidence : finished.saved = start.disk.saved ∧
      RolledBack world start after trial ∨
    finished.saved = trial.proposed ∧
      Confirmation world start request after trial

variable (world) in
/-- Where forgetting the trial would make the request's progress whole. -/
def Ending (start : Session) (request : Request)
    (session : Session) : Prop :=
  ∀ later : Session, later.runtime.trial = none →
    later.calls = session.calls → later.trace = session.trace →
    later.disk = session.disk → Progress world start request later

theorem Concluded.ending {start after : Session} {request : Request}
    {trial : Trial} {finished : Document}
    (concluded : Concluded world start request trial finished after)
    (sound : start.Sound) (pending : start.disk.trial = some trial) :
    Ending world start request ((after.served world).wrote finished) := by
  intro later forgotten calls trace disk
  have announced : Announced later.trace := by
    rw [trace]
    exact (sound.untouched concluded.untouched).announced.append (by simp)
  have callsLe : after.calls ≤ later.calls := by
    rw [calls]
    exact Nat.le_succ _
  have prior : after.trace <+: later.trace := by
    rw [trace]
    exact List.prefix_append _ _
  have untouched := concluded.untouched
  refine ⟨⟨announced, remembers_of_none forgotten⟩,
    untouched.calls.trans callsLe, untouched.prefix.trans prior, ?_, ?_⟩
  · rw [disk]
    rcases concluded.evidence with ⟨saved, -⟩ | ⟨saved, confirmation⟩
    · exact .inl saved
    · exact .inr ⟨trial, confirmation.mono callsLe prior, saved⟩
  · intro other otherPending
    rw [pending, Option.some.injEq] at otherPending
    subst otherPending
    rcases concluded.evidence with ⟨-, back⟩ | ⟨-, confirmation⟩
    · exact .inr (.inr (back.mono prior))
    · exact .inr (.inl (confirmation.mono callsLe prior))

/-- Taking the trial off the disk. -/
theorem meets_saveConcluded {start : Session} {request : Request}
    {trial : Trial} {finished : Document} (sound : start.Sound)
    (pending : start.disk.trial = some trial) :
    Meets (Concluded world start request trial finished)
      (save world finished) (fun _ => Ending world start request)
      (Lands (Progress world start request)) := by
  intro session concluded
  have ending := concluded.ending sound pending
  have progress : Progress world start request (session.served world) :=
    (concluded.untouched.progress sound request).untouched
      ⟨rfl, rfl, rfl, Nat.le_succ _, [], by simp [Session.served]⟩
  unfold save
  cases world.writing session.calls with
  | written => exact ending
  | failed => exact progress
  | abandoned => exact progress.lands .abandoned
  | crashed written =>
      cases written with
      | true => exact ending _ rfl rfl rfl rfl
      | false => exact progress.lands .crashed

theorem meets_untouched {Value : Type} {service : Service Value}
    (within : Within Untouched service) {start : Session}
    (sound : start.Sound) (request : Request) :
    Meets (Untouched start) service (fun _ => Untouched start)
      (Lands (Progress world start request)) := by
  have spec : Meets (Untouched start) service (fun _ => Untouched start)
      (fun _ => Untouched start) :=
    within.meets fun _ _ step since => trans_of Untouched since step
  exact spec.weaken (fun _ holds => holds) (fun _ _ holds => holds)
    fun failure _ since => (since.progress sound request).lands failure

theorem meets_rollback {start : Session} {trial : Trial}
    (sound : start.Sound) (request : Request) :
    Meets (Untouched start) (rollback world trial)
      (fun _ => Concluded world start request trial
        { start.disk with trial := none })
      (Lands (Progress world start request)) := by
  intro session since
  have step : Untouched session (rollback world trial session).2 :=
    untouched_rollback trial session
  rcases result : rollback world trial session with ⟨outcome, after⟩
  rw [result] at step
  have whole := trans_of Untouched since step
  cases outcome with
  | error failure => exact (whole.progress sound _).lands failure
  | ok done =>
      exact ⟨whole, rfl, .inl ⟨rfl, (rolledBack_of_ok result).since
        since.prefix⟩⟩

theorem meets_conclude {start : Session} {trial : Trial} (confirm : Bool)
    (sound : start.Sound) (pending : start.disk.trial = some trial) :
    Meets (Untouched start) (conclude world start.disk trial confirm)
      (fun finished => Concluded world start (.finish trial.id confirm) trial
        finished)
      (Lands (Progress world start (.finish trial.id confirm))) := by
  intro session since
  cases confirm with
  | true =>
      have step : Untouched session
          (confirmed world start.disk trial session).2 :=
        untouched_confirmed _ _ session
      rcases result : confirmed world start.disk trial session with
        ⟨outcome, after⟩
      simp only [conclude, if_true, result]
      rw [result] at step
      have whole := trans_of Untouched since step
      cases outcome with
      | error failure => exact (whole.progress sound _).lands failure
      | ok finished =>
          obtain ⟨saved, ended, remembered, deadline, isDeadline, verified⟩ :=
            confirmed_eq_ok result
          rw [since.runtime] at remembered isDeadline verified
          obtain ⟨armed, member, onDisk, -, armedDeadline, hardware, resume⟩ :=
            sound.remembers trial.id remembered
          rw [pending, Option.some.injEq] at onDisk
          rw [isDeadline, Option.some.injEq] at armedDeadline
          rw [armedDeadline, hardware, resume] at verified
          refine ⟨whole, ended, .inr ⟨saved, rfl, pending, armed, member,
            onDisk.symm, ?_⟩⟩
          exact verified.since since.calls since.prefix
  | false =>
      have back : Meets (Untouched start)
          (conclude world start.disk trial false)
          (fun finished => Concluded world start (.finish trial.id false) trial
            finished)
          (Lands (Progress world start (.finish trial.id false))) :=
        (meets_rollback sound _).bind fun _ => meets_pure fun _ holds => holds
      exact back session since

theorem meets_load {start : Session} (sound : start.Sound)
    (request : Request) :
    Meets (Untouched start) (load world)
      (fun document session => Untouched start session ∧
        document = start.disk)
      (Lands (Progress world start request)) := by
  intro session since
  have step : Untouched session (load world session).2 :=
    Follows.within_untouched within_load session
  rcases result : load world session with ⟨outcome, after⟩
  rw [result] at step
  have whole := trans_of Untouched since step
  cases outcome with
  | error failure => exact (whole.progress sound _).lands failure
  | ok document => exact ⟨whole, (load_eq_ok result).2.1.trans since.disk⟩

theorem meets_finish {start : Session} (id : String) (confirm : Bool)
    (sound : start.Sound) :
    Meets (Untouched start) (finish world id confirm)
      (fun _ => Progress world start (.finish id confirm))
      (Lands (Progress world start (.finish id confirm))) := by
  refine (meets_load sound _).bind fun document => ?_
  rintro session ⟨since, rfl⟩
  cases pending : start.disk.trial with
  | none => exact since.progress sound _
  | some trial =>
      have named : Meets (Untouched start)
          (Service.ensure (trial.id == id) "This layout preview is stale")
          (fun _ session => Untouched start session ∧ trial.id = id)
          (Lands (Progress world start (.finish id confirm))) :=
        meets_ensure
          (fun _ holds same => ⟨holds, by simpa using same⟩)
          fun _ holds _ => holds.progress sound _
      refine (named.bind fun _ => ?_) session since
      rintro session ⟨since, rfl⟩
      refine ((meets_untouched (Follows.within_untouched within_eligible)
        sound _).bind fun _ => (meets_conclude confirm sound pending).bind
          fun finished => (meets_saveConcluded sound pending).bind
            fun _ => ?_) session since
      refine Meets.bind (meets_change fun session ending => ?_) fun _ =>
        meets_pure fun _ holds => holds
      exact ending _ rfl rfl rfl rfl

/-- What the checks of a preview establish. -/
theorem draft_eq_ok {session after : Session} {baseline : String}
    {settings : List Setting} {document : Document} {outputs : List Output}
    {trial : Trial}
    (result : draft world baseline settings session =
      (.ok (document, outputs, trial), after)) :
    document = session.disk ∧ document.trial = none ∧
      trial.previous = Layout.observed outputs ∧
      trial.proposed = ⟨settings⟩ ∧ .listed outputs ∈ after.trace ∧
      trial.proposed.validate outputs true = .ok () ∧
      trial.previous.validate outputs true = .ok () := by
  obtain ⟨_, first, eligible, result⟩ := bind_eq_ok_iff.mp result
  obtain ⟨_, second, settled, result⟩ := bind_eq_ok_iff.mp result
  obtain ⟨_, third, slept, result⟩ := bind_eq_ok_iff.mp result
  obtain ⟨-, result⟩ := ensure_bind_eq_ok_iff.mp result
  obtain ⟨loaded, fourth, isLoaded, result⟩ := bind_eq_ok_iff.mp result
  have asked : Follows Listing session first := within_eligible.ok eligible
  have waited : Follows Listing first second :=
    within_ensureDockingSettled.ok settled
  have woke : Follows Listing second third := within_sleepState.ok slept
  have disk : third.disk = session.disk :=
    woke.disk.trans (waited.disk.trans asked.disk)
  obtain ⟨-, rfl, -⟩ := load_eq_ok isLoaded
  obtain ⟨idle, result⟩ := ensure_bind_eq_ok_iff.mp result
  obtain ⟨seen, fifth, listed, result⟩ := bind_eq_ok_iff.mp result
  obtain ⟨-, -, rfl⟩ := outputs_eq_ok listed
  obtain ⟨policy, sixth, read, result⟩ := bind_eq_ok_iff.mp result
  cases read
  obtain ⟨-, result⟩ := ensure_bind_eq_ok_iff.mp result
  obtain ⟨_, proposed, result⟩ := lift_bind_eq_ok_iff.mp result
  obtain ⟨_, previous, result⟩ := lift_bind_eq_ok_iff.mp result
  obtain ⟨_, -, result⟩ := lift_bind_eq_ok_iff.mp result
  obtain ⟨clock, seventh, told, result⟩ := bind_eq_ok_iff.mp result
  cases told
  obtain ⟨-, result⟩ := ensure_bind_eq_ok_iff.mp result
  obtain ⟨seconds, eighth, isNow, result⟩ := bind_eq_ok_iff.mp result
  cases isNow
  cases result
  exact ⟨disk, by simpa using idle, rfl, rfl, by simp [Session.traced],
    proposed, previous⟩

variable (world) in
/-- Progress and a memory without a trial. -/
structure Idle (start : Session) (request : Request) (session : Session) :
    Prop where
  progress : Progress world start request session
  forgotten : session.runtime.trial = none

variable (world) in
/-- A trial that has just been saved, and how it came about. -/
structure Saved (start : Session) (request : Request) (outputs : List Output)
    (trial : Trial) (session : Session) : Prop where
  progress : Progress world start request session
  pending : session.disk.trial = some trial
  previous : trial.previous = Layout.observed outputs
  listed : .listed outputs ∈ session.trace
  saved : ∃ document, .saved document ∈ session.trace ∧
    document.trial = some trial

theorem meets_saveTrial {start : Session} {request : Request}
    {outputs : List Output} {trial : Trial} (sound : start.Sound)
    (idle : start.disk.trial = none)
    (previous : trial.previous = Layout.observed outputs) :
    Meets (fun session => Untouched start session ∧
        .listed outputs ∈ session.trace)
      (save world { start.disk with trial := some trial })
      (fun _ => Saved world start request outputs trial)
      (Lands (Progress world start request)) := by
  rintro session ⟨since, listed⟩
  have progress : Progress world start request session :=
    since.progress sound request
  have served : Progress world start request (session.served world) :=
    progress.untouched
      ⟨rfl, rfl, rfl, Nat.le_succ _, [], by simp [Session.served]⟩
  have announced : Announced (((session.served world).wrote
      { start.disk with trial := some trial }).trace) :=
    progress.sound.announced.append (by simp)
  have forgotten : session.runtime.trial = none := by
    rw [since.runtime]
    exact sound.forgotten idle
  have wrote : Progress world start request ((session.served world).wrote
      { start.disk with trial := some trial }) := by
    refine ⟨⟨announced, remembers_of_none forgotten⟩,
      progress.calls.trans (Nat.le_succ _),
      progress.trace.trans (List.prefix_append _ _), .inl rfl, ?_⟩
    intro other pending
    rw [idle] at pending
    cases pending
  unfold save
  cases world.writing session.calls with
  | written =>
      exact ⟨wrote, rfl, previous, List.mem_append_left _ listed,
        { start.disk with trial := some trial }, by
          simp [Session.wrote, Session.served], rfl⟩
  | failed => exact served
  | abandoned => exact served.lands .abandoned
  | crashed written =>
      cases written with
      | true => exact wrote.lands .crashed
      | false => exact served.lands .crashed

theorem meets_arm {start : Session} {request : Request}
    {outputs : List Output} {trial : Trial} :
    Meets (Saved world start request outputs trial)
      (arm world trial outputs)
      (fun _ => Saved world start request outputs trial)
      (Lands (Progress world start request)) := by
  intro session saved
  refine ⟨saved.progress.mono ⟨saved.progress.sound.announced, ?_⟩
    (Nat.le_succ_of_le (Nat.le_succ _)) List.prefix_rfl rfl, saved.pending,
    saved.previous, saved.listed, saved.saved⟩
  rintro id ⟨⟩
  exact ⟨_, List.mem_append_right _ (List.mem_singleton.mpr rfl),
    saved.pending, rfl, rfl, rfl, rfl⟩

theorem meets_attempt {start : Session} {request : Request}
    {outputs : List Output} {trial : Trial} :
    Meets (Saved world start request outputs trial)
      (attempt world trial) (fun _ => Progress world start request)
      (Lands (Progress world start request)) := by
  have applied : Meets (Saved world start request outputs trial)
      (apply world (.trial trial) trial.proposed)
      (fun _ => Progress world start request)
      (fun _ => Progress world start request) := by
    refine (within_apply trial.proposed).meets ?_
    intro session after follows saved
    obtain ⟨events, trace, ofKind⟩ := follows.trace
    refine saved.progress.mono ⟨?_, ?_⟩ follows.calls
      (trace ▸ List.prefix_append _ _) follows.disk
    · rw [trace]
      refine Each.append saved.progress.sound.announced ?_
      intro event member before prior other setting same
      have isTrial : other = trial := by
        rcases ofKind event member with ⟨seen, isListed⟩ | ⟨sent, isSent⟩
        · rw [same] at isListed
          cases isListed
        · rw [same] at isSent
          cases isSent
          rfl
      obtain ⟨document, durable, holds⟩ := saved.saved
      rw [isTrial]
      exact ⟨document, outputs, prior.subset durable, holds,
        prior.subset saved.listed, saved.previous⟩
    · intro id remembered
      rw [follows.runtime] at remembered
      rw [follows.armed, follows.disk, follows.runtime]
      exact saved.progress.sound.remembers id remembered
  have handled : Meets (Saved world start request outputs trial)
      (caught (apply world (.trial trial) trial.proposed))
      (fun _ => Progress world start request)
      (Lands (Progress world start request)) := by
    refine Meets.catching (applied.weaken (fun _ holds => holds)
      (fun _ _ holds => holds) ?_)
    intro failure session progress
    cases failure with
    | error text => exact progress
    | abandoned => exact progress
    | crashed => exact progress.lands .crashed
  refine handled.bind fun result => ?_
  cases result with
  | ok done => exact meets_pure fun _ holds => holds
  | error text =>
      refine Meets.bind (meets_change fun session progress => ?_)
        fun _ => meets_fail fun _ holds => holds
      exact progress.forget rfl rfl rfl rfl

theorem meets_preview {start : Session} (baseline : String)
    (settings : List Setting) (sound : start.Sound) :
    Meets (Untouched start) (preview world baseline settings)
      (fun _ => Progress world start (.preview baseline settings))
      (Lands (Progress world start (.preview baseline settings))) := by
  intro session since
  have step : Untouched session (draft world baseline settings session).2 :=
    Follows.within_untouched (within_draft baseline settings) session
  rcases result : draft world baseline settings session with ⟨outcome, after⟩
  rw [result] at step
  have whole := trans_of Untouched since step
  unfold preview
  rw [bind_apply, result]
  match outcome with
  | .error failure => exact (whole.progress sound _).lands failure
  | .ok (document, outputs, trial) =>
      obtain ⟨onDisk, idle, previous, -, listed, -, -⟩ := draft_eq_ok result
      rw [onDisk.trans since.disk] at idle
      have rest : Meets
          (fun later => Untouched start later ∧ .listed outputs ∈ later.trace)
          (do
            save world { document with trial := some trial }
            arm world trial outputs
            attempt world trial
            return { document with trial := some trial })
          (fun _ => Progress world start (.preview baseline settings))
          (Lands (Progress world start (.preview baseline settings))) := by
        rw [onDisk.trans since.disk]
        exact (meets_saveTrial sound idle previous).bind fun _ =>
          meets_arm.bind fun _ => meets_attempt.bind fun _ =>
            meets_pure fun _ holds => holds
      exact rest after ⟨whole, listed⟩

/-! ### The other requests -/

/-- Releasing a manual enablement keeps the layouts. -/
theorem meets_saveReleased {start : Session} (sound : start.Sound)
    (request : Request) :
    Meets (Untouched start)
      (save world { start.disk with manualEnablement := false })
      (fun _ => Progress world start request)
      (Lands (Progress world start request)) := by
  intro session since
  have progress : Progress world start request session :=
    since.progress sound request
  have served : Progress world start request (session.served world) :=
    progress.untouched
      ⟨rfl, rfl, rfl, Nat.le_succ _, [], by simp [Session.served]⟩
  have wrote : Progress world start request ((session.served world).wrote
      { start.disk with manualEnablement := false }) := by
    refine ⟨⟨progress.sound.announced.append (by simp), ?_⟩,
      progress.calls.trans (Nat.le_succ _),
      progress.trace.trans (List.prefix_append _ _), .inl rfl,
      fun _ pending => .inl pending⟩
    intro id remembered
    have kept := progress.sound.remembers id remembered
    rw [since.disk] at kept
    exact kept
  unfold save
  cases world.writing session.calls with
  | written => exact wrote
  | failed => exact served
  | abandoned => exact served.lands .abandoned
  | crashed written =>
      cases written with
      | true => exact wrote.lands .crashed
      | false => exact served.lands .crashed

theorem meets_setPolicy {start : Session} (preferExternal : Bool)
    (sound : start.Sound) :
    Meets (Untouched start) (setPolicy world preferExternal)
      (fun _ => Progress world start (.setPolicy preferExternal))
      (Lands (Progress world start (.setPolicy preferExternal))) := by
  have saves : Within Untouched (savePolicy world preferExternal) :=
    within_perform
      (fun _ => ⟨rfl, rfl, rfl, Nat.le_succ _, [], by simp [Session.served]⟩)
      fun _ _ => ⟨rfl, rfl, rfl, le_rfl, [], by simp⟩
  refine (meets_untouched (Follows.within_untouched
    within_ensureDockingSettled) sound _).bind fun _ =>
    (meets_untouched (Follows.within_untouched within_load) sound _).bind
      fun document => (meets_untouched (within_ensure _ _) sound _).bind
      fun _ => (meets_untouched saves sound _).bind fun _ =>
      (meets_load sound _).bind fun released => ?_
  rintro session ⟨since, rfl⟩
  refine meets_ite (fun _ => meets_saveReleased sound _)
    (fun _ => meets_pure ?_) session since
  exact fun _ holds => holds.progress sound _

theorem Idle.untouched {start session after : Session} {request : Request}
    (idle : Idle world start request session)
    (untouched : Untouched session after) : Idle world start request after :=
  ⟨idle.progress.untouched untouched, untouched.runtime ▸ idle.forgotten⟩

theorem meets_idle {Value : Type} {service : Service Value}
    (within : Within Untouched service) {start : Session}
    {request : Request} :
    Meets (Idle world start request) service
      (fun _ => Idle world start request)
      (Lands (Progress world start request)) := by
  have spec : Meets (Idle world start request) service
      (fun _ => Idle world start request)
      (fun _ => Idle world start request) :=
    within.meets fun _ _ step idle => idle.untouched step
  exact spec.weaken (fun _ holds => holds) (fun _ _ holds => holds)
    fun failure _ idle => idle.progress.lands failure

/-- Remembering anything but a trial. -/
theorem meets_idle_change {update : Session → Session} {start : Session}
    {request : Request}
    (same : ∀ session : Session,
      (update session).runtime.trial = session.runtime.trial ∧
        (update session).calls = session.calls ∧
        (update session).trace = session.trace ∧
        (update session).disk = session.disk) :
    Meets (Idle world start request) (Attempt.change update : Service Unit)
      (fun _ => Idle world start request)
      (Lands (Progress world start request)) := by
  refine meets_change fun session idle => ?_
  obtain ⟨trial, calls, trace, disk⟩ := same session
  have forgotten := trial.trans idle.forgotten
  exact ⟨idle.progress.forget forgotten calls trace disk, forgotten⟩

theorem meets_applySaved {start : Session} {request : Request}
    (document : Document) (outputs : List Output) (instant : Nat) :
    Meets (Idle world start request)
      (applySaved world document outputs instant)
      (fun _ => Idle world start request)
      (Lands (Progress world start request)) := by
  have told : Within Untouched verdict := by
    refine within_read.bind fun session => ?_
    cases session.runtime.error with
    | none => exact within_pure _
    | some error => exact within_fail _
  have replayed : Meets (Idle world start request)
      (replay world document outputs) (fun _ => Idle world start request)
      (Lands (Progress world start request)) := by
    have tried : Within Untouched (do
        checked ((document.restoration outputs).validate outputs false)
        apply world (.restore document) (document.restoration outputs)) :=
      (within_lift _ _).bind fun _ => untouched_apply _ nofun
    refine Meets.bind (meets_idle_change ?_) fun _ =>
      meets_ite (fun _ => (meets_idle tried.catching).bind
        fun result => meets_idle_change ?_)
        fun _ => meets_pure fun _ holds => holds
    · exact fun _ => ⟨rfl, rfl, rfl, rfl⟩
    · exact fun _ => ⟨rfl, rfl, rfl, rfl⟩
  exact (meets_idle within_read).bind fun _ => meets_ite
    (fun _ => meets_ite (fun _ => meets_pure fun _ holds => holds)
      fun _ => replayed.bind fun _ => meets_idle told)
    fun _ => meets_idle told

theorem meets_tickAt {start : Session} (seconds instant : Nat)
    (sound : start.Sound) :
    Meets (Untouched start) (tickAt world seconds instant)
      (fun _ => Progress world start .monitor)
      (Lands (Progress world start .monitor)) := by
  refine (meets_load sound _).bind fun document => ?_
  rintro session ⟨since, rfl⟩
  refine ((meets_untouched (Follows.within_untouched within_sleepState)
    sound _).bind fun sleep => meets_ite (fun _ => ?_) fun _ => ?_)
    session since
  · refine Meets.bind (meets_change fun session since => ?_)
      fun _ => meets_pure fun _ holds => holds
    exact (since.progress sound _).forget rfl rfl rfl rfl
  · cases pending : start.disk.trial with
    | some trial =>
        have goesOn : Within Untouched
            (standing world trial sleep.2 seconds instant) :=
          within_read.bind fun _ => Within.ite
            (untouched_outputs.bind fun _ => within_pure _) (within_pure _)
        refine (meets_untouched goesOn sound _).bind fun _ => meets_ite
          (fun _ => meets_pure fun _ holds => holds.progress sound _)
          fun _ => (meets_rollback sound _).bind fun _ =>
            (meets_saveConcluded sound pending).bind fun _ => ?_
        refine Meets.bind (meets_change fun session ending => ?_)
          fun _ => meets_pure fun _ holds => holds
        exact ending _ rfl rfl rfl rfl
    | none =>
        have idle : Meets (Untouched start) (outputs world)
            (fun _ => Idle world start .monitor)
            (Lands (Progress world start .monitor)) :=
          (meets_untouched untouched_outputs sound _).weaken
            (fun _ holds => holds)
            (fun _ _ holds => ⟨holds.progress sound _,
              holds.runtime ▸ sound.forgotten pending⟩)
            fun _ _ holds => holds
        refine idle.bind fun current => Meets.bind
          (meets_idle_change fun session => ?_) fun _ =>
            (meets_applySaved _ _ _).bind fun _ =>
              meets_pure fun _ holds => holds.progress
        split <;> exact ⟨rfl, rfl, rfl, rfl⟩

/-! ### Docking leaves trials alone -/

omit [Decimals] in
theorem untouched_event {session after : Session} {event : Event}
    (other : ∀ trial setting, event ≠ .configured (.trial trial) setting)
    (disk : after.disk = session.disk)
    (runtime : after.runtime = session.runtime)
    (armed : after.armed = session.armed)
    (calls : after.calls = session.calls)
    (trace : after.trace = session.trace ++ [event]) :
    Untouched session after :=
  ⟨disk, runtime, armed, calls.ge, [event], trace, by simpa using other⟩

omit [Decimals] in
theorem untouched_sendDocking (target : Output) (disable : Bool) :
    Within Untouched (sendDocking world target disable) := by
  refine (within_lift _ _).bind fun _ => within_perform
    (fun _ => ⟨rfl, rfl, rfl, Nat.le_succ _, [], by simp [Session.served]⟩)
    fun _ _ => untouched_event ?_ rfl rfl rfl rfl rfl
  intro trial setting same
  cases same

theorem untouched_dock (target : Output) (disable : Bool) :
    Within Untouched (dock world target disable) := by
  refine Within.ite (untouched_sendDocking _ _) (Within.bind ?_ fun _ =>
    Within.ite (within_pure _) (untouched_sendDocking _ _))
  refine Within.bind (Within.catching ((Follows.within_untouched
    within_load).bind fun _ => within_pure _)) fun restored => ?_
  match restored with
  | .error text => exact within_pure _
  | .ok none => exact within_pure _
  | .ok (some setting) =>
      have sent : Within Untouched
          (configure world (.fallback target) setting) :=
        (within_configure (fun setting => .inr ⟨setting, rfl⟩) setting).mono
          fun _ _ follows => (show Follows (Applying (.fallback target)) _ _
            from follows).untouched nofun
      exact sent.catching.bind fun _ => within_pure _

theorem untouched_dockTarget (plan : Plan) (generation : Nat)
    (target : Output) :
    Within Untouched (dockTarget world plan generation target) := by
  have rest : Within Untouched (do
      uninterrupted world generation
      dock world target plan.disableInternal) :=
    ((Follows.within_untouched (within_sleepInterrupted _)).bind
      fun _ => within_ensure _ _).bind fun _ => untouched_dock _ _
  exact Within.ite (((Follows.within_untouched within_eligible).bind fun _ =>
    untouched_outputs.bind fun _ => within_lift _ _).bind fun _ => rest) rest

theorem untouched_reconcile (preferExternal preserveEnablement : Bool)
    (now : Nat) :
    Within Untouched
      (reconcile world preferExternal preserveEnablement now) := by
  have reset : Within Untouched (resetPlanner : Service Unit) :=
    within_change fun _ => ⟨rfl, rfl, rfl, le_rfl, [], by simp⟩
  have planned : ∀ outputs, Within Untouched
      (planning preferExternal outputs now) := by
    refine fun _ _ => untouched_event ?_ rfl rfl rfl rfl rfl
    exact nofun
  exact (Follows.within_untouched within_sleepState).bind fun sleep =>
    Within.ite (reset.bind fun _ => within_pure _)
      ((Follows.within_untouched within_eligible).bind fun _ =>
        untouched_outputs.bind fun current =>
          Within.ite (reset.bind fun _ => within_pure _)
            ((planned current).bind fun plan =>
              (within_forEach (untouched_dockTarget plan _) _).bind fun _ =>
                untouched_outputs.bind fun _ =>
                  ((Follows.within_untouched
                    (within_sleepInterrupted _)).bind
                    fun _ => within_ensure _ _).bind
                      fun _ => within_pure _))

variable (world) in
theorem progress_refresh {start : Session} (sound : start.Sound)
    (docking : DockingState) :
    Meets (Untouched start) (refresh world docking)
      (fun _ => Progress world start .monitor)
      (Lands (Progress world start .monitor)) := by
  have quiet : ∀ {Value : Type} {service : Service Value},
      Within Untouched service →
      Meets (Progress world start .monitor) service
        (fun _ => Progress world start .monitor)
        (Lands (Progress world start .monitor)) := by
    intro Value service within
    have spec : Meets (Progress world start .monitor) service
        (fun _ => Progress world start .monitor)
        (fun _ => Progress world start .monitor) :=
      within.meets fun _ _ step progress => progress.untouched step
    exact spec.weaken (fun _ holds => holds) (fun _ _ holds => holds)
      fun failure _ progress => progress.lands failure
  have ticked : Meets (Untouched start) (caught (tick world))
      (fun _ => Progress world start .monitor)
      (Lands (Progress world start .monitor)) := by
    have whole : Meets (Untouched start) (tick world)
        (fun _ => Progress world start .monitor)
        (Lands (Progress world start .monitor)) :=
      (meets_untouched (Follows.within_untouched within_now) sound _).bind
        fun _ => (meets_untouched (Follows.within_untouched within_instant)
          sound _).bind fun _ => meets_tickAt _ _ sound
    refine Meets.catching (whole.weaken (fun _ holds => holds)
      (fun _ _ holds => holds) ?_)
    intro failure session lands
    cases failure with
    | error text => exact lands
    | abandoned => exact lands
    | crashed => exact lands
  refine (meets_untouched (Follows.within_untouched within_loadPolicy)
    sound _).bind fun _ => ticked.bind fun pass =>
      (quiet (Follows.within_untouched within_instant)).bind fun _ =>
      (quiet (untouched_reconcile _ _ _).catching).bind fun result =>
      Meets.bind ?_ fun _ => quiet ?_
  · cases result with
    | ok status => exact meets_pure fun _ holds => holds
    | error text =>
        exact (quiet untouched_outputs.catching).bind
          fun _ => meets_pure fun _ holds => holds
  · unfold conclusion
    split
    · exact within_fail _
    · exact within_fail _
    · exact within_pure _

end Service

namespace Session

variable {world : Surroundings}

omit [Decimals] in
theorem untouched_begun (session : Session) :
    Untouched session (session.begun world) := by
  unfold begun noticed
  split
  · exact ⟨rfl, rfl, rfl, Nat.le_succ _, [], by simp⟩
  · exact ⟨rfl, rfl, rfl, Nat.le_succ _, [], by simp⟩

/-- What a request leaves, after any crash, is progress. -/
theorem progress_settled {Value : Type} {service : Service Value}
    {start : Session} {request : Request}
    (spec : Meets (Untouched start) service
      (fun _ => Progress world start request)
      (Lands (Progress world start request))) :
    Progress world start request (settled (service start)) := by
  have reached := spec start (refl_of Untouched start)
  rcases result : service start with ⟨outcome, after⟩
  rw [result] at reached
  match outcome with
  | .ok value => exact reached
  | .error .crashed => exact reached
  | .error .abandoned => exact reached
  | .error (.error text) => exact reached

theorem Sound.progress {session : Session} (sound : session.Sound)
    (request : Request) :
    Progress world session request (step world session request) := by
  cases request with
  | monitor =>
      have reached := Service.progress_refresh world sound
        (world.docking session.calls) (session.begun world)
        (untouched_begun session)
      simp only [step, monitored]
      rcases result : Service.refresh world (world.docking session.calls)
        (session.begun world) with ⟨outcome, after⟩
      rw [result] at reached
      match outcome with
      | .ok status => exact reached
      | .error .crashed => exact reached
      | .error .abandoned =>
          exact reached.untouched ⟨rfl, rfl, rfl, le_rfl, [],
            by simp [refreshed, unsettled]⟩
      | .error (.error text) =>
          exact reached.untouched ⟨rfl, rfl, rfl, le_rfl, [],
            by simp [refreshed, unsettled]⟩
  | preview baseline settings =>
      exact progress_settled (Service.meets_preview baseline settings sound)
  | finish id confirm =>
      exact progress_settled (Service.meets_finish id confirm sound)
  | setPolicy preferExternal =>
      exact progress_settled (Service.meets_setPolicy preferExternal sound)
  | restart => exact (progress_refl sound _).forget rfl rfl rfl rfl

theorem sound_initial (topology : List Output) (disk : Document)
    (preferExternal : Bool) :
    (initial topology disk preferExternal).Sound :=
  ⟨each_nil, remembers_of_none rfl⟩

variable (world) in
/-- In every run, a command of a proposed layout comes after a saved document
with its trial and the observed previous layout.  A step changes the saved
layout only by confirming the pending trial with everything as it was at its
preview, and takes the trial off the disk only so or after the previous layout
has been applied. -/
theorem trials_are_durable (topology : List Output) (disk : Document)
    (preferExternal : Bool) (requests : List Request) (request : Request) :
    let session :=
      run (step world) (initial topology disk preferExternal) requests
    let after := step world session request
    Announced after.trace ∧
      (after.disk.saved ≠ session.disk.saved →
        ∃ trial, Confirmation world session request after trial ∧
          after.disk.saved = trial.proposed) ∧
      ∀ trial, session.disk.trial = some trial →
        after.disk.trial ≠ some trial →
          Confirmation world session request after trial ∨
            RolledBack world session after trial := by
  intro session after
  have preserved : ∀ session request, Sound session → True →
      Sound (step world session request) :=
    fun _ request sound _ => (sound.progress request).sound
  have sound : session.Sound :=
    invariant_run preserved (sound_initial topology disk preferExternal)
      (stepsMeet_of_forall (fun _ _ => trivial) _ requests)
  have progress : Progress world session request after :=
    sound.progress request
  refine ⟨progress.sound.announced, ?_, ?_⟩
  · intro changed
    exact progress.saved.resolve_left changed
  · intro trial pending removed
    exact (progress.trial trial pending).resolve_left removed

end Session

end BarDaemon.Displays
