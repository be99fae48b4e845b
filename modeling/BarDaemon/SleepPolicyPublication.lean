import BarDaemon.SleepLid
import BarDaemon.SleepCriticalEngine
import Mathlib.Data.Option.Basic

/-!
# Publishing the sleep policy

A call that sets the policy and a pass of the monitor hold the lock of the
policy while they publish.  The outcome of an idle action is published after
the lock has been given back, over a copy of the published state.
-/

namespace BarDaemon.SleepPolicies

open TransitionRuns

namespace SleepPolicy

/-- The general settings do not own those of a critical battery. -/
def withStoredCritical (policy previous : SleepPolicy) : SleepPolicy :=
  { policy with criticalBattery := previous.criticalBattery }

def profile (policy : SleepPolicy) (plugged : Bool) : SleepProfile :=
  if policy.sameProfile || !plugged then policy.battery else policy.plugged

def usesTimedHibernation (policy : SleepPolicy) : Bool :=
  [policy.profile false, policy.profile true].any fun profile =>
    decide (0 < profile.hibernateMinutes) &&
      (decide (0 < profile.sleepMinutes) ||
        decide (policy.lidAction = .profile))

def profileName (policy : SleepPolicy) (plugged : Bool) : String :=
  if policy.sameProfile then "shared"
  else if plugged then "plugged"
  else "battery"

end SleepPolicy

structure SleepPolicyState where
  available : Bool
  policy : SleepPolicy
  activeProfile : String
  hibernateAvailable : Bool
  hibernateReady : Bool
  hibernateError : Option String
  lid : LidState
  criticalBattery : CriticalState
  lastError : Option String
  error : Option String
deriving DecidableEq, Repr

namespace SleepPolicyState

def default : SleepPolicyState :=
  ⟨false, .default, "", false, false, none, ⟨false, false, none⟩,
    ⟨"", 0, none⟩, none, none⟩

/-- What `hibernate_support` has answered. -/
def supported (state : SleepPolicyState)
    (support : Except String (Option String)) : SleepPolicyState :=
  { state with
    hibernateAvailable := support.toOption.isSome
    hibernateReady := support.toOption == some none
    hibernateError := match support with
      | .ok limitation => limitation
      | .error error => some error }

/-- The state that `set` publishes. -/
def ofSet (policy : SleepPolicy) (plugged : Bool)
    (support : Except String (Option String)) : SleepPolicyState :=
  { default.supported support with
    available := true
    activeProfile := policy.profileName plugged
    policy := policy }

end SleepPolicyState

/-! ### The file -/

/-- `sleep.json` -/
inductive PolicyFile
  | missing
  | invalid
  | stored (policy : SleepPolicy)

namespace PolicyFile

/-- `load`, where nothing goes wrong while reading. -/
def load : PolicyFile → Option SleepPolicy
  | .missing => some .default
  | .invalid => none
  | .stored policy => (SleepPolicy.load (.ok policy)).toOption

/-- A call that sets the policy recovers from an invalid file. -/
def loadForUpdate (file : PolicyFile) : SleepPolicy :=
  file.load.getD .default

end PolicyFile

/-! ### The monitor -/

/-- What a pass of the monitor asks for after it has loaded the policy. -/
structure PolicyProbe where
  /-- The base configuration, the service and its active minutes. -/
  activeMinutes : Except String Nat
  support : Except String (Option String)
  plugged : Except String Bool

/-- `observe_policy` -/
def observePolicy (loaded : Option SleepPolicy) (unread : String)
    (probe : PolicyProbe) :
    SleepPolicyState × Option SleepPolicy × Option Nat :=
  match loaded with
  | none =>
      ({ SleepPolicyState.default with error := some unread }, none, none)
  | some policy =>
      let state := { SleepPolicyState.default with policy := policy }
      match probe.activeMinutes with
      | .error error => ({ state with error := some error }, policy, none)
      | .ok active =>
          let state := state.supported probe.support
          match probe.plugged with
          | .error error => ({ state with error := some error }, policy, none)
          | .ok plugged =>
              let minutes := (policy.profile plugged).sleepMinutes
              ({ state with
                  activeProfile := policy.profileName plugged
                  available := true },
                policy, if active ≠ minutes then some minutes else none)

/-- `set_timeout`, where the minutes have to be updated. -/
def applyTimeout (state : SleepPolicyState) (update : Option Nat)
    (applied : Except String Unit) : SleepPolicyState :=
  match update, applied with
  | some _, .error error =>
      { state with available := false, error := some error }
  | _, _ => state

theorem observePolicy_policy (loaded : Option SleepPolicy) (unread : String)
    (probe : PolicyProbe) :
    (observePolicy loaded unread probe).1.policy = loaded.getD .default := by
  unfold observePolicy
  cases loaded with
  | none => rfl
  | some policy =>
      cases probe.activeMinutes with
      | error error => rfl
      | ok active => cases probe.plugged <;> rfl

theorem observePolicy_observed (loaded : Option SleepPolicy)
    (unread : String) (probe : PolicyProbe) :
    (observePolicy loaded unread probe).2.1 = loaded := by
  unfold observePolicy
  cases loaded with
  | none => rfl
  | some policy =>
      cases probe.activeMinutes with
      | error error => rfl
      | ok active => cases probe.plugged <;> rfl

theorem applyTimeout_policy (state : SleepPolicyState) (update : Option Nat)
    (applied : Except String Unit) :
    (applyTimeout state update applied).policy = state.policy := by
  cases update <;> cases applied <;> rfl

/-! ### Writers -/

/-- What a call that sets the policy asks for before it saves. -/
structure SetProbe where
  /-- The file can be read, or backed up where it is invalid. -/
  readable : Bool
  /-- The configuration is valid and the service is running. -/
  idle : Bool
  plugged : Option Bool
  support : Except String (Option String)

inductive SetStage
  | checked
  | saved
  | applied
  | failed
deriving DecidableEq, Repr

structure SetCall where
  policy : SleepPolicy
  previous : SleepPolicy
  plugged : Bool
  support : Except String (Option String)
  stage : SetStage

/-- `set`, until it saves. -/
def enterSet (file : PolicyFile) (request : SleepPolicy) (probe : SetProbe) :
    Option SetCall := do
  guard probe.readable
  let previous := file.loadForUpdate
  let policy := request.withStoredCritical previous
  guard policy.validate.isOk
  guard probe.idle
  let plugged ← probe.plugged
  guard (!policy.usesTimedHibernation || probe.support.isOk)
  return ⟨policy, previous, plugged, probe.support, .checked⟩

/-- `critical::set_policy`, with the state it has copied and when. -/
structure CriticalCall where
  policy : SleepPolicy
  saved : Bool
  copy : Option (SleepPolicyState × Nat)

/-- `critical::set_policy`, until it saves. -/
def enterCritical (file : PolicyFile) (policy : CriticalPolicy)
    (readable capable : Bool) : Option CriticalCall := do
  guard policy.validate.isOk
  guard readable
  let previous := file.loadForUpdate
  guard (!policy.enabled || previous.criticalBattery.enabled || capable)
  return ⟨{ previous with criticalBattery := policy }, false, none⟩

theorem enterSet_stage {file : PolicyFile} {request : SleepPolicy}
    {probe : SetProbe} {call : SetCall}
    (entered : enterSet file request probe = some call) :
    call.stage = .checked := by
  simp only [enterSet, Option.bind_eq_bind, Option.bind_eq_some_iff] at entered
  obtain ⟨_, _, _, _, _, _, _, _, _, _, last⟩ := entered
  cases last
  rfl

theorem enterCritical_copy {file : PolicyFile} {policy : CriticalPolicy}
    {readable capable : Bool} {call : CriticalCall}
    (entered : enterCritical file policy readable capable = some call) :
    call.saved = false ∧ call.copy = none := by
  simp only [enterCritical, Option.bind_eq_bind, Option.bind_eq_some_iff]
    at entered
  obtain ⟨_, _, _, _, _, _, last⟩ := entered
  cases last
  exact ⟨rfl, rfl⟩

/-- A pass of the monitor that has found the policy unchanged, with the error
it has copied and when. -/
structure PolicyPass where
  state : SleepPolicyState
  update : Option Nat
  loaded : Bool
  lastError : Option (Option String × Nat)

/-- Who holds `POLICY_WRITE`. -/
inductive PolicyTurn
  | free
  /-- An action of the lid or an idle action. -/
  | action
  | set (call : SetCall)
  | critical (call : CriticalCall)
  | pass (pass : PolicyPass)

/-- A state, and for the statements only whether its policy has been loaded and
does not stand in for one that could not be. -/
structure PublishedPolicy where
  state : SleepPolicyState
  loaded : Bool

/-- The state that an idle action has copied to publish its outcome in it. -/
structure IdleCopy where
  published : PublishedPolicy
  /-- For the statements only: the calls that had published by then. -/
  sets : Nat

structure PolicySession where
  file : PolicyFile
  published : PublishedPolicy
  turn : PolicyTurn
  /-- What the pass under way has loaded. -/
  observed : Option (Option SleepPolicy)
  copies : List IdleCopy
  /-- For the statements only: the calls and the outcomes that have been
  published, the last outcome unless a later call has cleared it, the last
  parts, and the policies that have been saved since, and by, the last call
  that has published. -/
  sets : Nat
  finished : Nat
  outcome : Option String
  lid : LidState
  criticalBattery : CriticalState
  since : Option (List SleepPolicy)

inductive PolicyEvent
  | hold
  /-- The lock is given back, also where a call is abandoned. -/
  | release
  | enterSet (request : SleepPolicy) (probe : SetProbe)
  /-- The file may have been written where saving has failed. -/
  | saveSet (written accepted : Bool)
  | apply (accepted : Bool)
  | restore (written : Bool)
  | publishSet
  | enterCritical (policy : CriticalPolicy) (readable capable : Bool)
  | saveCritical (written accepted : Bool)
  | copyCritical
  | publishCritical
  | observe (readable : Bool)
  | enterPass (readable : Bool) (unread : String) (probe : PolicyProbe)
  | timeout (applied : Except String Unit)
  | copyError
  | publishPass
  | finishIdle (error : Option String)
  | publishIdle (index : Nat)
  | dropIdle (index : Nat)
  | lid (lid : LidState)
  | criticalBattery (state : CriticalState)

namespace PolicySession

def initial (file : PolicyFile) : PolicySession where
  file := file
  published := ⟨.default, false⟩
  turn := .free
  observed := none
  copies := []
  sets := 0
  finished := 0
  outcome := none
  lid := SleepPolicyState.default.lid
  criticalBattery := SleepPolicyState.default.criticalBattery
  since := none

/-- `update_sleep_policy` -/
def update (session : PolicySession) (value : PublishedPolicy) :
    PolicySession :=
  { session with published := { value with state := { value.state with
      lid := session.published.state.lid
      criticalBattery := session.published.state.criticalBattery } } }

def save (session : PolicySession) (policy : SleepPolicy) (written : Bool) :
    PolicySession :=
  if written then { session with
    file := .stored policy
    since := session.since.map (· ++ [policy]) }
  else session

/-- A call has published the policy that it has saved. -/
def committed (session : PolicySession) (policy : SleepPolicy) :
    PolicySession :=
  { session with
    turn := .free
    sets := session.sets + 1
    since := some [policy] }

def load (session : PolicySession) (readable : Bool) : Option SleepPolicy :=
  if readable then session.file.load else none

def saveSet (session : PolicySession) (call : SetCall)
    (written accepted : Bool) : PolicySession :=
  if accepted then { session.save call.policy true with
    turn := .set { call with stage := .saved } }
  else { session.save call.policy written with turn := .free }

def saveCritical (session : PolicySession) (call : CriticalCall)
    (written accepted : Bool) : PolicySession :=
  if accepted then { session.save call.policy true with
    turn := .critical { call with saved := true } }
  else { session.save call.policy written with turn := .free }

def publishSet (session : PolicySession) (call : SetCall) : PolicySession :=
  { (session.update
      ⟨.ofSet call.policy call.plugged call.support, true⟩).committed
        call.policy with
    outcome := none }

def publishCritical (session : PolicySession) (call : CriticalCall)
    (state : SleepPolicyState) : PolicySession :=
  (session.update ⟨state, true⟩).committed call.policy

/-- The pass goes on only where the policy is the one that it has loaded. -/
def enterPass (session : PolicySession) (observed : Option SleepPolicy)
    (readable : Bool) (unread : String) (probe : PolicyProbe) :
    PolicySession :=
  let observation := observePolicy observed unread probe
  if session.load readable ≠ observation.2.1 then
    { session with observed := none }
  else { session with
    observed := none
    turn := .pass ⟨observation.1, observation.2.2, observed.isSome, none⟩ }

def publishPass (session : PolicySession) (pass : PolicyPass)
    (error : Option String) : PolicySession :=
  { session.update ⟨{ pass.state with lastError := error }, pass.loaded⟩ with
    turn := .free }

def finishIdle (session : PolicySession) (error : Option String) :
    PolicySession :=
  { session with copies := session.copies ++ [⟨{ session.published with
      state := { session.published.state with lastError := error } },
    session.sets⟩] }

def publishIdle (session : PolicySession) (index : Nat) : PolicySession :=
  match session.copies[index]? with
  | none => session
  | some copy => { session.update copy.published with
      copies := session.copies.eraseIdx index
      finished := session.finished + 1
      outcome := copy.published.state.lastError }

def step (session : PolicySession) : PolicyEvent → PolicySession
  | .hold => match session.turn with
      | .free => { session with turn := .action }
      | _ => session
  | .release => { session with turn := .free }
  | .enterSet request probe =>
      match session.turn, SleepPolicies.enterSet session.file request probe with
      | .free, some call => { session with turn := .set call }
      | _, _ => session
  | .saveSet written accepted => match session.turn with
      | .set call =>
          if call.stage = .checked then session.saveSet call written accepted
          else session
      | _ => session
  | .apply accepted => match session.turn with
      | .set call =>
          if call.stage = .saved then { session with turn := .set { call with
            stage := if accepted then .applied else .failed } }
          else session
      | _ => session
  | .restore written => match session.turn with
      | .set call =>
          if call.stage = .failed then
            { session.save call.previous written with turn := .free }
          else session
      | _ => session
  | .publishSet => match session.turn with
      | .set call =>
          if call.stage = .applied then session.publishSet call else session
      | _ => session
  | .enterCritical policy readable capable =>
      match session.turn,
        SleepPolicies.enterCritical session.file policy readable capable with
      | .free, some call => { session with turn := .critical call }
      | _, _ => session
  | .saveCritical written accepted => match session.turn with
      | .critical call =>
          if call.saved then session
          else session.saveCritical call written accepted
      | _ => session
  | .copyCritical => match session.turn with
      | .critical call =>
          if call.saved then { session with turn := .critical { call with
            copy := some ({ session.published.state with
              policy := call.policy }, session.finished) } }
          else session
      | _ => session
  | .publishCritical => match session.turn with
      | .critical ⟨policy, saved, some copy⟩ =>
          session.publishCritical ⟨policy, saved, some copy⟩ copy.1
      | _ => session
  | .observe readable =>
      { session with observed := some (session.load readable) }
  | .enterPass readable unread probe =>
      match session.turn, session.observed with
      | .free, some observed =>
          session.enterPass observed readable unread probe
      | _, _ => session
  | .timeout applied => match session.turn with
      | .pass pass => { session with turn := .pass { pass with
          state := applyTimeout pass.state pass.update applied
          update := none } }
      | _ => session
  | .copyError => match session.turn with
      | .pass pass => { session with turn := .pass { pass with
          lastError := some (session.published.state.lastError,
            session.finished) } }
      | _ => session
  | .publishPass => match session.turn with
      | .pass ⟨state, update, loaded, some (error, stamp)⟩ =>
          session.publishPass ⟨state, update, loaded, some (error, stamp)⟩
            error
      | _ => session
  | .finishIdle error => session.finishIdle error
  | .publishIdle index => session.publishIdle index
  | .dropIdle index =>
      { session with copies := session.copies.eraseIdx index }
  | .lid lid => { session with
      lid := lid
      published := { session.published with
        state := { session.published.state with lid := lid } } }
  | .criticalBattery state => { session with
      criticalBattery := state
      published := { session.published with
        state := { session.published.state with criticalBattery := state } } }

/-! ### What is kept -/

/-- A policy is as new as the last one that a call has published. -/
def Since (session : PolicySession) (policy : SleepPolicy) : Prop :=
  ∀ policies, session.since = some policies → policy ∈ policies

/-- No update of the published policy is lost. -/
structure Kept (session : PolicySession) : Prop where
  policy : session.published.loaded = true →
    session.Since session.published.state.policy
  lid : session.published.state.lid = session.lid
  criticalBattery : session.published.state.criticalBattery =
    session.criticalBattery
  lastError : session.published.state.lastError = session.outcome

/-- Nothing has been published since the copy was made that it would undo. -/
def Timely (session : PolicySession) : PolicyEvent → Prop
  | .publishIdle index => ∀ copy, session.copies[index]? = some copy →
      copy.sets = session.sets
  | .publishPass => ∀ pass error stamp, session.turn = .pass pass →
      pass.lastError = some (error, stamp) → stamp = session.finished
  | .publishCritical => ∀ call state stamp, session.turn = .critical call →
      call.copy = some (state, stamp) → stamp = session.finished
  | _ => True

/-- What the holder of the lock relies on. -/
def Holds (session : PolicySession) : PolicyTurn → Prop
  | .free | .action => True
  | .set call =>
      call.stage ≠ .checked → session.file = .stored call.policy
  | .critical call =>
      (call.saved = true → session.file = .stored call.policy) ∧
        ∀ state stamp, call.copy = some (state, stamp) →
          call.saved = true ∧ state.policy = call.policy ∧
            stamp ≤ session.finished ∧
            (stamp = session.finished → state.lastError = session.outcome)
  | .pass pass =>
      (pass.loaded = true → session.Since pass.state.policy) ∧
        ∀ error stamp, pass.lastError = some (error, stamp) →
          stamp ≤ session.finished ∧
            (stamp = session.finished → error = session.outcome)

structure Sound (session : PolicySession) : Prop extends Kept session where
  file : ∀ policy, session.file.load = some policy → session.Since policy
  copies : ∀ copy ∈ session.copies, copy.sets ≤ session.sets ∧
    (copy.sets = session.sets → copy.published.loaded = true →
      session.Since copy.published.state.policy)
  turn : session.Holds session.turn

theorem load_stored {policy loaded : SleepPolicy}
    (load : (PolicyFile.stored policy).load = some loaded) :
    loaded = policy := by
  unfold PolicyFile.load at load
  cases valid : policy.validate with
  | error text =>
      simp [SleepPolicy.load, valid, bind, Except.bind, Except.toOption]
        at load
  | ok _ =>
      simpa [SleepPolicy.load, valid, bind, Except.bind, Except.toOption, pure,
        Except.pure, eq_comm] using load

theorem Sound.initial (file : PolicyFile) : Sound (initial file) where
  policy := fun never => nomatch never
  lid := rfl
  criticalBattery := rfl
  lastError := rfl
  file := fun _ _ _ never => nomatch never
  copies := fun _ member => nomatch member
  turn := trivial

theorem Since.save {session : PolicySession} {policy : SleepPolicy}
    (since : session.Since policy) (saved : SleepPolicy) (written : Bool) :
    (session.save saved written).Since policy := by
  unfold PolicySession.save
  split
  · intro policies some
    obtain ⟨before, held, rfl⟩ := Option.map_eq_some_iff.mp some
    exact List.mem_append_left [saved] (since before held)
  · exact since

theorem since_saved (session : PolicySession) (saved : SleepPolicy) :
    (session.save saved true).Since saved := by
  intro policies some
  obtain ⟨before, held, rfl⟩ := Option.map_eq_some_iff.mp some
  exact List.mem_append_right before (List.mem_singleton_self saved)

/-- What is kept while the holder of the lock saves a policy. -/
theorem Sound.save {session : PolicySession} (sound : Sound session)
    (policy : SleepPolicy) (written : Bool) :
    Sound { session.save policy written with turn := .free } := by
  cases written with
  | false =>
      exact ⟨⟨sound.policy, sound.lid, sound.criticalBattery,
        sound.lastError⟩, sound.file, sound.copies, trivial⟩
  | true =>
      constructor
      · exact ⟨fun loaded => (sound.policy loaded).save policy true,
          sound.lid, sound.criticalBattery, sound.lastError⟩
      · intro other load
        rw [load_stored load]
        exact since_saved session policy
      · intro copy member
        have ⟨old, since⟩ := sound.copies copy member
        exact ⟨old, fun same loaded => (since same loaded).save policy true⟩
      · exact trivial

/-- The lock changes hands. -/
theorem Sound.take {session : PolicySession} (sound : Sound session)
    {turn : PolicyTurn} (holds : session.Holds turn) :
    Sound { session with turn := turn } where
  policy := sound.policy
  lid := sound.lid
  criticalBattery := sound.criticalBattery
  lastError := sound.lastError
  file := sound.file
  copies := sound.copies
  turn := by cases turn <;> exact holds

theorem Sound.observe {session : PolicySession} (sound : Sound session)
    (observed : Option (Option SleepPolicy)) :
    Sound { session with observed := observed } where
  policy := sound.policy
  lid := sound.lid
  criticalBattery := sound.criticalBattery
  lastError := sound.lastError
  file := sound.file
  copies := sound.copies
  turn := by
    have holds := sound.turn
    cases held : session.turn <;> rw [held] at holds <;> exact holds

theorem Sound.saveSet {session : PolicySession} (sound : Sound session)
    (call : SetCall) (written accepted : Bool) :
    Sound (session.saveSet call written accepted) := by
  unfold PolicySession.saveSet
  split
  · exact (sound.save call.policy true).take fun _ => rfl
  · exact sound.save call.policy written

theorem Sound.saveCritical {session : PolicySession} (sound : Sound session)
    (call : CriticalCall) (written accepted : Bool)
    (uncopied : call.copy = none) :
    Sound (session.saveCritical call written accepted) := by
  unfold PolicySession.saveCritical
  split
  · apply (sound.save call.policy true).take
    exact ⟨fun _ => rfl, fun state stamp copied => by
      rw [uncopied] at copied
      nomatch copied⟩
  · exact sound.save call.policy written

/-- A call publishes the policy that it has saved. -/
theorem Sound.committed {session : PolicySession} (sound : Sound session)
    {policy : SleepPolicy} (file : session.file = .stored policy)
    {value : PublishedPolicy} (same : value.state.policy = policy)
    (outcome : Option String) (error : value.state.lastError = outcome) :
    Sound { (session.update value).committed policy with
      outcome := outcome } := by
  constructor
  · constructor
    · rintro loaded policies ⟨⟩
      exact List.mem_singleton.mpr same
    · exact sound.lid
    · exact sound.criticalBattery
    · exact error
  · rintro other load policies ⟨⟩
    have stored : (PolicyFile.stored policy).load = some other := file ▸ load
    exact List.mem_singleton.mpr (load_stored stored)
  · intro copy member
    have old := (sound.copies copy member).1
    refine ⟨Nat.le_succ_of_le old, fun same => ?_⟩
    have newer : copy.sets = session.sets + 1 := same
    omega
  · exact trivial

theorem Sound.publishSet {session : PolicySession} (sound : Sound session)
    {call : SetCall} (turn : session.turn = .set call)
    (applied : call.stage = .applied) : Sound (session.publishSet call) := by
  have holds := sound.turn
  rw [turn] at holds
  exact sound.committed (holds (by simp [applied])) rfl none rfl

theorem Sound.publishCritical {session : PolicySession}
    (sound : Sound session) {policy : SleepPolicy} {saved : Bool}
    {copy : SleepPolicyState × Nat}
    (turn : session.turn = .critical ⟨policy, saved, some copy⟩)
    (timely : session.Timely .publishCritical) :
    Sound (session.publishCritical ⟨policy, saved, some copy⟩ copy.1) := by
  have holds := sound.turn
  rw [turn] at holds
  obtain ⟨file, copied⟩ := holds
  obtain ⟨saved, same, -, error⟩ := copied copy.1 copy.2 rfl
  exact @Sound.committed session sound policy (file saved) ⟨copy.1, true⟩
    same session.outcome (error (timely _ copy.1 copy.2 turn rfl))

/-- A value is published that is no older than the published one. -/
theorem Sound.update {session : PolicySession} (sound : Sound session)
    {value : PublishedPolicy}
    (since : value.loaded = true → session.Since value.state.policy)
    (error : value.state.lastError = session.outcome) :
    Sound { session.update value with turn := .free } where
  policy := since
  lid := sound.lid
  criticalBattery := sound.criticalBattery
  lastError := error
  file := sound.file
  copies := sound.copies
  turn := trivial

theorem Sound.enterPass {session : PolicySession} (sound : Sound session)
    (observed : Option SleepPolicy) (readable : Bool) (unread : String)
    (probe : PolicyProbe) :
    Sound (session.enterPass observed readable unread probe) := by
  rw [PolicySession.enterPass, observePolicy_observed]
  by_cases same : session.load readable = observed
  · rw [if_neg (not_not_intro same)]
    apply (sound.observe none).take
    refine ⟨fun loaded => ?_, fun _ _ never => nomatch never⟩
    obtain ⟨policy, rfl⟩ := Option.isSome_iff_exists.mp loaded
    rw [observePolicy_policy]
    cases readable with
    | false => nomatch same
    | true => exact sound.file policy same
  · rw [if_pos same]
    exact sound.observe none

theorem Sound.publishPass {session : PolicySession} (sound : Sound session)
    {pass : PolicyPass} {error : Option String} {stamp : Nat}
    (turn : session.turn = .pass pass)
    (copied : pass.lastError = some (error, stamp))
    (timely : session.Timely .publishPass) :
    Sound (session.publishPass pass error) := by
  have holds := sound.turn
  rw [turn] at holds
  have new := timely pass error stamp turn copied
  exact sound.update holds.1 ((holds.2 error stamp copied).2 new)

theorem Sound.publishIdle {session : PolicySession} (sound : Sound session)
    (index : Nat) (timely : session.Timely (.publishIdle index)) :
    Sound (session.publishIdle index) := by
  unfold PolicySession.publishIdle
  cases found : session.copies[index]? with
  | none => exact sound
  | some copy =>
      have ⟨_, since⟩ := sound.copies copy (List.mem_of_getElem? found)
      constructor
      · exact ⟨since (timely copy found), sound.lid, sound.criticalBattery,
          rfl⟩
      · exact sound.file
      · exact fun other member =>
          sound.copies other (List.mem_of_mem_eraseIdx member)
      · have holds := sound.turn
        show Holds _ session.turn
        cases held : session.turn with
        | free | action => trivial
        | set call => exact (held ▸ holds : session.Holds (.set call))
        | critical call =>
            rw [held] at holds
            refine ⟨holds.1, fun state stamp copied => ?_⟩
            obtain ⟨saved, same, old, -⟩ := holds.2 state stamp copied
            exact ⟨saved, same, Nat.le_succ_of_le old, fun new =>
              absurd (new ▸ old) (Nat.not_succ_le_self _)⟩
        | pass pass =>
            rw [held] at holds
            refine ⟨holds.1, fun error stamp copied => ?_⟩
            have old := (holds.2 error stamp copied).1
            exact ⟨Nat.le_succ_of_le old, fun new =>
              absurd (new ▸ old) (Nat.not_succ_le_self _)⟩

theorem Sound.finishIdle {session : PolicySession} (sound : Sound session)
    (error : Option String) : Sound (session.finishIdle error) := by
  constructor
  · exact ⟨sound.policy, sound.lid, sound.criticalBattery, sound.lastError⟩
  · exact sound.file
  · intro copy member
    rcases List.mem_append.mp member with member | new
    · exact sound.copies copy member
    · rw [List.mem_singleton.mp new]
      exact ⟨Nat.le_refl _, fun _ loaded => sound.policy loaded⟩
  · have holds := sound.turn
    show Holds _ session.turn
    cases held : session.turn <;> rw [held] at holds <;> exact holds

theorem Sound.dropIdle {session : PolicySession} (sound : Sound session)
    (index : Nat) :
    Sound { session with copies := session.copies.eraseIdx index } where
  policy := sound.policy
  lid := sound.lid
  criticalBattery := sound.criticalBattery
  lastError := sound.lastError
  file := sound.file
  copies := fun copy member =>
    sound.copies copy (List.mem_of_mem_eraseIdx member)
  turn := by
    have holds := sound.turn
    cases held : session.turn <;> rw [held] at holds <;> exact holds

/-- The parts are published by their owners. -/
theorem Sound.parts {session : PolicySession} (sound : Sound session)
    {lid shownLid : LidState} (sameLid : shownLid = lid)
    {battery shownBattery : CriticalState}
    (sameBattery : shownBattery = battery) :
    Sound { session with
      lid := lid
      criticalBattery := battery
      published := { session.published with
        state := { session.published.state with
          lid := shownLid
          criticalBattery := shownBattery } } } where
  policy := sound.policy
  lid := sameLid
  criticalBattery := sameBattery
  lastError := sound.lastError
  file := sound.file
  copies := sound.copies
  turn := by
    have holds := sound.turn
    cases held : session.turn <;> rw [held] at holds <;> exact holds

theorem Sound.step_set {session : PolicySession} (sound : Sound session)
    {call : SetCall} (turn : session.turn = .set call) (accepted : Bool) :
    Sound (session.step (.apply accepted)) := by
  have holds := sound.turn
  rw [turn] at holds
  simp only [PolicySession.step, turn]
  split
  · rename_i saved
    exact sound.take fun _ => holds (by simp [saved])
  · exact sound

theorem Sound.step_copyCritical {session : PolicySession}
    (sound : Sound session) {call : CriticalCall}
    (turn : session.turn = .critical call) :
    Sound (session.step .copyCritical) := by
  have holds := sound.turn
  rw [turn] at holds
  simp only [PolicySession.step, turn]
  split
  · rename_i saved
    apply sound.take
    refine ⟨holds.1, ?_⟩
    rintro state stamp ⟨⟩
    exact ⟨saved, rfl, Nat.le_refl _, fun _ => sound.lastError⟩
  · exact sound

theorem Sound.step_pass {session : PolicySession} (sound : Sound session)
    {pass : PolicyPass} (turn : session.turn = .pass pass)
    (applied : Except String Unit) :
    Sound (session.step (.timeout applied)) ∧
      Sound (session.step .copyError) := by
  have holds := sound.turn
  rw [turn] at holds
  simp only [PolicySession.step, turn]
  constructor
  · apply sound.take
    refine ⟨fun loaded => ?_, holds.2⟩
    rw [applyTimeout_policy]
    exact holds.1 loaded
  · apply sound.take
    refine ⟨holds.1, ?_⟩
    rintro error stamp ⟨⟩
    exact ⟨Nat.le_refl _, fun _ => sound.lastError⟩

theorem Sound.step {session : PolicySession} (sound : Sound session)
    (event : PolicyEvent) (timely : session.Timely event) :
    Sound (session.step event) := by
  cases event with
  | hold =>
      unfold PolicySession.step
      cases session.turn with
      | free => exact sound.take trivial
      | _ => exact sound
  | release => exact sound.take trivial
  | enterSet request probe =>
      simp only [PolicySession.step]
      split
      · rename_i call entered
        apply sound.take
        intro changed
        exact absurd (enterSet_stage entered) changed
      · exact sound
  | saveSet written accepted =>
      simp only [PolicySession.step]
      split
      · split
        · exact sound.saveSet _ written accepted
        · exact sound
      · exact sound
  | apply accepted =>
      cases turn : session.turn with
      | set call => exact sound.step_set turn accepted
      | _ => simpa only [PolicySession.step, turn] using sound
  | restore written =>
      simp only [PolicySession.step]
      split
      · split
        · exact sound.save _ written
        · exact sound
      · exact sound
  | publishSet =>
      simp only [PolicySession.step]
      split
      · rename_i call turn
        split
        · rename_i applied
          exact sound.publishSet turn applied
        · exact sound
      · exact sound
  | enterCritical policy readable capable =>
      simp only [PolicySession.step]
      split
      · rename_i call entered
        apply sound.take
        obtain ⟨unsaved, uncopied⟩ := enterCritical_copy entered
        exact ⟨fun saved => absurd saved (by simp [unsaved]),
          fun state stamp copied => absurd copied (by simp [uncopied])⟩
      · exact sound
  | saveCritical written accepted =>
      cases turn : session.turn with
      | critical call =>
          simp only [PolicySession.step, turn]
          split
          · exact sound
          · rename_i unsaved
            have holds := sound.turn
            rw [turn] at holds
            apply sound.saveCritical
            cases copied : call.copy with
            | none => rfl
            | some copy =>
                exact absurd (holds.2 copy.1 copy.2 copied).1 unsaved
      | _ => simpa only [PolicySession.step, turn] using sound
  | copyCritical =>
      cases turn : session.turn with
      | critical call => exact sound.step_copyCritical turn
      | _ => simpa only [PolicySession.step, turn] using sound
  | publishCritical =>
      simp only [PolicySession.step]
      split
      · rename_i policy saved copy turn
        exact sound.publishCritical turn timely
      · exact sound
  | observe readable => exact sound.observe _
  | enterPass readable unread probe =>
      simp only [PolicySession.step]
      split
      · exact sound.enterPass _ readable unread probe
      · exact sound
  | timeout applied =>
      cases turn : session.turn with
      | pass pass => exact (sound.step_pass turn applied).1
      | _ => simpa only [PolicySession.step, turn] using sound
  | copyError =>
      cases turn : session.turn with
      | pass pass => exact (sound.step_pass turn (.ok ())).2
      | _ => simpa only [PolicySession.step, turn] using sound
  | publishPass =>
      simp only [PolicySession.step]
      split
      · rename_i state update loaded error stamp turn
        exact sound.publishPass turn rfl timely
      · exact sound
  | finishIdle error => exact sound.finishIdle error
  | publishIdle index => exact sound.publishIdle index timely
  | dropIdle index => exact sound.dropIdle index
  | lid lid => exact sound.parts (Eq.refl lid) sound.criticalBattery
  | criticalBattery state => exact sound.parts sound.lid (Eq.refl state)

/-- No update is lost in a run whose copies are published in time. -/
theorem policy_kept (file : PolicyFile) (events : List PolicyEvent)
    (timely : StepsMeet step Timely (initial file) events) :
    Kept (run step (initial file) events) :=
  (@invariant_run _ _ _ _ Sound
    (fun _ event sound timely => sound.step event timely) _
    (Sound.initial file) _ timely).toKept

def publishing (request : SleepPolicy) : List PolicyEvent :=
  [.enterSet request ⟨true, true, some true, .ok none⟩, .saveSet true true,
    .apply true, .publishSet]

/-- The outcome of an idle action is published after a second call. -/
def lateOutcome : List PolicyEvent :=
  publishing .default ++ [.finishIdle none] ++
    publishing { SleepPolicy.default with sameProfile := false } ++
      [.publishIdle 0]

/-- The policy of the first call is published again. -/
theorem second_set_lost :
    (run step (initial .missing) lateOutcome).published.loaded = true ∧
      (run step (initial .missing) lateOutcome).published.state.policy =
        .default ∧
      (run step (initial .missing) lateOutcome).since =
        some [{ SleepPolicy.default with sameProfile := false }] := by
  decide +kernel

/-- An outcome that is published before the next call. -/
theorem policy_kept_idle :
    Kept (run step (initial .missing)
      (publishing .default ++ [.finishIdle (some "not locked"),
        .publishIdle 0])) := by
  apply policy_kept
  refine ⟨trivial, trivial, trivial, trivial, trivial, ?_, trivial⟩
  intro copy found
  cases found
  rfl

end PolicySession

end BarDaemon.SleepPolicies
