import BarDaemon.Attempts
import Mathlib.Data.List.Basic

/-!
# The power profile automation

A low battery asks for a power profile.  The saver and the performance profile
are held, which leaves the selection of the user alone.  Balanced cannot be
held: the automation remembers the selected profile on the disk, selects
balanced, and selects the remembered one again later.
-/

namespace BarDaemon.PowerProfiles

open Attempt

/-! ### Battery levels -/

inductive Level
  | normal
  | low
  | critical
deriving DecidableEq, Repr

inductive ProfileAction
  | keepCurrent
  | powerSaver
  | balanced
  | performance
deriving DecidableEq, Repr

namespace ProfileAction

def profile : ProfileAction → Option String
  | .keepCurrent => none
  | .powerSaver => some "power-saver"
  | .balanced => some "balanced"
  | .performance => some "performance"

end ProfileAction

/-- What is read of the battery. -/
structure Battery where
  available : Bool
  plugged : Bool
  percentage : Nat
  warningPercent : Nat
  criticalPercent : Nat
  warningProfile : ProfileAction
  criticalProfile : ProfileAction
deriving DecidableEq, Repr

def recoveryMargin : Nat :=
  3

def recovered (percentage threshold : Nat) : Bool :=
  min (threshold + recoveryMargin) 100 < percentage

namespace Level

def observe (level : Level) (battery : Battery) : Level :=
  if !battery.available || battery.plugged then .normal
  else if battery.percentage ≤ battery.criticalPercent ∨
      (level = .critical ∧
        recovered battery.percentage battery.criticalPercent = false) then
    .critical
  else if battery.percentage ≤ battery.warningPercent ∨
      (level ≠ .normal ∧
        recovered battery.percentage battery.warningPercent = false) then
    .low
  else .normal

def text : Level → String
  | .normal => "normal"
  | .low => "low"
  | .critical => "critical"

def action (level : Level) (battery : Battery) : ProfileAction :=
  match level with
  | .normal => .keepCurrent
  | .low => battery.warningProfile
  | .critical => battery.criticalProfile

end Level

/-! ### The power profiles daemon -/

structure Hold where
  cookie : Nat
  application : String
  profile : String
deriving DecidableEq, Repr

/-- `HOLD_APPLICATION_ID` -/
def holdApplication : String :=
  "org.laufan.BarDaemon"

def manualProfiles : List String :=
  ["power-saver", "balanced", "performance"]

structure Daemon where
  /-- The name that the service has on the bus. -/
  owner : String
  selected : String
  holds : List Hold
  profiles : List String
  /-- The cookie of the next hold. -/
  cookies : Nat
deriving DecidableEq, Repr

namespace Daemon

/-- A held saver wins over a held performance profile. -/
def active (daemon : Daemon) : String :=
  if daemon.holds.any (·.profile == "power-saver") then "power-saver"
  else if daemon.holds.any (·.profile == "performance") then "performance"
  else daemon.selected

/-- A selection releases every hold. -/
def select (daemon : Daemon) (profile : String) : Daemon :=
  { daemon with selected := profile, holds := [] }

/-- Without its connection the automation has no holds. -/
def disconnect (daemon : Daemon) : Daemon :=
  { daemon with holds := daemon.holds.filter fun hold =>
      hold.application != holdApplication }

end Daemon

/-- `PowerProfileState`, as far as it is used. -/
structure Observed where
  profile : String
  profiles : List String
  activeHolds : List Hold
deriving DecidableEq, Repr

def Observed.hasOwnHold (observed : Observed) : Bool :=
  observed.activeHolds.any (·.application == holdApplication)

/-! ### The automation -/

/-- What is kept in `battery-profile-state.json`. -/
structure Runtime where
  level : Level
  manualOverride : Bool
  balancedRestoreProfile : Option String
deriving DecidableEq, Repr

def Runtime.default : Runtime :=
  ⟨.normal, false, none⟩

structure Status where
  level : String
  status : String
  profile : String
deriving DecidableEq, Repr

structure Envelope where
  connected : Bool
  owner : String
  cookie : Option Nat
  heldProfile : Option String
  level : Level
  runtime : Runtime
  saved : Runtime
  loaded : Bool
  status : Status
deriving DecidableEq, Repr

def Envelope.default : Envelope :=
  ⟨false, "", none, none, .normal, .default, .default, false, ⟨"", "", ""⟩⟩

inductive Saving
  | kept
  /-- A file that is not kept for sure may be in place. -/
  | failed (written : Bool)
  | crashed (written : Bool)
deriving DecidableEq, Repr

/-- The end of a call that changes something. -/
inductive Calling
  | done
  /-- An error may be reported after the call has taken effect. -/
  | failed (effect : Bool)
  | crashed (effect : Bool)
deriving DecidableEq, Repr

inductive Reading
  /-- Properties that cannot be read count as empty. -/
  | done (profiles holds : Bool)
  | failed
  | crashed
deriving DecidableEq, Repr

/-- What is answered in a pass, at each place where it waits. -/
structure Answers where
  keepLevel : Saving
  readOwner : Reading
  readSelection : Reading
  keepSelection : Saving
  readHold : Reading
  releaseHold : Calling
  readRestore : Reading
  selectRestored : Calling
  keepRestored : Saving
  readApply : Reading
  keepBalanced : Saving
  selectBalanced : Calling
  keepNothing : Saving
  takeHold : Calling
  readApplied : Reading

/-- What is answered to a manual selection, besides a pass after its
failure. -/
structure ManualAnswers where
  readBefore : Reading
  keepPause : Saving
  readHold : Reading
  releaseHold : Calling
  selectManual : Calling
  keepUnpaused : Saving
  keepSelected : Saving
  pass : Answers

structure Session where
  daemon : Daemon
  envelope : Envelope
  disk : Runtime
  /-- For the statements only: what was active before the automation has
  selected balanced, as long as nobody else has selected anything. -/
  change : Option String
  /-- For the statements only: what a user or another program has selected in
  the present episode of a low battery. -/
  selection : Option String
  /-- For the statements only: selections that the automation has overwritten,
  and what with. -/
  overwritten : List (String × String)
deriving DecidableEq, Repr

inductive Fault
  | crashed
  | failed
deriving DecidableEq, Repr

def Fault.handled? : Fault → Option Unit
  | .crashed => none
  | .failed => some ()

abbrev Automation (Value : Type) : Type :=
  Attempt Session Fault Value

namespace Session

def updated (session : Session) (update : Envelope → Envelope) : Session :=
  { session with envelope := update session.envelope }

def remembered (session : Session) (update : Runtime → Runtime) : Session :=
  { session with envelope :=
      { session.envelope with runtime := update session.envelope.runtime } }

/-- The automation has changed the profile. -/
def acted (session : Session) (daemon : Daemon) (change : Option String) :
    Session :=
  { session with
    daemon := daemon
    change := change
    overwritten := session.overwritten ++
      (session.selection.toList.filter (· != daemon.active)).map
        fun selection => (selection, daemon.active) }

/-- Somebody else has selected a profile. -/
def chosen (session : Session) (profile : String) : Session :=
  let level := if session.envelope.loaded then session.envelope.level
    else session.disk.level
  { session with
    daemon := session.daemon.select profile
    change := none
    selection := if level = .normal then none else some profile }

end Session

namespace Automation

/-! ### Effects -/

def memory : Automation Envelope := do
  let session ← Attempt.read
  return session.envelope

def update (update : Envelope → Envelope) : Automation Unit :=
  change fun session => session.updated update

def remember (update : Runtime → Runtime) : Automation Unit :=
  change fun session => session.remembered update

def say (status : String) : Automation Unit :=
  Automation.update fun envelope =>
    { envelope with status := { envelope.status with status := status } }

/-- `save_json_atomic` -/
def save (saving : Saving) (runtime : Runtime) : Automation Unit :=
  fun session =>
    match saving with
    | .kept => (.ok (), { session with disk := runtime })
    | .failed true => (.error .failed, { session with disk := runtime })
    | .failed false => (.error .failed, session)
    | .crashed true => (.error .crashed, { session with disk := runtime })
    | .crashed false => (.error .crashed, session)

def call (calling : Calling) (effect : Session → Session) :
    Automation Unit :=
  fun session =>
    match calling with
    | .done => (.ok (), effect session)
    | .failed true => (.error .failed, effect session)
    | .failed false => (.error .failed, session)
    | .crashed true => (.error .crashed, effect session)
    | .crashed false => (.error .crashed, session)

/-- `read_raw_state` -/
def readRawState (reading : Reading) : Automation Observed :=
  fun session =>
    match reading with
    | .done profiles holds =>
        (.ok ⟨session.daemon.active,
          if profiles then session.daemon.profiles else [],
          if holds then session.daemon.holds else []⟩, session)
    | .failed => (.error .failed, session)
    | .crashed => (.error .crashed, session)

def nameOwner (reading : Reading) : Automation String :=
  fun session =>
    match reading with
    | .done _ _ => (.ok session.daemon.owner, session)
    | .failed => (.error .failed, session)
    | .crashed => (.error .crashed, session)

/-- What was active before a change to balanced is noted, and restoring it
ends the change. -/
def setActiveProfile (calling : Calling) (profile : String)
    (restores : Bool) : Automation Unit :=
  call calling fun session =>
    session.acted (session.daemon.select profile)
      (if restores then none else some session.daemon.active)

def holdProfile (calling : Calling) (profile : String) : Automation Nat := do
  let session ← Attempt.read
  let cookie := session.daemon.cookies
  call calling fun session => session.acted { session.daemon with
    cookies := cookie + 1
    holds := session.daemon.holds ++ [⟨cookie, holdApplication, profile⟩] }
    session.change
  return cookie

def releaseProfile (calling : Calling) (cookie : Nat) : Automation Unit :=
  call calling fun session => { session with daemon := { session.daemon with
    holds := session.daemon.holds.filter (·.cookie != cookie) } }

/-! ### Observing -/

/-- An episode ends where the level is normal again. -/
def observe (battery : Battery) : Automation Unit :=
  change fun session =>
    let level := if battery.available then
      session.envelope.level.observe battery else session.envelope.level
    let ended := decide (level = .normal) && battery.available
    let runtime := { session.envelope.runtime with
      level := if battery.available then level
        else session.envelope.runtime.level
      manualOverride := !ended && session.envelope.runtime.manualOverride }
    { session with
      selection := if ended then none else session.selection
      envelope := { session.envelope with
        level := level
        runtime := runtime
        status :=
          ⟨level.text,
            if !battery.available then "unavailable"
            else if level = .normal then "waiting"
            else if runtime.manualOverride then "paused"
            else if (level.action battery).profile.isNone then "keep-current"
            else "active",
            (level.action battery).profile.getD ""⟩ } }

def persist (saving : Saving) : Automation Unit := do
  let envelope ← memory
  if envelope.runtime ≠ envelope.saved then
    save saving envelope.runtime
    update fun envelope => { envelope with saved := envelope.runtime }

/-- A selection that others have made pauses the automation. -/
def observeExternalSelection (battery : Battery) (answers : Answers) :
    Automation Unit := do
  let owner ← nameOwner answers.readOwner
  update fun envelope =>
    if envelope.owner ≠ owner then
      { envelope with owner := owner, cookie := none, heldProfile := none }
    else envelope
  let current ← readRawState answers.readSelection
  let envelope ← memory
  let lostHold := envelope.cookie.isSome && !current.hasOwnHold
  let replacedBalanced := envelope.runtime.balancedRestoreProfile.isSome &&
    current.profile != "balanced" && current.activeHolds.isEmpty
  update fun envelope =>
    if lostHold then { envelope with cookie := none, heldProfile := none }
    else envelope
  remember fun runtime =>
    if replacedBalanced then { runtime with balancedRestoreProfile := none }
    else runtime
  if lostHold || replacedBalanced then
    update fun envelope => { envelope with runtime := { envelope.runtime with
      manualOverride := envelope.level != .normal } }
    persist answers.keepSelection
    observe battery

/-! ### Holding and selecting -/

def release (readHold : Reading) (releaseHold : Calling) :
    Automation Unit := do
  let envelope ← memory
  match envelope.cookie with
  | none => return ()
  | some cookie =>
      let current ← readRawState readHold
      if current.hasOwnHold then releaseProfile releaseHold cookie
      update fun envelope =>
        { envelope with cookie := none, heldProfile := none }

def restoreBalanced (answers : Answers) : Automation Bool := do
  let envelope ← memory
  match envelope.runtime.balancedRestoreProfile with
  | none => return true
  | some previous =>
      let current ← readRawState answers.readRestore
      if !current.activeHolds.isEmpty then return false
      else
        if current.profile = "balanced" ∧ previous ∈ current.profiles then
          setActiveProfile answers.selectRestored previous true
        remember fun runtime => { runtime with balancedRestoreProfile := none }
        persist answers.keepRestored
        return true

def applyBalanced (answers : Answers) (current : Observed) :
    Automation Bool := do
  let envelope ← memory
  if !current.activeHolds.isEmpty then return false
  else if envelope.runtime.balancedRestoreProfile.isSome ∨
      current.profile = "balanced" then return true
  else
    remember fun runtime =>
      { runtime with balancedRestoreProfile := some current.profile }
    let kept ← (persist answers.keepBalanced).catching Fault.handled?
    match kept with
    | .error () =>
        remember fun runtime => { runtime with balancedRestoreProfile := none }
        fail .failed
    | .ok () =>
        let selected ← (setActiveProfile answers.selectBalanced "balanced"
          false).catching Fault.handled?
        match selected with
        | .error () =>
            remember fun runtime =>
              { runtime with balancedRestoreProfile := none }
            persist answers.keepNothing
            fail .failed
        | .ok () => return true

def applyProfile (answers : Answers) (profile : String) :
    Automation Unit := do
  let current ← readRawState answers.readApply
  if profile ∉ current.profiles then say "unavailable"
  else
    let envelope ← memory
    let applied ← (if profile = "balanced" then applyBalanced answers current
      else if envelope.cookie.isNone then do
        let cookie ← holdProfile answers.takeHold profile
        update fun envelope => { envelope with
          cookie := some cookie, heldProfile := some profile }
        return true
      else return true)
    if !applied then say "blocked"
    else
      let after ← readRawState answers.readApplied
      if after.profile ≠ profile then say "blocked"

def reconcile (battery : Battery) (answers : Answers) :
    Automation Unit := do
  observe battery
  if !battery.available then return ()
  else
    persist answers.keepLevel
    let before ← memory
    if !before.connected then say "unavailable"
    else
      observeExternalSelection battery answers
      let envelope ← memory
      let desired := if envelope.runtime.manualOverride then none
        else (envelope.level.action battery).profile
      if envelope.heldProfile ≠ desired then
        release answers.readHold answers.releaseHold
      let clear ← (if desired ≠ some "balanced" then restoreBalanced answers
        else return true)
      if !clear then say "blocked"
      else
        match desired with
        | some profile => applyProfile answers profile
        | none => return ()

/-! ### Requests -/

/-- The write of a manual selection. -/
def setManual (calling : Calling) (profile : String) : Automation Unit :=
  call calling fun session => session.chosen profile

def selectManual (profile : String) (battery : Battery)
    (answers : ManualAnswers) : Automation Unit := do
  let envelope ← memory
  ensure (envelope.loaded && envelope.connected) .failed
  ensure (manualProfiles.contains profile) .failed
  let current ← readRawState answers.readBefore
  ensure (current.profiles.contains profile) .failed
  observe battery
  let observed ← memory
  let wasPaused := observed.runtime.manualOverride
  remember fun runtime =>
    { runtime with manualOverride := observed.level != .normal }
  let kept ← (persist answers.keepPause).catching Fault.handled?
  match kept with
  | .error () =>
      remember fun runtime => { runtime with manualOverride := wasPaused }
      fail .failed
  | .ok () =>
      let selection : Automation Unit := do
        release answers.readHold answers.releaseHold
        setManual answers.selectManual profile
      let selected ← selection.catching Fault.handled?
      match selected with
      | .error () =>
          remember fun runtime => { runtime with manualOverride := wasPaused }
          persist answers.keepUnpaused
          reconcile battery answers.pass
          fail .failed
      | .ok () =>
          remember fun runtime =>
            { runtime with balancedRestoreProfile := none }
          persist answers.keepSelected
          observe battery

/-- The user gives the selection up. -/
def resume (battery : Battery) (keepResumed : Saving) (answers : Answers) :
    Automation Unit := do
  let envelope ← memory
  ensure (envelope.loaded && envelope.connected) .failed
  change fun session => { session with selection := none }
  remember fun runtime => { runtime with manualOverride := false }
  persist keepResumed
  reconcile battery answers

end Automation

/-! ### Runs -/

inductive Event
  /-- The runtime state may be unreadable.  Passes are made while attached. -/
  | attach (readable : Bool)
  | detach
  /-- The process dies, and starts again with the next `attach`. -/
  | restart
  | reconcile (battery : Battery) (answers : Answers)
  | selectManual (profile : String) (battery : Battery)
      (answers : ManualAnswers)
  | resume (battery : Battery) (keepResumed : Saving) (answers : Answers)
  /-- Others select a profile. -/
  | external (profile : String)
  | hold (cookie : Nat) (application profile : String)
  | unhold (cookie : Nat)
  | offer (profiles : List String)
  /-- The power profiles daemon starts again. -/
  | replaced (owner : String)

namespace Session

def restarted (session : Session) : Session :=
  { session with
    daemon := session.daemon.disconnect
    envelope := .default }

/-- A process that dies in an attempt starts again. -/
def settled (result : Except Fault Unit × Session) : Session :=
  match result.1 with
  | .error .crashed => result.2.restarted
  | _ => result.2

def attach (session : Session) (readable : Bool) : Session :=
  if session.envelope.loaded then
    session.updated fun envelope =>
      { envelope with connected := true, cookie := none, heldProfile := none }
  else if readable then
    session.updated fun envelope => { envelope with
      runtime := session.disk
      saved := session.disk
      level := session.disk.level
      loaded := true
      connected := true
      cookie := none
      heldProfile := none }
  else session

def detach (session : Session) : Session :=
  { session with
    daemon := session.daemon.disconnect
    envelope := { session.envelope with
      connected := false, cookie := none, heldProfile := none } }

def step (session : Session) : Event → Session
  | .attach readable => session.attach readable
  | .detach => session.detach
  | .restart => session.restarted
  | .reconcile battery answers =>
      if session.envelope.connected then
        settled (Automation.reconcile battery answers session)
      else session
  | .selectManual profile battery answers =>
      settled (Automation.selectManual profile battery answers session)
  | .resume battery keepResumed answers =>
      settled (Automation.resume battery keepResumed answers session)
  | .external profile => session.chosen profile
  | .hold cookie application profile =>
      { session with daemon := { session.daemon with
        holds := session.daemon.holds ++ [⟨cookie, application, profile⟩] } }
  | .unhold cookie =>
      { session with daemon := { session.daemon with
        holds := session.daemon.holds.filter (·.cookie != cookie) } }
  | .offer profiles =>
      { session with daemon := { session.daemon with profiles := profiles } }
  | .replaced owner =>
      { session with daemon := { session.daemon with
        owner := owner, holds := [] } }

def initial (daemon : Daemon) : Session :=
  ⟨daemon, .default, .default, none, none, []⟩

end Session

end BarDaemon.PowerProfiles
