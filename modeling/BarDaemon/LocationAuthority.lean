import BarDaemon.Attempts
import BarDaemon.BinaryFloats
import BarDaemon.MachineIntegers
import BarDaemon.UnicodeText

/-!
# The location authority

A system service that sets the timezone, from its own evidence or at the
request of a user.  It keeps its intent on the disk before it calls timedated,
and it may fail or crash wherever it waits.
-/

namespace BarDaemon.Locations

open Attempt

/-! ### Data -/

inductive Source
  | ip
  | nonIp
  | manual
  | unknown
deriving DecidableEq, Repr

structure Fix where
  latitude : Binary64
  longitude : Binary64
  timestamp : Binary64
  source : Source
  accuracy : Binary64
deriving DecidableEq, Repr

structure Place where
  name : String
  country : String
  region : String
  timezone : String
  latitude : Binary64
  longitude : Binary64
deriving DecidableEq, Repr

structure Request where
  requestId : String
  revision : Nat
  /-- Without a place the timezone is to follow the location again. -/
  place : Option Place
deriving DecidableEq, Repr

structure Operation where
  uid : Nat
  request : Request
  outcome : String
deriving DecidableEq, Repr

structure Accepted where
  timezone : String
  latitude : Binary64
  longitude : Binary64
  verifiedAt : Binary64
  source : Source
  accuracyMeters : Option Binary64
deriving DecidableEq, Repr

/-- What is kept in `state.json`. -/
structure State where
  paused : Bool
  ipNotBefore : Binary64
  accepted : Option Accepted
  acceptedRevision : Nat
  expectedTimezone : Option String
  writePending : Bool
  manual : Bool
  manualPlace : Option Place
  operation : Option Operation
deriving DecidableEq, Repr

def State.default : State :=
  ⟨false, .ofNat 0, none, 0, none, false, false, none, none⟩

inductive Decision
  | retry (reason : String)
  | ipConfirmationLimited
  | stop (reason : String)
deriving DecidableEq, Repr

/-- The boundaries and names of the timezones. -/
structure Zones where
  canonical : String → Option String
  known : String → Bool
  /-- The zone at a place, away from all boundaries. -/
  locate : Place → Option String
  decides : Fix → Option Fix → Binary64 → Binary64 → Except Decision String

namespace Place

def validate (zones : Zones) (place : Place) : Except String Unit :=
  if [place.name, place.country, place.region].any fun text =>
      240 < byteLength text || hasControl text then
    .error "invalid place label"
  else if (trim place.name).isEmpty then .error "place name is required"
  else if !(place.latitude.within (Binary64.ofNat 90).opposite (.ofNat 90) &&
      place.longitude.within (Binary64.ofNat 180).opposite (.ofNat 180)) then
    .error "invalid place coordinates"
  else if !zones.known place.timezone then .error "invalid place timezone"
  else .ok ()

/-- `==` of the source. -/
def same (left right : Place) : Bool :=
  left.name == right.name && left.country == right.country &&
    left.region == right.region && left.timezone == right.timezone &&
    left.latitude.equals right.latitude && left.longitude.equals right.longitude

end Place

namespace Request

/-- `==` of the source. -/
def same (left right : Request) : Bool :=
  left.requestId == right.requestId && left.revision == right.revision &&
    match left.place, right.place with
    | none, none => true
    | some first, some second => first.same second
    | _, _ => false

def zone (zones : Zones) (request : Request) :
    Except String (Option String) :=
  match request.place with
  | none => .ok none
  | some place => do
      place.validate zones
      match zones.locate place with
      | none => .error "Place timezone is unresolved or near a boundary"
      | some resolved =>
          if zones.canonical place.timezone = some resolved then
            .ok (some resolved)
          else .error "Place coordinates and timezone disagree"

end Request

structure Control where
  epoch : Nat
  reload : Nat
  sleeping : Bool
  shutdown : Bool
deriving DecidableEq, Repr

def Control.active (control : Control) (epoch : Nat) : Bool :=
  control.epoch == epoch && !control.sleeping && !control.shutdown

/-- What a look at the network asks for. -/
inductive Observed
  | ready
  | waiting (message : String)
  | quiet
deriving DecidableEq, Repr

/-- What is answered where the authority waits. -/
structure Answer where
  crashed : Bool
  /-- A file that could not be kept for sure may be in place. -/
  written : Bool
  kept : Except String Unit
  timezone : Except String String
  applied : Except String Unit
  control : Control
  onNetwork : Bool
  observed : Observed
  cooling : Bool
  acquired : Except Decision (Fix × Option Fix)
  /-- A rate limit that the lookup has met. -/
  limited : Option Binary64
  started : Binary64
  now : Binary64

/-- The request that a call serves, unless it serves the evidence. -/
abbrev Origin : Type :=
  Option (Nat × Request)

/-- What has happened, in order. -/
inductive Mark
  /-- `set_timezone` is called; whether the disk says so. -/
  | called (origin : Origin) (zone : String) (fenced : Bool)
  /-- The zone that is read back. -/
  | read (actual : String)
  /-- The intent of a request is on the disk, in this state. -/
  | intended (uid : Nat) (request : Request) (kept : State)
  /-- The outcome is on the disk, in this state. -/
  | recorded (origin : Origin) (zone : String) (kept : State)
  | reloaded
  | succeeded (uid : Nat) (request : Request)
deriving DecidableEq, Repr

/-- The authority in memory. -/
structure Authority where
  state : State
  baseline : String
  lastResult : String
  reload : Nat
  controlEpoch : Nat
  lastMessage : Option (String × Nat)
deriving DecidableEq, Repr

structure Session where
  calls : Nat
  running : Bool
  authority : Authority
  disk : State
  /-- For the statements only, like the states that have been on the disk. -/
  trace : List Mark
  durable : List State

inductive Fault
  | crashed
  | failed (text : String)
deriving DecidableEq, Repr

/-- The text of a failure that the authority can handle. -/
def Fault.text? : Fault → Option String
  | .crashed => none
  | .failed text => some text

abbrev Service (Value : Type) : Type :=
  Attempt Session Fault Value

namespace Session

def asked (session : Session) : Session :=
  { session with calls := session.calls + 1 }

def wrote (session : Session) (note : Option (State → Mark))
    (state : State) : Session :=
  { session with
    disk := state
    durable := session.durable ++ [state]
    trace := note.elim session.trace fun mark =>
      session.trace ++ [mark state] }

def marked (session : Session) (mark : Mark) : Session :=
  { session with trace := session.trace ++ [mark] }

def updated (session : Session) (update : Authority → Authority) : Session :=
  { session with authority := update session.authority }

end Session

namespace Service

variable (world : Nat → Answer) (zones : Zones)

/-! ### Effects -/

def ask : Service Answer := fun session =>
  if (world session.calls).crashed then (.error .crashed, session.asked)
  else (.ok (world session.calls), session.asked)

/-- `Storage::save`: a file that is not kept for sure may be in place. -/
def save (note : Option (State → Mark)) (state : State) :
    Service Unit := fun session =>
  let answer := world session.calls
  let lost := if answer.written then session.asked.wrote note state
    else session.asked
  if answer.crashed then (.error .crashed, lost)
  else match answer.kept with
    | .ok () => (.ok (), session.asked.wrote note state)
    | .error text => (.error (.failed text), lost)

def setTimezone (origin : Origin) (zone : String) : Service Unit :=
  fun session =>
    let answer := world session.calls
    let called := session.asked.marked
      (.called origin zone session.disk.writePending)
    if answer.crashed then (.error .crashed, called)
    else match answer.applied with
      | .ok () => (.ok (), called)
      | .error text => (.error (.failed text), called)

def timezone : Service String := do
  let answer ← ask world
  lift .failed answer.timezone

def memory : Service Authority := do
  let session ← read
  return session.authority

def update (update : Authority → Authority) : Service Unit :=
  change fun session => session.updated update

def updateState (update : State → State) : Service Unit :=
  Service.update fun authority =>
    { authority with state := update authority.state }

/-- Keep the state that is in memory. -/
def saveMemory (note : Option (State → Mark)) : Service Unit := do
  let authority ← memory
  save world note authority.state

/-- `Storage::status` -/
def status (message : String) : Service Unit := do
  let authority ← memory
  if authority.lastMessage =
      some (message, authority.state.acceptedRevision) then
    return ()
  else
    let answer ← ask world
    lift .failed answer.kept
    update fun authority => { authority with
      lastMessage := some (message, authority.state.acceptedRevision) }

/-! ### Applying a timezone -/

/-- The zone as it is after a call, whichever it is. -/
def readBack : Service String := do
  let actual ← timezone world
  change fun session => session.marked (.read actual)
  return actual

def applyTimezone (origin : Origin) (current zone : String) :
    Service String := do
  if zones.canonical current ≠ some zone then
    setTimezone world origin zone
  let actual ← readBack world
  if zones.canonical actual = some zone then
    return actual
  else fail (.failed "Timezone application unverified")

/-! ### The automatic check -/

def message : Decision → String
  | .retry reason =>
      reason ++ " · timezone unchanged · retrying automatically"
  | .ipConfirmationLimited => "IP confirmation rate limited" ++
      " · timezone unchanged · retrying automatically"
  | .stop reason => reason ++ " · no automatic change"

def finish (decision : Decision) : Service Unit := do
  status world (message decision)
  update fun authority => { authority with lastResult := message decision }

/-- The evidence has been applied and read back. -/
def accept (geo : Fix) (zone actual : String) (now : Binary64) :
    Service Unit := do
  let authority ← memory
  if authority.state.acceptedRevision = u64Max then
    fail (.failed "accepted location revision exhausted")
  else
    update fun authority => { authority with
      baseline := actual
      state := { authority.state with
        expectedTimezone := some zone
        acceptedRevision := authority.state.acceptedRevision + 1
        manualPlace := none
        accepted := some ⟨zone, geo.latitude, geo.longitude, now, geo.source,
          some geo.accuracy⟩
        writePending := false } }
    saveMemory world (some (.recorded none zone))
    update fun authority => { authority with lastResult := "" }
    status world ""

/-- The evidence asks for a zone. -/
def decided (epoch : Nat) (geo : Fix) (zone current : String)
    (now : Binary64) : Service Unit := do
  let authority ← memory
  if zones.canonical current = none ∨
      zones.canonical current ≠ zones.canonical authority.baseline then
    updateState fun state => { state with paused := true }
    saveMemory world none
    finish world
      (.stop "Timezone changed manually · automatic location paused")
  else
    updateState fun state => { state with writePending := true }
    saveMemory world none
    let answer ← ask world
    if !(answer.onNetwork && answer.control.active epoch) then
      updateState fun state => { state with writePending := false }
      saveMemory world none
      finish world (.retry "Location check interrupted")
    else
      let applied ← (applyTimezone world zones none current zone).catching
        Fault.text?
      match applied with
      | .ok actual => accept world geo zone actual now
      | .error _ =>
          updateState fun state => { state with paused := true }
          saveMemory world none
          finish world (.stop
            "Timezone change unverified · automatic location paused")

def check : Service Unit := do
  let begun ← ask world
  if begun.cooling then
    finish world (.retry "GeoClue provider migration cooldown")
  else
    status world "Checking current location…"
    let evidence ← ask world
    updateState fun state => { state with
      ipNotBefore := evidence.limited.getD state.ipNotBefore }
    saveMemory world none
    match evidence.acquired with
    | .error decision => finish world decision
    | .ok (geo, ip) =>
        match zones.decides geo ip evidence.started evidence.now with
        | .error decision => finish world decision
        | .ok zone =>
            let current ← (timezone world).catching Fault.text?
            match current with
            | .error _ => finish world (.retry "System timezone unavailable")
            | .ok current =>
                decided world zones evidence.control.epoch geo zone current
                  evidence.now

def observe : Service Unit := do
  let answer ← ask world
  match answer.observed with
  | .ready => check world zones
  | .waiting message => status world message
  | .quiet => return ()

/-! ### Requests of a user -/

/-- What a reply says. -/
structure ControlStatus where
  revision : Nat
  manual : Bool
  paused : Bool
  uncertain : Bool
  effectivePlace : Option Place
  operationId : Option String
  operationStatus : Option String
deriving DecidableEq, Repr

def controlStatus (state : State) : ControlStatus :=
  ⟨state.acceptedRevision, state.manual, state.paused, state.writePending,
    state.manualPlace, state.operation.map (·.request.requestId),
    state.operation.map (·.outcome)⟩

/-- A state that may not be on the disk is fenced in memory. -/
def persistControl (note : Option (State → Mark)) (next : State) :
    Service Unit := do
  let saved ← (save world note next).catching Fault.text?
  match saved with
  | .ok () => updateState fun _ => next
  | .error text =>
      updateState fun state =>
        { state with paused := true, writePending := true }
      fail (.failed text)

def State.conclude (state : State) (outcome : String) : State :=
  { state with operation := state.operation.map fun operation =>
      { operation with outcome := outcome } }

/-- The request has been applied and read back. -/
def conclude (uid : Nat) (request : Request) (place : Place)
    (zone actual : String) (now : Binary64) : Service Unit := do
  let authority ← memory
  if authority.state.acceptedRevision = u64Max then
    fail (.failed "Location revision exhausted")
  else
    persistControl world (some (.recorded (some (uid, request)) zone))
      (State.conclude { authority.state with
        manual := true
        expectedTimezone := some zone
        accepted := some ⟨zone, place.latitude, place.longitude, now, .manual,
          none⟩
        manualPlace := some place
        acceptedRevision := authority.state.acceptedRevision + 1
        writePending := false } "applied")
    update fun authority => { authority with baseline := actual }

def applyPlace (uid : Nat) (request : Request) (epoch : Nat)
    (place : Place) (current zone : String) : Service Unit := do
  let answer ← ask world
  let attempt : Service String := do
    ensure (answer.control.active epoch)
      (.failed "Location control interrupted before apply")
    applyTimezone world zones (some (uid, request)) current zone
  let applied ← attempt.catching Fault.text?
  match applied with
  | .ok actual => conclude world uid request place zone actual answer.now
  | .error text =>
      updateState fun state => State.conclude
        { state with paused := true } "uncertain"
      saveMemory world none
      status world "Timezone change unverified · automatic location paused"
      fail (.failed text)

/-- The state with the intent of a request. -/
def intended (state : State) (uid : Nat) (request : Request)
    (zone : Option String) : State :=
  { state with
    acceptedRevision := state.acceptedRevision + 1
    operation := some ⟨uid, request,
      if zone.isSome then "pending" else "applied"⟩
    manual := if zone.isNone then false else state.manual
    writePending := if zone.isNone then state.writePending else true }

/-- A request that is not a repetition of the last one. -/
def applyNew (uid : Nat) (request : Request) : Service ControlStatus := do
  let authority ← memory
  ensure (request.revision == authority.state.acceptedRevision)
    (.failed "Location changed; refresh before saving")
  ensure (!authority.state.paused && !authority.state.writePending)
    (.failed "Location safety pause requires administrative reconciliation")
  let answer ← ask world
  ensure (!answer.control.sleeping && !answer.control.shutdown) (.failed
    "Location control unavailable while sleeping or stopping")
  let current ← timezone world
  ensure (zones.canonical current == zones.canonical authority.baseline)
    (.failed "System timezone changed externally; reconcile before saving")
  let zone ← lift .failed (request.zone zones)
  ensure (authority.state.acceptedRevision != u64Max)
    (.failed "Location revision exhausted")
  persistControl world (some (.intended uid request))
    (intended authority.state uid request zone)
  match request.place, zone with
  | some place, some zone =>
      applyPlace world zones uid request answer.control.epoch place current
        zone
  | _, _ => pure ()
  let after ← memory
  status world (if after.state.manual then "Current location set manually"
    else "Automatic location · awaiting fresh location")
  let final ← memory
  return controlStatus final.state

/-- The last operation is the one of the request. -/
def repeats (operation : Operation) (uid : Nat) (request : Request) : Bool :=
  operation.uid == uid && operation.request.requestId == request.requestId

def applyControl (uid : Nat) (request : Request) :
    Service ControlStatus := do
  ensure (!request.requestId.isEmpty &&
      decide (byteLength request.requestId ≤ 160) &&
        !hasControl request.requestId) (.failed "Invalid operation ID")
  let authority ← memory
  match authority.state.operation.filter fun operation =>
      repeats operation uid request with
  | some operation =>
      ensure (operation.request.same request)
        (.failed "Operation ID reused for different parameters")
      ensure (operation.outcome == "applied") (.failed
        "Previous location operation is unconfirmed; inspect status")
      return controlStatus authority.state
  | none => applyNew world zones uid request

/-! ### The loop -/

/-- An explicit reload takes the fence away. -/
def reconcileControl (current : Control) : Service Unit := do
  let authority ← memory
  update fun authority => { authority with controlEpoch := current.epoch }
  if current.reload ≠ authority.reload then
    let baseline ← timezone world
    match zones.canonical baseline with
    | none => fail (.failed "invalid system timezone")
    | some canonical =>
        update fun authority => { authority with
          baseline := baseline
          state := { authority.state with
            expectedTimezone := some canonical
            paused := false
            writePending := false
            manual := false } }
        saveMemory world (some fun _ => .reloaded)
        update fun authority => { authority with reload := current.reload }
  else return ()

/-- The reply to a request. -/
def serve (uid : Nat) (request : Request) : Service Unit := do
  let replied ← (applyControl world zones uid request).catching Fault.text?
  match replied with
  | .ok _ => change fun session => session.marked (.succeeded uid request)
  | .error _ => return ()

def turn (current : Control) (command : Option (Nat × Request)) :
    Service Unit := do
  reconcileControl world zones current
  match command with
  | some (uid, request) => serve world zones uid request
  | none => pure ()
  let authority ← memory
  if authority.state.paused || authority.state.writePending then
    status world "Automatic location paused · reload to resume"
  else if authority.state.manual then
    status world "Current location set manually"
  else observe world zones

/-- `Authority::new` -/
def start : Service Unit := do
  let session ← read
  let loaded ← ask world
  lift .failed loaded.kept
  let baseline ← timezone world
  match zones.canonical baseline with
  | none => fail (.failed "invalid system timezone")
  | some canonical =>
      let state := session.disk
      let expected := state.expectedTimezone.or (state.accepted.map (·.timezone))
      update fun _ => ⟨match expected with
        | some expected =>
            if zones.canonical expected ≠ some canonical then
              { state with paused := true }
            else state
        | none => { state with expectedTimezone := some canonical },
        baseline, "", 0, 0, none⟩
      saveMemory world none

end Service

/-! ### Runs -/

inductive Event
  | boot
  | turn (control : Control) (command : Option (Nat × Request))
  /-- The authority dies between two turns. -/
  | crash

namespace Session

variable (world : Nat → Answer) (zones : Zones)

/-- An authority that has failed does not go on. -/
def settled {Value : Type} (result : Except Fault Value × Session) :
    Session :=
  match result.1 with
  | .ok _ => { result.2 with running := true }
  | .error _ => { result.2 with running := false }

def step (session : Session) : Event → Session
  | .boot =>
      if session.running then session
      else settled (Service.start world zones session)
  | .turn control command =>
      if session.running then
        if control.shutdown then { session with running := false }
        else settled (Service.turn world zones control command session)
      else session
  | .crash => { session with running := false }

def initial : Session :=
  ⟨0, false, ⟨.default, "", "", 0, 0, none⟩, .default, [], [.default]⟩

end Session

end BarDaemon.Locations
