import BarDaemon.Attempts
import BarDaemon.DisplayLayouts

/-!
# The display service and what surrounds it

The state that the display service keeps and shares with the compositor and
the disk, the calls by which it reaches them, and the trace of these calls.
The surroundings settle every call by its number: whether it is answered,
what hotplug happened before it, and what a command made of the outputs.
-/

namespace BarDaemon.Displays

/-- How a call ends.  A call without an answer may still have had its effect:
the compositor refused it late, the daemon stopped waiting, or it crashed. -/
inductive Fate
  | answered
  | failed (effective : Bool)
  | abandoned (effective : Bool)
  | crashed (effective : Bool)
deriving DecidableEq, Repr

/-- How the atomic replacement of a file ends.  One that the daemon stops
waiting for is taken to leave the file as it was. -/
inductive Writing
  | written
  | failed
  | abandoned
  | crashed (written : Bool)
deriving DecidableEq, Repr

/-- An error that the daemon can handle, the end of its patience, or its own
end. -/
inductive Failure
  | error (text : String)
  | abandoned
  | crashed
deriving DecidableEq, Repr

/-- The text of a failure that the daemon can handle. -/
def Failure.text? : Failure → Option String
  | .error text => some text
  | _ => none

inductive DockingState
  | applying
  | settled
  | failed
deriving DecidableEq, Repr

structure Surroundings where
  fate : Nat → Fate
  writing : Nat → Writing
  hotplug : Nat → List Output → List Output
  /-- The outputs after a configuration command. -/
  configured : Nat → Setting → List Output → List Output
  /-- The outputs after an automatic docking command. -/
  docked : Nat → Output → Bool → List Output → List Output
  /-- `preparing_for_sleep` and `resume_generation`. -/
  sleep : Nat → Bool × Nat
  /-- Nanoseconds since 1970, unless the clock stands before it. -/
  clock : Nat → Option Nat
  instant : Nat → Nat
  docking : Nat → DockingState
  /-- The docking preference that the store publishes. -/
  policy : Nat → Bool
  /-- The keyed fingerprint of a process. -/
  baseline : List Output → Bool → String

/-- Why the service configures an output. -/
inductive Purpose
  | trial (trial : Trial)
  | rollback (trial : Trial)
  | restore (document : Document)
  | fallback (target : Output)
deriving DecidableEq, Repr

/-- What the service has done, in order. -/
inductive Event
  | listed (outputs : List Output)
  | planned (outputs : List Output) (now : Nat)
  | saved (document : Document)
  | configured (purpose : Purpose) (setting : Setting)
  | docked (target : Output) (disable : Bool)
deriving DecidableEq, Repr

/-- What a preview saw when it armed its trial. -/
structure Armed where
  trial : Trial
  outputs : List Output
  deadline : Nat
  resume : Nat
deriving DecidableEq, Repr

structure Session where
  calls : Nat
  topology : List Output
  disk : Document
  preferExternal : Bool
  runtime : Runtime
  planner : Planner
  lastResume : Nat
  /-- For the statements only. -/
  armed : List Armed
  /-- For the statements only. -/
  trace : List Event

/-- A computation of the display service. -/
abbrev Service (Value : Type) : Type :=
  Attempt Session Failure Value

namespace Session

/-- The outputs change before a call is served. -/
def served (world : Surroundings) (session : Session) : Session :=
  { session with
    calls := session.calls + 1
    topology := world.hotplug session.calls session.topology }

def traced (session : Session) (event : Event) : Session :=
  { session with trace := session.trace ++ [event] }

def wrote (session : Session) (document : Document) : Session :=
  { session with
    disk := document
    trace := session.trace ++ [.saved document] }

end Session

namespace Service

variable (world : Surroundings)

/-- One call to the outside, with its effect. -/
def perform (refusal : String) (effect : Nat → Session → Session) :
    Service Unit := fun session =>
  let served := session.served world
  let effected := effect session.calls served
  match world.fate session.calls with
  | .answered => (.ok (), effected)
  | .failed effective =>
      (.error (.error refusal), if effective then effected else served)
  | .abandoned effective =>
      (.error .abandoned, if effective then effected else served)
  | .crashed effective =>
      (.error .crashed, if effective then effected else served)

/-- Read something that cannot fail. -/
def reading {Value : Type} (value : Nat → Value) : Service Value :=
  fun session => (.ok (value session.calls),
    { session with calls := session.calls + 1 })

def raise {Value : Type} (text : String) : Service Value :=
  Attempt.fail (.error text)

def ensure (condition : Bool) (text : String) : Service Unit :=
  Attempt.ensure condition (.error text)

def checked {Value : Type} (outcome : Except String Value) : Service Value :=
  Attempt.lift Failure.error outcome

/-- Handle the errors of a computation. -/
def caught {Value : Type} (service : Service Value) :
    Service (Except String Value) :=
  service.catching Failure.text?

def eligible : Service Unit :=
  perform world ("display control is waiting for the active local Wayland " ++
    "session") fun _ session => session

def outputs : Service (List Output) := do
  perform world "read Hyprland display topology" fun _ session =>
    session.traced (.listed session.topology)
  return (← Attempt.read).topology

/-- Read the docking preference from its file. -/
def loadPolicy : Service Bool := do
  perform world "read display policy" fun _ session => session
  return (← Attempt.read).preferExternal

def savePolicy (preferExternal : Bool) : Service Unit :=
  perform world "persist display policy" fun _ session =>
    { session with preferExternal }

variable [Decimals] in
/-- Send the command of a setting.  A setting that does not validate has no
command. -/
def configure (purpose : Purpose) (setting : Setting) : Service Unit := do
  checked setting.validate
  perform world "display configuration refused" fun index session =>
    { session with
      topology := world.configured index setting session.topology
      trace := session.trace ++ [.configured purpose setting] }

def load : Service Document := do
  perform world "read display layout" fun _ session => session
  return (← Attempt.read).disk

def save (document : Document) : Service Unit := fun session =>
  let served := session.served world
  match world.writing session.calls with
  | .written => (.ok (), served.wrote document)
  | .failed => (.error (.error "persist display layout"), served)
  | .abandoned => (.error .abandoned, served)
  | .crashed written =>
      (.error .crashed, if written then served.wrote document else served)

/-- The store's view of sleep: whether it is being prepared, and how often the
machine has resumed. -/
def sleepState : Service (Bool × Nat) :=
  reading world.sleep

def sleepInterrupted (generation : Nat) : Service Bool := do
  let (preparing, current) ← sleepState world
  return preparing || current != generation

/-- The wall clock in seconds. -/
def now : Service Nat :=
  reading fun index => (world.clock index).getD 0 / 1000000000

def instant : Service Nat :=
  reading world.instant

def ensureDockingSettled : Service Unit := do
  let docking ← reading world.docking
  ensure (docking != .applying)
    "Wait for the docking change to finish before changing display settings"

end Service

end BarDaemon.Displays
