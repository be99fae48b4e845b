import BarDaemon.Attempts
import BarDaemon.BatteryProtection

/-!
# The files and the helper of the battery protection

The daemon waits for its two files and for the privileged helper.  What it
gets is taken from a list of answers, and the process dies where the list
ends.  A write that ends without an answer is recorded before the daemon goes
on, so that it is not repeated on its own.
-/

namespace BarDaemon.BatteryProtection

open Attempt

/-! ### The world of the daemon -/

inductive Document (Value : Type)
  | missing
  | unreadable (message : String)
  | holds (value : Value)
deriving DecidableEq, Repr

/-- `load_json_or_default` -/
def Document.load {Value : Type} (document : Document Value)
    (default : Value) (reading : Option String) : Except String Value :=
  match reading, document with
  | some message, _ => .error message
  | none, .missing => .ok default
  | none, .unreadable message => .error message
  | none, .holds value => .ok value

structure Failure where
  /-- The failure is an `OutcomeUnknown`. -/
  unknown : Bool
  message : String
deriving DecidableEq, Repr

def Failure.known (message : String) : Failure :=
  ⟨false, message⟩

/-- `OutcomeUnknown` -/
def outcomeUnknown : Failure :=
  ⟨true, "battery write outcome unknown; reconcile hardware state before " ++
    "another action"⟩

inductive Saving
  | kept
  /-- A file that is not kept for sure may be in place. -/
  | failed (lasting : Bool) (message : String)
deriving DecidableEq, Repr

/-- The end of a call of the helper. -/
inductive Written (Value : Type)
  | done (value : Value)
  /-- Nothing has been written. -/
  | refused (message : String)
  | unknown
deriving DecidableEq, Repr

/-- What the daemon gets where it waits.  It looks at the part that it waits
for. -/
structure Answer where
  now : Nat
  reading : Option String
  saving : Saving
  /-- Of a write to the battery. -/
  thresholds : String → Written Thresholds
  behaviour : String → Written String
  supplies : Except String State

/-- For the statements only: what is known of the hardware. -/
inductive Mark
  /-- The helper is asked to write, while the files are these. -/
  | asked (batteryId : String) (target : Thresholds)
      (config : Document Config) (runtime : Document Runtime)
  /-- It is asked to charge otherwise. -/
  | told (batteryId behaviour : String) (runtime : Document Runtime)
  /-- It has written. -/
  | answered (batteryId : String)
  /-- It has read back the thresholds that it had been asked for. -/
  | confirmed (batteryId : String) (target : Thresholds)
  /-- The thresholds that are to be restored have been read of the battery. -/
  | found (batteryId : String) (target : Thresholds)
  /-- A pass goes on without the runtime record. -/
  | unread
  /-- A runtime record is saved as it is in the memory. -/
  | recorded
  /-- The battery has been fenced on the disk. -/
  | raised (batteryId : String)

structure World where
  config : Document Config
  runtime : Document Runtime
  answers : List Answer
  log : List Mark

inductive Fault
  | crashed
  | failed (failure : Failure)
  /-- The answer to a request. -/
  | refused (code message : String)
deriving DecidableEq, Repr

def Fault.failure? : Fault → Option Failure
  | .failed failure => some failure
  | _ => none

abbrev Effect (Value : Type) : Type :=
  Attempt World Fault Value

namespace Effect

def nextAnswer : Effect Answer := fun world =>
  match world.answers with
  | [] => (.error .crashed, world)
  | answer :: answers => (.ok answer, { world with answers := answers })

def note (mark : Mark) : Effect Unit :=
  change fun world => { world with log := world.log ++ [mark] }

/-- Go on with a failure as a value. -/
def attempt {Value : Type} (effect : Effect Value) :
    Effect (Except Failure Value) :=
  effect.catching Fault.failure?

/-- Report a failure otherwise. -/
def blaming {Value : Type} (blame : Failure → Fault) (effect : Effect Value) :
    Effect Value := fun world =>
  match effect world with
  | (.ok value, after) => (.ok value, after)
  | (.error (.failed failure), after) => (.error (blame failure), after)
  | (.error fault, after) => (.error fault, after)

def unixMs : Effect Nat := do
  let answer ← nextAnswer
  return answer.now

/-! ### Files -/

def failing (message : String) : Fault :=
  .failed (.known message)

def loadConfig : Effect Config := do
  let answer ← nextAnswer
  let world ← Attempt.read
  let config ← lift failing (world.config.load .default answer.reading)
  lift failing config.validate
  return config

def loadRuntime : Effect Runtime := do
  let answer ← nextAnswer
  let world ← Attempt.read
  lift failing (world.runtime.load .default answer.reading)

/-- `save_json_atomic` -/
def save (put : World → World) : Effect Unit := do
  let answer ← nextAnswer
  match answer.saving with
  | .kept => change put
  | .failed true message => do
      change put
      fail (failing message)
  | .failed false message => fail (failing message)

def saveConfig (config : Config) : Effect Unit := do
  lift failing config.validate
  save fun world => { world with config := .holds config }

def putRuntime (runtime : Runtime) : Effect Unit :=
  save fun world => { world with runtime := .holds runtime }

def saveRuntime (runtime : Runtime) : Effect Unit := do
  note .recorded
  putRuntime runtime

/-! ### The helper -/

structure ThresholdWriteResult where
  actual : Thresholds
  verified : Bool
deriving DecidableEq, Repr

/-- Keep what has become of a write from being forgotten.  The caller holds
the lock of the effects. -/
def raiseFence (batteryId : String) : Effect Unit :=
  blaming (fun failure => .failed ⟨true, failure.message⟩) do
    let runtime ← loadRuntime
    putRuntime (runtime.fence batteryId)
    note (.raised batteryId)

def writeCall {Value : Type} (batteryId : String)
    (written : Answer → Written Value) : Effect Value := do
  let answer ← nextAnswer
  match written answer with
  | .done value => do
      note (.answered batteryId)
      return value
  | .refused message => fail (failing message)
  | .unknown => do
      raiseFence batteryId
      fail (.failed outcomeUnknown)

def setThresholds (batteryId : String) (target : Thresholds) :
    Effect ThresholdWriteResult := do
  let world ← Attempt.read
  note (.asked batteryId target world.config world.runtime)
  let actual ← writeCall batteryId (·.thresholds batteryId)
  if actual = target then
    note (.confirmed batteryId target)
  return ⟨actual, actual == target⟩

def setChargeBehaviour (batteryId behaviour : String) : Effect String := do
  let world ← Attempt.read
  note (.told batteryId behaviour world.runtime)
  writeCall batteryId (·.behaviour batteryId)

end Effect

end BarDaemon.BatteryProtection
