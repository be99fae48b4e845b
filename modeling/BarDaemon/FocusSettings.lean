import BarDaemon.Attempts
import BarDaemon.BinaryFloats
import BarDaemon.FallibleSteps
import BarDaemon.MachineIntegers
import Std.Data.ExtTreeMap.Lemmas

/-!
# Focus settings

Sparse overrides of the compositor's focus behaviour. The value that a setting
had before its first override is kept in the document, until a reset.
-/

namespace BarDaemon.FocusSettings

open FallibleSteps Std

/-! ### Values -/

/-- `serde_json::Number` -/
inductive Number
  | posInt (number : Nat)
  | negInt (number : Int)
  | float (number : Binary64)
deriving DecidableEq, Repr

/-- A JSON value. No setting takes anything but booleans and numbers. -/
inductive Value
  | bool (value : Bool)
  | number (value : Number)
  | other
deriving DecidableEq, Repr

def Value.asI64 : Value → Option Int
  | .number (.posInt value) => if value ≤ i64Max then some value else none
  | .number (.negInt value) => some value
  | _ => none

def Value.asF64 : Value → Option Binary64
  | .number (.posInt value) => some (.ofInt value)
  | .number (.negInt value) => some (.ofInt value)
  | .number (.float value) => some value
  | _ => none

def Number.equals : Number → Number → Bool
  | .posInt left, .posInt right => left == right
  | .negInt left, .negInt right => left == right
  | .float left, .float right => left.equals right
  | _, _ => false

/-- `==` of JSON values; null, texts, arrays and objects are not told apart. -/
def Value.equals : Value → Value → Bool
  | .bool left, .bool right => left == right
  | .number left, .number right => left.equals right
  | .other, .other => true
  | _, _ => false

abbrev Values := ExtTreeMap String Value

/-! ### Options -/

inductive Kind
  | bool
  | int (max : Int)
  | float (max : Binary64)
deriving DecidableEq, Repr

/-- `OPTIONS` -/
def options : List (String × Kind) :=
  [("input:follow_mouse", .int 3),
    ("misc:mouse_move_focuses_monitor", .bool),
    ("input:mouse_refocus", .bool),
    ("input:follow_mouse_threshold", .float (.ofNat 1000)),
    ("input:follow_mouse_shrink", .int 300),
    ("input:float_switch_override_focus", .int 2),
    ("misc:always_follow_on_dnd", .bool),
    ("misc:layers_hog_keyboard_focus", .bool),
    ("input:special_fallthrough", .bool),
    ("binds:window_direction_monitor_fallback", .bool),
    ("binds:focus_preferred_method", .int 1),
    ("binds:movefocus_cycles_fullscreen", .bool),
    ("binds:movefocus_cycles_groupfirst", .bool),
    ("misc:focus_on_activate", .bool),
    ("input:focus_on_close", .int 2),
    ("misc:on_focus_under_fullscreen", .int 2),
    ("misc:initial_workspace_tracking", .int 2),
    ("cursor:no_warps", .bool),
    ("cursor:persistent_warps", .bool),
    ("cursor:warp_on_change_workspace", .int 2),
    ("cursor:warp_on_toggle_special", .int 2),
    ("binds:workspace_center_on", .int 1),
    ("cursor:warp_back_after_non_mouse_input", .bool),
    ("binds:workspace_back_and_forth", .bool),
    ("binds:allow_workspace_cycles", .bool),
    ("binds:hide_special_on_workspace_change", .bool)]

def kind (key : String) : Except String Kind :=
  match options.find? fun option => option.1 == key with
  | some option => .ok option.2
  | none => .error "Unknown focus setting"

/-- A kind takes the value. -/
def Kind.takes (value : Value) : Kind → Bool
  | .bool => match value with
      | .bool _ => true
      | _ => false
  | .int max => value.asI64.any fun number => 0 ≤ number && number ≤ max
  | .float max => value.asF64.any fun number =>
      number.isFinite && number.within (.ofBits 0) max

def valid (key : String) (value : Value) : Except String Unit := do
  let kind ← kind key
  ensure (kind.takes value) ("Invalid value for " ++ key)

def validate (values : Values) : Except String Unit :=
  values.toList.forM fun entry => valid entry.1 entry.2

/-- 0.0001 -/
def tolerance : Binary64 :=
  .ofBits 0x3F1A36E2EB1C432D

def same (key : String) (actual desired : Value) : Bool :=
  match kind key with
  | .ok (.float _) =>
      match actual.asF64, desired.asF64 with
      | some actual, some desired => (actual.distance desired).below tolerance
      | _, _ => false
  | _ => actual.equals desired

/-! ### Replies -/

/-- What the compositor reports of one option. -/
structure Part where
  option : Option String
  bool : Option Value
  int : Option Value
  float : Option Value
deriving DecidableEq, Repr

/-- The reply of the compositor, split; a part that is not JSON is none. -/
abbrev Reply := List (Option Part)

/-- What a part says of an option of a kind. -/
def Part.observed (part : Part) : Kind → Option Value
  | .bool => part.bool.or <|
      match part.int.bind Value.asI64 with
      | some 0 => some (.bool false)
      | some 1 => some (.bool true)
      | _ => none
  | .int _ => part.int
  | .float _ => part.float

/-- Add what one part says, when it is about its option. -/
def readPart (values : Values) :
    (String × Kind) × Option Part → Values
  | ((key, kind), some part) =>
      if part.option = some key then
        match (part.observed kind).filter fun value => (valid key value).isOk with
        | some value => values.insert key value
        | none => values
      else values
  | (_, none) => values

def parse (reply : Reply) : Except String Values := do
  ensure (reply.length == options.length) "Incomplete focus settings response"
  let values := (options.zip reply).foldl readPart ∅
  ensure (!values.isEmpty)
    "This compositor does not expose supported focus settings"
  return values

/-! ### The service -/

structure State where
  available : Bool
  values : Values
  saved : Values
  error : Option String

/-- `previous` holds what the saved settings replaced. -/
structure Document where
  saved : Values
  previous : Values

def Document.default : Document :=
  ⟨∅, ∅⟩

/-- How the replacement of the file ends. It may fail before or after the file
was replaced. -/
inductive Writing
  | written
  | failed (replaced : Bool)
deriving DecidableEq, Repr

/-- What settles each call, by its number. -/
structure Surroundings where
  eligible : Nat → Bool
  /-- `preparing_for_sleep` and `resume_generation`. -/
  sleep : Nat → Bool × Nat
  loads : Nat → Bool
  replies : Nat → Bool
  /-- Whether a command is accepted, and what the compositor reports after. -/
  configured : Nat → Values → Reply → Bool × Reply
  writing : Nat → Writing

structure Session where
  calls : Nat
  /-- What the compositor would report. -/
  compositor : Reply
  /-- The file, once it was written. -/
  disk : Option Document

/-- An error, or one after which the former values were not restored either. -/
inductive Failure
  | error (text : String)
  | unrestored (failure error : String)
deriving DecidableEq, Repr

def Failure.message : Failure → String
  | .error text => text
  | .unrestored failure cause =>
      failure ++ "; restoring previous focus settings also failed: " ++ cause

def Failure.text? : Failure → Option String
  | .error text => some text
  | .unrestored _ _ => none

abbrev Service (Result : Type) : Type :=
  Attempt Session Failure Result

namespace Service

variable (world : Surroundings)

/-- A call that changes nothing. -/
def ask {Result : Type} (answer : Nat → Session → Except String Result) :
    Service Result := fun session =>
  ((answer session.calls session).mapError .error,
    { session with calls := session.calls + 1 })

def checked {Result : Type} (outcome : Except String Result) : Service Result :=
  Attempt.lift Failure.error outcome

/-- Handle the errors of a computation. -/
def caught {Result : Type} (service : Service Result) :
    Service (Except String Result) :=
  service.catching Failure.text?

def eligible : Service Unit :=
  ask fun index _ => ensure (world.eligible index) "inactive session"

def values : Service Values :=
  ask fun index session => do
    ensure (world.replies index) "read focus settings"
    parse session.compositor

/-- A command is made of valid settings only. -/
def configure (values : Values) : Service Unit := do
  checked (validate values)
  fun session =>
    let (accepted, compositor) :=
      world.configured session.calls values session.compositor
    (if accepted then .ok () else .error (.error "configure focus settings"),
      { session with
        calls := session.calls + 1
        compositor })

def load : Service Document :=
  ask fun index session => do
    ensure (world.loads index) "read focus settings file"
    return session.disk.getD .default

def save (document : Document) : Service Unit := fun session =>
  let replaced := { session with
    calls := session.calls + 1
    disk := some document }
  match world.writing session.calls with
  | .written => (.ok (), replaced)
  | .failed true => (.error (.error "persist focus settings"), replaced)
  | .failed false => (.error (.error "persist focus settings"),
      { session with calls := session.calls + 1 })

def sleepState : Service (Bool × Nat) :=
  ask fun index _ => .ok (world.sleep index)

def guard (generation : Nat) : Service Unit := do
  eligible world
  let (preparing, current) ← sleepState world
  checked (ensure (!(preparing || current != generation))
    "Sleep interrupted focus settings")

def apply (values : Values) (generation : Nat) : Service Values := do
  guard world generation
  configure world values
  let observed ← Service.values world
  checked (ensure
    (values.toList.all fun (key, value) =>
      observed[key]?.any fun actual => same key actual value)
    "Compositor has not applied the requested focus settings")
  return observed

end Service

/-- Keep the current value of each key that has no former value yet. -/
def capture (current : Values) :
    List String → Values → Except String Values
  | [], previous => .ok previous
  | key :: keys, previous =>
      match current[key]? with
      | some value => capture current keys (previous.insertIfNew key value)
      | none => .error "Focus setting is unsupported by this compositor"

/-- A patch is not empty, and valid. -/
def checkPatch : Option Values → Except String Unit
  | some values => do
      ensure (!values.isEmpty) "Choose at least one focus setting"
      validate values
  | none => .ok ()

/-- The settings that a set or a reset requests, and the next document. -/
def requested (patch : Option Values) (document : Document)
    (current : Values) : Except String (Values × Document) :=
  match patch with
  | some values => do
      let previous ← capture current values.keys document.previous
      return (values, ⟨document.saved ∪ values, previous⟩)
  | none =>
      .ok (document.previous.filter fun key _ => current.contains key,
        .default)

namespace Service

variable (world : Surroundings)

/-- Apply the requested settings, then save the document. -/
def commit (values current : Values) (document : Document)
    (generation : Nat) : Service State := do
  let values ← if values.isEmpty then pure current
    else apply world values generation
  save world document
  return ⟨true, values, document.saved, none⟩

/-- Fail, after what was before has been applied again. -/
def restore (rollback : Values) (generation : Nat) (failure : String) :
    Service State := do
  if !rollback.isEmpty then
    match ← caught (apply world rollback generation) with
    | .error error => Attempt.fail (.unrestored failure error)
    | .ok _ => Attempt.fail (.error failure)
  else Attempt.fail (.error failure)

/-- Set the values of a patch, or reset all. -/
def change (patch : Option Values) : Service State := do
  checked (checkPatch patch)
  let document ← load world
  checked (validate document.saved)
  checked (validate document.previous)
  let (_, generation) ← sleepState world
  guard world generation
  let current ← values world
  let (values, document) ← checked (requested patch document current)
  let rollback := values.filterMap fun key _ => current[key]?
  match ← caught (commit world values current document generation) with
  | .ok state => return state
  | .error failure => restore world rollback generation failure

end Service

end BarDaemon.FocusSettings
