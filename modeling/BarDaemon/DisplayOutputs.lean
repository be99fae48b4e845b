import BarDaemon.BinaryFloats
import BarDaemon.UnicodeText
import Mathlib.Data.List.Sort

/-!
# Compositor outputs and the docking planner

The outputs that the compositor reports, what their names and mirror
references mean, and the planner that decides when the laptop panel may go
dark.
-/

namespace BarDaemon.Displays

structure Output where
  id : Int
  name : String
  description : String
  width : Nat
  height : Nat
  disabled : Bool
  scale : Binary64
  refreshRate : Binary64
  x : Int
  y : Int
  transform : Nat
  availableModes : List String
  mirrorOf : String
deriving DecidableEq, Repr

/-- The characters that a connector name may hold. -/
def connectorChar (char : Char) : Bool :=
  char.isAlphanum || char == '-'

namespace Output

def internal (output : Output) : Bool :=
  ["eDP-", "LVDS-", "DSI-"].any (startsWith output.name)

def external (output : Output) : Bool :=
  ["DP-", "HDMI-A-"].any (startsWith output.name)

def active (output : Output) : Bool :=
  !output.disabled && 0 < output.width && 0 < output.height

def mirrored (output : Output) : Bool :=
  output.mirrorOf != "" && output.mirrorOf != "none" &&
    output.mirrorOf != "-1"

/-- The compositor refers to a source by its name or by its number. -/
def mirrorSource (output : Output) (outputs : List Output) : Option Output :=
  if output.mirrored then
    outputs.find? fun other =>
      other.name == output.mirrorOf || toString other.id == output.mirrorOf
  else none

/-- Whether an active output mirrors the named one. -/
def mirroredBy (outputs : List Output) (name : String) : Bool :=
  outputs.any fun other =>
    other.active &&
      (other.mirrorSource outputs).any fun source => source.name == name

def hasActiveMirrors (output : Output) (outputs : List Output) : Bool :=
  mirroredBy outputs output.name

/-- A mirror cannot keep a desktop alive after its source is disabled. -/
def usable (output : Output) : Bool :=
  output.active && !output.mirrored

/-- The checks before an automatic docking command is built. -/
def command (output : Output) (disable : Bool) : Except String Unit :=
  if !(output.internal && output.name.toList.all connectorChar) then
    .error "invalid internal connector name"
  else if disable then
    .ok ()
  else if !(output.scale.isFinite &&
      output.scale.within (.ofBits 0x3FD0000000000000)
        (.ofBits 0x4020000000000000)) then
    .error "invalid internal display scale"
  else
    .ok ()

end Output

/-! ### Docking plans -/

/-- What must stay the same of an external output while docking settles. -/
structure Signature where
  name : String
  id : Int
  width : Nat
  height : Nat
  scale : Binary64
  refreshRate : Binary64
deriving DecidableEq, Repr

namespace Signature

def ofOutput (output : Output) : Signature :=
  ⟨output.name, output.id, output.width, output.height, output.scale,
    output.refreshRate⟩

/-- The derived order: field by field, numbers with a fraction by bits. -/
def order (left right : Signature) : Ordering :=
  (compare left.name right.name)
    |>.then (compare left.id right.id)
    |>.then (compare left.width right.width)
    |>.then (compare left.height right.height)
    |>.then (compare left.scale.bits right.scale.bits)
    |>.then (compare left.refreshRate.bits right.refreshRate.bits)

end Signature

def externalSignature (outputs : List Output) : List Signature :=
  ((outputs.filter fun output => output.external && output.usable).map
    Signature.ofOutput).insertionSort fun left right =>
      left.order right ≠ .gt

/-- Instants are nanoseconds of the monotonic clock. -/
def settle : Nat :=
  5000000000

def maxObservationGap : Nat :=
  6000000000

structure Plan where
  disableInternal : Bool
  targets : List Output
  status : String
  external : List Signature
  internal : List Output

namespace Plan

def observed (plan : Plan) (current : List Output) : Bool :=
  externalSignature current == plan.external &&
    (current.filter Output.internal).length == plan.internal.length &&
    (plan.internal.all fun previous => current.any fun output =>
      output.name == previous.name && output.id == previous.id &&
        if plan.disableInternal then output.disabled else output.active) &&
    (plan.internal.isEmpty || current.any Output.usable)

def validateDisable (plan : Plan) (target : Output)
    (current : List Output) : Except String Unit :=
  if externalSignature current ≠ plan.external ∨
      ¬ current.any (fun output =>
        output.name == target.name && output.id == target.id) ∨
      target.hasActiveMirrors current then
    .error ("display topology changed before disabling the laptop " ++
      "screen; keeping the fallback")
  else
    .ok ()

end Plan

structure Planner where
  candidate : Option (List Signature × Nat)
  lastObservation : Option Nat
deriving DecidableEq, Repr

namespace Planner

/-- `Planner::default`, and a planner after `reset`. -/
def reset : Planner :=
  ⟨none, none⟩

/-- Forget everything after a gap, then note the observation. -/
def observing (planner : Planner) (now : Nat) : Planner :=
  let kept :=
    if planner.lastObservation.any fun previous =>
        maxObservationGap < now - previous then
      reset
    else planner
  { kept with lastObservation := some now }

/-- The candidate that stands for the external outputs seen now. -/
def settling (planner : Planner) (external : List Signature) (now : Nat) :
    List Signature × Nat :=
  match planner.candidate with
  | none => (external, now)
  | some (previous, since) =>
      if previous = external then (previous, since) else (external, now)

def targets (disableInternal : Bool) (outputs : List Output) :
    List Output :=
  outputs.filter fun output =>
    output.internal &&
      if disableInternal then
        output.usable && !output.hasActiveMirrors outputs
      else
        !output.active || (output.mirrored && !outputs.any Output.usable)

def plan (planner : Planner) (preferExternal : Bool)
    (outputs : List Output) (now : Nat) : Plan × Planner :=
  let planner := planner.observing now
  let external := externalSignature outputs
  let ((disableInternal, status), planner) :=
    if !preferExternal then
      ((false, "all-displays"), { planner with candidate := none })
    else if external.isEmpty then
      ((false, "internal"), { planner with candidate := none })
    else
      let candidate := planner.settling external now
      ((if settle ≤ now - candidate.2 then (true, "external")
        else (false, "settling")),
        { planner with candidate := some candidate })
  (⟨disableInternal, targets disableInternal outputs, status, external,
    outputs.filter Output.internal⟩, planner)

end Planner

end BarDaemon.Displays
