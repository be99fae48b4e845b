import BarDaemon.ClampedWalks
import Mathlib.Algebra.Order.Field.Rat
import Mathlib.Data.Rat.Floor
import Mathlib.Logic.Function.Iterate

/-!
# Audio commands

One thread takes the commands that are queued, in batches. Volumes are exact
numbers, and the devices are changed by this thread only.
-/

namespace BarDaemon.Audio

inductive AudioCommand where
  | adjust (delta : Int16)
  | setMuted (muted : Option Bool)
  | setInputMuted (muted : Option Bool)
deriving DecidableEq

structure AudioState where
  available : Bool
  sinkName : String
  sinkDescription : String
  volumePercent : Nat
  muted : Bool
  inputAvailable : Bool
  sourceName : String
  sourceDescription : String
  inputMuted : Bool
  error : Option String
deriving DecidableEq

/-! ### Devices -/

/-- A sink or a source; its volume is a fraction that may exceed 1. -/
structure Node where
  name : String
  description : String
  volume : Rat
  muted : Bool
deriving DecidableEq

/-- What PipeWire has; there may be no source, or nothing. -/
structure Devices where
  sink : Option Node
  source : Option Node
deriving DecidableEq

def audioState (sink : Node) (source : Option Node) : AudioState where
  available := true
  sinkName := sink.name
  sinkDescription := sink.description
  volumePercent := min (⌊sink.volume * 100 + 1 / 2⌋.toNat) 100
  muted := sink.muted
  inputAvailable := source.isSome
  sourceName := (source.map Node.name).getD ""
  sourceDescription := (source.map Node.description).getD ""
  inputMuted := (source.map Node.muted).getD false
  error := none

def probeDefault (devices : Devices) : Except String (Node × Option Node) :=
  match devices.sink with
  | some sink => .ok (sink, devices.source)
  | none => .error "no PipeWire audio sink is available"

/-- `clamp(0.0, 1.0)` after the delta. -/
def adjustedVolume (current : Rat) (deltaPercent : Int16) : Rat :=
  ClampedWalks.clamp 0 1 (current + (deltaPercent.toInt : Rat) / 100)

def requestedMute (current : Bool) (requested : Option Bool) : Bool :=
  requested.getD !current

abbrev Result : Type := Except String AudioState

def snapshot (devices : Devices) : Result := do
  let (sink, source) ← probeDefault devices
  return audioState sink source

/-- `execute_audio`: the devices after a command, and what it answers. -/
def execute (devices : Devices) (command : AudioCommand) : Devices × Result :=
  match probeDefault devices with
  | .error error => (devices, .error error)
  | .ok (sink, source) =>
      match command with
      | .adjust delta =>
          let sink := { sink with
            volume := adjustedVolume sink.volume delta
            muted := false }
          let devices := { devices with sink := some sink }
          (devices, snapshot devices)
      | .setMuted muted =>
          let sink := { sink with muted := requestedMute sink.muted muted }
          let devices := { devices with sink := some sink }
          (devices, snapshot devices)
      | .setInputMuted muted =>
          match source with
          | none => (devices, .error "no PipeWire audio source is available")
          | some source =>
              let source :=
                { source with muted := requestedMute source.muted muted }
              let devices := { devices with source := some source }
              (devices, snapshot devices)

/-! ### Batches -/

variable {Sender : Type}

/-- A command and where its answer goes. -/
abbrev Pending (Sender : Type) : Type := AudioCommand × Option Sender

/-- `saturating_add` of `i32` numbers. -/
def saturatingAddI32 (first second : Int) : Int :=
  max (-2147483648) (min 2147483647 (first + second))

/-- How many commands adjust the same way from here, and their sum. -/
def gather (sign : Int) : Nat → Int → List (Pending Sender) → Nat × Int
  | count, sum, (.adjust value, _) :: commands =>
      if value.toInt.sign = sign then
        gather sign (count + 1) (saturatingAddI32 sum value.toInt) commands
      else (count, sum)
  | count, sum, _ => (count, sum)

def batch (commands : List (Pending Sender)) (first : AudioCommand) :
    Nat × AudioCommand :=
  match first with
  | .adjust delta =>
      let (count, sum) := gather delta.toInt.sign 0 0 commands
      (count, .adjust (Int16.ofInt (max (-32768) (min 32767 sum))))
  | command => (1, command)

/-! ### The thread -/

/-- The devices, the state that is published, the answers that were sent and
the commands that remain. -/
structure Controller (Sender : Type) where
  devices : Devices
  audio : AudioState
  answers : List (Sender × Result)
  remaining : List (Pending Sender)

/-- `publish_audio_result`. -/
def Controller.publish (controller : Controller Sender)
    (commands : List (Pending Sender)) (result : Result) : Controller Sender :=
  { controller with
    audio :=
      match result with
      | .ok audio => audio
      | .error _ => controller.audio
    answers := controller.answers ++
      (commands.filterMap Prod.snd).map fun sender => (sender, result) }

/-- A round of the loop of `run`; `perform` executes a command. -/
def Controller.turn (perform : Devices → AudioCommand → Devices × Result)
    (controller : Controller Sender) : Controller Sender :=
  match controller.remaining with
  | [] => controller
  | (first, _) :: _ =>
      let (count, command) := batch controller.remaining first
      let (devices, result) := perform controller.devices command
      { controller.publish (controller.remaining.take count) result with
        devices := devices
        remaining := controller.remaining.drop count }

end BarDaemon.Audio
