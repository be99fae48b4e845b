import BarDaemon.CharacterLists
import BarDaemon.FallibleSteps
import BarDaemon.MachineIntegers
import BarDaemon.SleepPolicies
import BarDaemon.UnicodeText
import Mathlib.Data.List.DropRight
import Mathlib.Data.List.Infix
import Mathlib.Data.List.SplitOn

/-!
# Sleep listeners of the idle daemon

The base configuration of the idle daemon is copied line by line, without the
listener blocks that suspend or hibernate.
-/

namespace BarDaemon.SleepListeners

open CharacterLists FallibleSteps SleepPolicies

/-! ### Lines -/

/-- `str::trim` -/
def trimmed (text : Text) : Text :=
  (text.dropWhile isWhitespace).rdropWhile isWhitespace

def startsWith (text beginning : Text) : Bool :=
  beginning.isPrefixOf text

/-- `str::contains` -/
def hasPart (text part : Text) : Bool :=
  text.tails.any part.isPrefixOf

/-- A line without its comment and the blanks around it. -/
def codeOf (line : Text) : Text :=
  trimmed (line.takeWhile (· ≠ '#'))

def includesSource (code : Text) : Bool :=
  startsWith code "source".toList && code.contains '='

/-- `config_code` -/
def configCode (line : Text) : Except String Text := do
  ensure (!includesSource (codeOf line))
    ("managed hypridle does not support source includes; put lock/DPMS " ++
      "listeners in the base config")
  return codeOf line

def startsListener (code : Text) : Bool :=
  startsWith code "listener".toList

def mentionsSleep (command : Text) : Bool :=
  hasPart command "suspend".toList || hasPart command "hibernate".toList ||
    hasPart command "powerSleep.".toList || hasPart command "idle-sleep".toList

/-! ### Sleep commands -/

/-- `str::split_whitespace` -/
def words (text : Text) : List Text :=
  (text.splitOnP isWhitespace).filter (!·.isEmpty)

/-- `Path::file_name` -/
def fileName (path : Text) : Option Text :=
  match ((split '/' path).filter fun part =>
      !part.isEmpty && part != ['.']).getLast? with
  | some name => if name = "..".toList then none else some name
  | none => none

def canonicalSleepCommand (command : Text) : Bool :=
  match words command with
  | [program, action] =>
      (fileName program == some "systemctl".toList ||
        fileName program == some "loginctl".toList) &&
      (action == "suspend".toList || action == "hibernate".toList ||
        action == "suspend-then-hibernate".toList)
  | _ => false

/-- `str::parse::<u32>` -/
def parseU32 (text : Text) : Option Nat :=
  let digits := if text.head? = some '+' then text.tail else text
  let number := digits.foldl
    (fun number digit => 10 * number + (digit.toNat - '0'.toNat)) 0
  if !digits.isEmpty && digits.all Char.isDigit && decide (number ≤ u32Max) then
    some number
  else none

/-! ### Listeners -/

/-- The settings of a listener block, without its first and last line. -/
def settingsOf (block : List Text) : List Text :=
  ((block.drop 1).dropLast.map codeOf).filter (!·.isEmpty)

/-- Take the settings of a block that mentions sleep. -/
def sleepSettings : Bool → Bool → List Text → Except String (Bool × Bool)
  | timeout, action, [] => .ok (timeout, action)
  | timeout, action, line :: settings =>
      match splitOnce '=' line with
      | none => .error "invalid sleep listener"
      | some (key, value) =>
          if trimmed key = "timeout".toList && !timeout &&
              (parseU32 (trimmed value)).isSome then
            sleepSettings true action settings
          else if trimmed key = "on-timeout".toList && !action &&
              canonicalSleepCommand (trimmed value) then
            sleepSettings timeout true settings
          else .error ("custom hypridle sleep listener cannot be safely " ++
            "replaced; keep only lock/DPMS listeners in the base config")

/-- `is_sleep_listener` -/
def isSleepListener (block : List Text) : Except String Bool := do
  let settings := settingsOf block
  if !settings.any mentionsSleep then return false
  else
    let found ← sleepSettings false false settings
    ensure (found.1 && found.2) "incomplete hypridle sleep listener"
    return true

/-- Copy lines; in a listener, with the lines of its block so far
(`listener_block`). -/
def copyLines : Option (List Text) → List Text → Except String (List Text)
  | none, [] => .ok []
  | some _, [] => .error "unterminated hypridle listener"
  | none, line :: rest => do
      let code ← configCode line
      if startsListener code then
        ensure (code == "listener \x7b".toList)
          "managed hypridle requires listener blocks on separate lines"
        copyLines (some [line]) rest
      else
        ensure (!mentionsSleep code) ("custom sleep command outside a " ++
          "listener; remove it before enabling managed sleep")
        let copied ← copyLines none rest
        return line :: copied
  | some block, line :: rest => do
      let code ← configCode line
      let block := block ++ [line]
      if code = "\x7d".toList then
        let sleeps ← isSleepListener block
        let copied ← copyLines none rest
        return if sleeps then copied else block ++ copied
      else
        ensure (!startsListener code && !code.contains '\x7b' &&
            !code.contains '\x7d')
          "nested or inline hypridle listeners are not supported"
        copyLines (some block) rest

/-! ### Rendering -/

/-- `quoted_executable`; a path that is not UTF-8 is none. -/
def quotedExecutable (executable : Option Text) : Except String Text :=
  match executable with
  | none => .error "bar-daemon executable path is not UTF-8"
  | some path => do
      ensure (!path.any fun char =>
          char ∈ ['\n', '\r', '#', '\x7b', '\x7d'])
        "unsupported executable path in hypridle config"
      return '\'' :: path.flatMap (fun char =>
        if char = '\'' then "'\\''".toList else [char]) ++ ['\'']

def headerLines (profile : SleepProfile) (generation : Text) : List Text :=
  ["# shelllist-idle-generation=".toList ++ generation,
    "# shelllist-idle-minutes=".toList ++ (toString profile.sleepMinutes).toList,
    "# Generated by bar-daemon; edit sleep profiles in Shelllist.".toList]

/-- Lines with a line feed after each. -/
def unlines (lines : List Text) : Text :=
  lines.flatMap (· ++ ['\n'])

def validGeneration (generation : Text) : Bool :=
  !generation.isEmpty &&
    generation.all fun char => char.isAlphanum || char == '-'

def render (base : Text) (profile : SleepProfile) (executable : Option Text)
    (generation : Text) : Except String Text := do
  ensure (validGeneration generation) "invalid idle countdown generation"
  let copied ← copyLines none (lines base)
  let _ ← quotedExecutable executable
  return unlines (headerLines profile generation) ++ unlines copied

end BarDaemon.SleepListeners
