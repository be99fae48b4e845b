import BarDaemon.DisplayOutputs
import BarDaemon.FallibleSteps

/-!
# Saved layouts and trials

Settings of single outputs, layouts of all of them, their validation against
the outputs that the compositor reports, and the document that keeps the saved
layout and the pending trial.
-/

namespace BarDaemon.Displays

open FallibleSteps

/-- The binary64 operations that are not comparisons. -/
class Decimals where
  /-- `str::parse::<f64>` on digits and dots. -/
  parse : String → Option Binary64
  /-- `format!` with two digits after the point. -/
  fixed : Binary64 → String
  /-- `(left - right).abs()`. -/
  difference : Binary64 → Binary64 → Binary64
  /-- `(f64::from(side) / scale).round().max(1.0) as i64`. -/
  span : Nat → Binary64 → Int

variable [Decimals]

/-! ### Modes -/

/-- `str::split_once` with a single character. -/
def splitOnce (separator : Char) (text : List Char) :
    Option (List Char × List Char) :=
  if separator ∈ text then
    some (text.takeWhile (· != separator),
      (text.dropWhile (· != separator)).tail)
  else none

/-- `str::parse::<u32>` on characters that are no signs. -/
def parseSide (text : List Char) : Option Nat :=
  if text.isEmpty || !text.all Char.isDigit then none
  else
    let value := text.foldl (fun total digit =>
      10 * total + (digit.toNat - '0'.toNat)) 0
    if value < 2 ^ 32 then some value else none

def modeChar (char : Char) : Bool :=
  char.isDigit || "x@.".toList.contains char

/-- `strip_suffix("Hz")`, or the whole text. -/
def withoutUnit (text : List Char) : List Char :=
  if "Hz".toList.isSuffixOf text then text.dropLast.dropLast else text

/-- Width, height and refresh rate of `1920x1080@60.00`. -/
def parseMode (value : List Char) : Option (Nat × Nat × Binary64) := do
  let parts ← splitOnce '@' value
  let sides ← splitOnce 'x' parts.1
  let width ← parseSide sides.1
  let height ← parseSide sides.2
  let refresh ← Decimals.parse (String.ofList parts.2)
  if (1 ≤ width && width ≤ 16384) && (1 ≤ height && height ≤ 16384) &&
      refresh.within (.ofBits 0x3FF0000000000000)
        (.ofBits 0x408F400000000000) then
    some (width, height, refresh)
  else none

def mode (value : String) : Option (Nat × Nat × Binary64) :=
  let value := withoutUnit value.toList
  if 40 < byteLength (String.ofList value) || !value.all modeChar then none
  else parseMode value

/-- A tenth, the tolerance between two refresh rates. -/
def tolerance : Binary64 :=
  .ofBits 0x3FB999999999999A

def sameMode (left right : String) : Bool :=
  match mode left, mode right with
  | some (width, height, refresh), some (width', height', refresh') =>
      width == width' && height == height' &&
        (Decimals.difference refresh refresh').below tolerance
  | _, _ => false

def connector (value : String) : Bool :=
  (["eDP-", "LVDS-", "DSI-", "DP-", "HDMI-A-"].any fun beginning =>
      startsWith value beginning && byteLength beginning < byteLength value) &&
    byteLength value ≤ 64 && value.toList.all connectorChar

omit [Decimals] in
theorem connector_ne_empty {value : String}
    (isConnector : connector value = true) : value ≠ "" := by
  rintro rfl
  revert isConnector
  decide

/-- `Setting::observed_mode`. -/
def observedMode (output : Output) : String :=
  toString output.width ++ "x" ++ toString output.height ++ "@" ++
    Decimals.fixed output.refreshRate

/-! What is printed of an output is read back. -/

omit [Decimals] in
theorem splitOnce_append {separator : Char} {front back : List Char}
    (fresh : separator ∉ front) :
    splitOnce separator (front ++ separator :: back) = some (front, back) := by
  have passed : ∀ char ∈ front, (char != separator) = true := by
    intro char member
    simpa using fun same : char = separator => fresh (same ▸ member)
  simp [splitOnce, List.takeWhile_append_of_pos passed,
    List.dropWhile_append_of_pos passed]

omit [Decimals] in
theorem splitOnce_eq_some {separator : Char} {text : List Char}
    {parts : List Char × List Char}
    (split : splitOnce separator text = some parts) :
    separator ∉ parts.1 ∧ text = parts.1 ++ separator :: parts.2 := by
  have present : separator ∈ text := by
    by_contra absent
    simp [splitOnce, absent] at split
  obtain ⟨front, back, rfl, fresh⟩ := List.eq_append_cons_of_mem present
  rw [splitOnce_append fresh, Option.some.injEq] at split
  subst split
  exact ⟨fresh, rfl⟩

omit [Decimals] in
theorem withoutUnit_prefix (text : List Char) : withoutUnit text <+: text := by
  unfold withoutUnit
  split
  · exact (List.dropLast_prefix _).trans (List.dropLast_prefix _)
  · exact List.prefix_rfl

omit [Decimals] in
theorem not_mem_toDigits {char : Char} (other : char.isDigit = false)
    (value : Nat) : char ∉ Nat.toDigits 10 value := by
  intro member
  rw [Nat.isDigit_of_mem_toDigits (by decide) (by decide) member] at other
  cases other

omit [Decimals] in
theorem parseSide_toDigits {value : Nat} (small : value < 2 ^ 32) :
    parseSide (Nat.toDigits 10 value) = some value := by
  have digits : (Nat.toDigits 10 value).all Char.isDigit = true := by
    rw [List.all_eq_true]
    exact fun char => Nat.isDigit_of_mem_toDigits (by decide) (by decide)
  have some : (Nat.toDigits 10 value).isEmpty = false := by
    simp
  have read : (Nat.toDigits 10 value).foldl (fun total digit =>
      10 * total + (digit.toNat - '0'.toNat)) 0 = value := by
    rw [← Nat.ofDigitChars_eq_foldl, Nat.ofDigitChars_ten_toDigits]
  simp only [parseSide, digits, some, read, small, if_true]
  rfl

/-- The printed width and height of an output. -/
def printedSize (output : Output) : List Char :=
  Nat.toDigits 10 output.width ++ 'x' :: Nat.toDigits 10 output.height

theorem toList_observedMode (output : Output) :
    (observedMode output).toList = printedSize output ++ '@' ::
      (Decimals.fixed output.refreshRate).toList := by
  simp [observedMode, printedSize, Nat.toString_eq_repr,
    Nat.repr_eq_ofList_toDigits]

omit [Decimals] in
theorem not_mem_printedSize (output : Output) :
    '@' ∉ printedSize output := by
  have fresh := not_mem_toDigits (by decide : '@'.isDigit = false)
  simp [printedSize, fresh]

omit [Decimals] in
theorem splitOnce_printedSize (output : Output) :
    splitOnce 'x' (printedSize output) =
      some (Nat.toDigits 10 output.width, Nat.toDigits 10 output.height) :=
  splitOnce_append (not_mem_toDigits (by decide) _)

/-- An output whose mode is readable has positive sides. -/
theorem positive_of_observedMode {output : Output}
    (readable : (mode (observedMode output)).isSome = true) :
    0 < output.width ∧ 0 < output.height := by
  obtain ⟨shown, isShown⟩ := Option.isSome_iff_exists.mp readable
  simp only [mode, Option.ite_none_left_eq_some] at isShown
  have parts := isShown.2
  simp only [parseMode, Option.bind_eq_bind, Option.bind_eq_some_iff] at parts
  obtain ⟨whole, split, sides, sideSplit, width, isWidth, height, isHeight,
    refresh, -, ranged⟩ := parts
  simp only [Option.ite_none_right_eq_some, Bool.and_eq_true,
    decide_eq_true_eq] at ranged
  obtain ⟨fresh, front⟩ := splitOnce_eq_some split
  obtain ⟨rest, isRest⟩ := withoutUnit_prefix (observedMode output).toList
  have size : whole.1 = printedSize output := by
    have first : splitOnce '@' (whole.1 ++ '@' :: (whole.2 ++ rest)) =
        some (whole.1, whole.2 ++ rest) := splitOnce_append fresh
    have second : splitOnce '@' (printedSize output ++ '@' ::
          (Decimals.fixed output.refreshRate).toList) = some (_, _) :=
      splitOnce_append (not_mem_printedSize output)
    rw [← toList_observedMode, ← isRest, front, List.append_assoc,
      List.cons_append, first] at second
    simpa using congrArg (Option.map Prod.fst) second
  rw [size, splitOnce_printedSize, Option.some.injEq] at sideSplit
  subst sideSplit
  have zero := parseSide_toDigits (by decide : 0 < 2 ^ 32)
  constructor
  · by_contra none
    rw [Nat.eq_zero_of_not_pos none, zero, Option.some.injEq] at isWidth
    omega
  · by_contra none
    rw [Nat.eq_zero_of_not_pos none, zero, Option.some.injEq] at isHeight
    omega

omit [Decimals] in
theorem withoutUnit_of_modeChars {text : List Char}
    (chars : text.all modeChar = true) : withoutUnit text = text := by
  unfold withoutUnit
  split
  · rename_i unit
    have member : 'z' ∈ text :=
      (List.isSuffixOf_iff_suffix.mp unit).subset (by decide)
    have other : modeChar 'z' = false := by decide
    rw [List.all_eq_true.mp chars 'z' member] at other
    cases other
  · rfl

omit [Decimals] in
theorem byteLength_of_modeChars {text : List Char}
    (chars : text.all modeChar = true) :
    byteLength (String.ofList text) = text.length := by
  refine byteLength_of_ascii fun char member => ?_
  have allowed := List.all_eq_true.mp chars char member
  rw [modeChar, Bool.or_eq_true] at allowed
  rcases allowed with digit | sign
  · have atMostNine : char.toNat ≤ 57 := (Char.isDigit_iff_toNat.mp digit).2
    omega
  · have cases : char = 'x' ∨ char = '@' ∨ char = '.' := by simpa using sign
    rcases cases with rfl | rfl | rfl <;> decide

/-- The mode of a legible output is read back. -/
theorem mode_observedMode {output : Output} {shown : Binary64}
    (width : 1 ≤ output.width ∧ output.width ≤ 16384)
    (height : 1 ≤ output.height ∧ output.height ≤ 16384)
    (chars : (Decimals.fixed output.refreshRate).toList.all modeChar = true)
    (short : (Decimals.fixed output.refreshRate).toList.length ≤ 28)
    (read : Decimals.parse (Decimals.fixed output.refreshRate) = some shown)
    (ranged : shown.within (.ofBits 0x3FF0000000000000)
      (.ofBits 0x408F400000000000) = true) :
    mode (observedMode output) = some (output.width, output.height, shown) := by
  have digits (value : Nat) : (Nat.toDigits 10 value).all modeChar = true := by
    rw [List.all_eq_true]
    intro char member
    have digit := Nat.isDigit_of_mem_toDigits (by decide) (by decide) member
    simp [modeChar, digit]
  have few {value : Nat} (bound : value ≤ 16384) :
      (Nat.toDigits 10 value).length ≤ 5 :=
    (Nat.length_toDigits_le_iff (by decide) (by decide)).mpr (by omega)
  have allChars : (observedMode output).toList.all modeChar = true := by
    rw [toList_observedMode, printedSize]
    simp only [List.all_append, List.all_cons, digits, chars]
    decide
  have length : (observedMode output).toList.length ≤ 40 := by
    have widthLength := few width.2
    have heightLength := few height.2
    rw [toList_observedMode, printedSize]
    simp only [List.length_append, List.length_cons]
    omega
  have parsed : parseMode (observedMode output).toList =
      some (output.width, output.height, shown) := by
    have small {value : Nat} (bound : value ≤ 16384) : value < 2 ^ 32 := by
      omega
    rw [toList_observedMode, parseMode,
      splitOnce_append (not_mem_printedSize output)]
    simp [splitOnce_printedSize, parseSide_toDigits (small width.2),
      parseSide_toDigits (small height.2), read, width, height, ranged]
  unfold mode
  simp only [withoutUnit_of_modeChars allChars,
    byteLength_of_modeChars allChars, allChars, parsed]
  simpa using length

/-- The advertised mode closest to what the output shows, which is the first
of several equally close ones. -/
def closestMode (output : Output) : Option String :=
  let close := output.availableModes.filterMap fun id => do
    let (width, height, rate) ← mode id
    let difference := Decimals.difference rate output.refreshRate
    if width = output.width ∧ height = output.height ∧
        difference.below tolerance then
      some (id, difference)
    else none
  (close.foldl (fun best candidate =>
    match best with
    | none => some candidate
    | some kept =>
        some (if candidate.2.bits < kept.2.bits then candidate else kept))
    none).map Prod.fst

def currentMode (output : Output) : String :=
  match closestMode output with
  | some id => id
  | none =>
      if (mode (observedMode output)).isSome then observedMode output
      else if output.disabled then
        (output.availableModes.find? fun id => (mode id).isSome).getD ""
      else ""

/-! ### Settings -/

structure Setting where
  name : String
  mode : String
  x : Int
  y : Int
  scale : Binary64
  transform : Nat
  enabled : Bool
  /-- Empty for an independent desktop, otherwise a connector. -/
  mirrorOf : String
deriving DecidableEq, Repr

namespace Setting

def validate (setting : Setting) : Except String Unit :=
  if !connector setting.name then
    .error "Invalid display connector"
  else if (Displays.mode setting.mode).isNone then
    .error "Invalid display mode"
  else if !(setting.x.natAbs ≤ 32768 && setting.y.natAbs ≤ 32768) then
    .error "Display position is out of bounds"
  else if !(setting.scale.isFinite &&
      setting.scale.within (.ofBits 0x3FE0000000000000)
        (.ofBits 0x4010000000000000)) then
    .error "Display scale must be between 0.5 and 4"
  else if !(setting.transform ≤ 7) then
    .error "Invalid display rotation"
  else if !(setting.mirrorOf == "" || (connector setting.mirrorOf &&
      setting.mirrorOf != setting.name)) then
    .error "Invalid mirror source"
  else
    .ok ()

/-- What a setting that validates is made of. -/
structure Valid (setting : Setting) : Prop where
  connector : connector setting.name = true
  mode : (Displays.mode setting.mode).isSome = true
  scale : setting.scale.isFinite = true
  mirror : setting.mirrorOf ≠ "" →
    Displays.connector setting.mirrorOf = true ∧
      setting.mirrorOf ≠ setting.name

theorem validate_eq_ok {setting : Setting}
    (valid : setting.validate = .ok ()) : setting.Valid := by
  simp only [validate, refusal_eq_ok_iff] at valid
  obtain ⟨connector, mode, -, scale, -, mirror, -⟩ := valid
  refine ⟨by simpa using connector, ?_, ?_, ?_⟩
  · cases parsed : Displays.mode setting.mode with
    | none => simp [parsed] at mode
    | some shown => rfl
  · by_contra infinite
    simp [infinite] at scale
  · intro mirrored
    simpa [mirrored] using mirror

/-- An enabled desktop of its own. -/
def independent (setting : Setting) : Bool :=
  setting.enabled && setting.mirrorOf == ""

/-- `Setting::matches`. -/
def matchesOutput (setting : Setting) (output : Output)
    (outputs : List Output) : Bool :=
  let mirrorMatches :=
    if setting.mirrorOf == "" then !output.mirrored
    else (output.mirrorSource outputs).any fun source =>
      source.name == setting.mirrorOf && source.usable
  (setting.enabled != output.disabled) &&
    (!setting.enabled ||
      (mirrorMatches && sameMode setting.mode (observedMode output) &&
        (setting.mirrorOf != "" ||
          (setting.x == output.x && setting.y == output.y)) &&
        setting.scale.equals output.scale &&
        setting.transform == output.transform))

def observed (output : Output) (outputs : List Output) : Setting where
  name := output.name
  mode := currentMode output
  x := output.x
  y := output.y
  scale := output.scale
  transform := output.transform
  enabled := !output.disabled
  mirrorOf :=
    if !output.disabled && output.mirrored then
      ((output.mirrorSource outputs).map Output.name).getD output.mirrorOf
    else ""

/-- `rect` of a draft: the corner and the scaled sides. -/
def rect (setting : Setting) : Except String (Int × Int × Int × Int) :=
  match Displays.mode setting.mode with
  | none => .error "Invalid display mode"
  | some (width, height, _) =>
      let (width, height) :=
        if setting.transform % 2 == 1 then (height, width)
        else (width, height)
      .ok (setting.x, setting.y, Decimals.span width setting.scale,
        Decimals.span height setting.scale)

end Setting

/-! ### Layouts -/

structure Layout where
  outputs : List Setting
deriving DecidableEq, Repr

namespace Layout

/-- The checks of one setting against the outputs and the other settings. -/
def checkSetting (layout : Layout) (outputs : List Output)
    (seen : List String) (setting : Setting) : Except String Unit := do
  setting.validate
  if setting.name ∈ seen then
    throw "Duplicate display connector"
  match outputs.find? fun output => output.name == setting.name with
  | none => throw "Display disconnected; refresh the layout"
  | some output =>
      if setting.enabled then
        if setting.mirrorOf ≠ "" ∧ ¬ layout.outputs.any (fun source =>
            source.name == setting.mirrorOf && source.independent) then
          throw ("Mirror source must be an enabled independent display " ++
            "(no chains or cycles)")
        if ¬ (output.availableModes.any (sameMode setting.mode) ∨
            sameMode setting.mode (observedMode output)) then
          throw "Mode is not advertised by this display"

/-- Check the settings in turn and return the names seen. -/
def checkSettings (layout : Layout) (outputs : List Output) :
    List String → List Setting → Except String (List String)
  | seen, [] => .ok seen
  | seen, setting :: rest => do
      layout.checkSetting outputs seen setting
      layout.checkSettings outputs (setting.name :: seen) rest

def validate (layout : Layout) (outputs : List Output) (complete : Bool) :
    Except String Unit := do
  if layout.outputs.isEmpty ∨ 16 < layout.outputs.length then
    throw "Choose between one and sixteen outputs"
  let seen ← layout.checkSettings outputs [] layout.outputs
  if ¬ layout.outputs.any Setting.independent then
    throw "Cannot disable every display"
  if complete ∧ ¬ (outputs.filter fun output => connector output.name).all
      (fun output => seen.contains output.name) then
    throw "Display topology changed; refresh the layout"

def observed (outputs : List Output) : Layout :=
  ⟨(outputs.filter fun output => connector output.name).map fun output =>
    Setting.observed output outputs⟩

/-- The settings of present outputs.  A mirror whose source is gone becomes
independent. -/
def connected (layout : Layout) (outputs : List Output) : Layout :=
  let present := layout.outputs.filter fun setting =>
    outputs.any fun output => output.name == setting.name
  ⟨present.map fun setting =>
    if setting.mirrorOf ≠ "" ∧ ¬ outputs.any (fun output =>
        output.name == setting.mirrorOf) then
      { setting with mirrorOf := "" }
    else setting⟩

/-- Independent desktops first, mirrors second, dark outputs last. -/
def rank (setting : Setting) : Nat :=
  if !setting.enabled then 2 else if setting.mirrorOf == "" then 0 else 1

/-- `sort_by_key`, which is stable. -/
def ordered (layout : Layout) : List Setting :=
  layout.outputs.insertionSort fun left right => rank left ≤ rank right

/-- Whether a display of a draft is where the previous layout had it. -/
def unchanged (previous : Layout) (current : Setting) : Bool :=
  match (previous.outputs.filter Setting.independent).find? fun old =>
      old.name == current.name with
  | none => false
  | some old => old.rect.toOption == current.rect.toOption

def checkOverlap (previous : Layout) (first second : Setting) :
    Except String Unit := do
  let (ax, ay, aw, ah) ← first.rect
  let (bx, by', bw, bh) ← second.rect
  if ax < bx + bw ∧ bx < ax + aw ∧ ay < by' + bh ∧ by' < ay + ah then
    if ¬ (previous.unchanged first ∧ previous.unchanged second) then
      throw (first.name ++ " overlaps " ++ second.name ++
        " · arrange displays before previewing")

def checkOverlaps (previous : Layout) : List Setting → Except String Unit
  | [] => .ok ()
  | first :: rest => do
      rest.forM (checkOverlap previous first)
      checkOverlaps previous rest

def validateArrangement (next previous : Layout) : Except String Unit :=
  checkOverlaps previous (next.outputs.filter Setting.independent)

end Layout

/-! ### The document -/

structure Trial where
  id : String
  expiresAt : Nat
  proposed : Layout
  previous : Layout
deriving DecidableEq, Repr

/-- Whether a trial changes what is enabled or mirrored. -/
def Trial.changesEnablement (trial : Trial) : Bool :=
  trial.proposed.outputs.any fun setting =>
    trial.previous.outputs.any fun previous =>
      previous.name == setting.name &&
        (previous.enabled != setting.enabled ||
          previous.mirrorOf != setting.mirrorOf)

structure Document where
  manualEnablement : Bool
  saved : Layout
  trial : Option Trial
deriving DecidableEq, Repr

namespace Document

def initial : Document :=
  ⟨false, ⟨[]⟩, none⟩

/-- The saved layout as it is replayed after a topology change.  Unless the
user chose enablement by hand, laptop panels keep the state they are in. -/
def restoration (document : Document) (outputs : List Output) : Layout :=
  let present := document.saved.connected outputs
  if document.manualEnablement then present
  else
    let owned := present.outputs.map fun setting =>
      match outputs.find? fun output =>
          output.name == setting.name && output.internal with
      | some output => { setting with enabled := !output.disabled }
      | none => setting
    let disabled := (owned.filter fun setting => !setting.enabled).map
      Setting.name
    ⟨owned.map fun setting =>
      if setting.mirrorOf ∈ disabled then { setting with mirrorOf := "" }
      else setting⟩

end Document

/-- What identifies the connected hardware. -/
def topology (outputs : List Output) : List (String × Int) :=
  (outputs.map fun output => (output.name, output.id)).insertionSort
    fun left right =>
      (compare left.1 right.1).then (compare left.2 right.2) ≠ .gt

/-- What the daemon remembers of a preview and of the last saved layout it
applied.  A restart forgets it. -/
structure Runtime where
  trial : Option String
  deadline : Option Nat
  topology : List (String × Int)
  since : Option Nat
  applied : Bool
  error : Option String
  resume : Nat
deriving DecidableEq, Repr

def Runtime.initial : Runtime :=
  ⟨none, none, [], none, false, none, 0⟩

end BarDaemon.Displays
