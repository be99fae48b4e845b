import BarDaemon.Attempts
import BarDaemon.BatteryEffects
import BarDaemon.SleepListeners

/-!
# The writer of the charge thresholds

The privileged helper works on the files of the batteries.  A write may be
refused by the driver behind a file, and a driver may report something else
than what has been written.
-/

namespace BarDaemon.BatteryProtection

open Attempt CharacterLists SleepListeners
open FallibleSteps (ok_bind)
open Effect (ThresholdWriteResult)

/-- The files of a battery. -/
inductive File
  | kind
  | startThreshold
  | endThreshold
  | chargeBehaviour
deriving DecidableEq, Repr

def File.name : File → String
  | .kind => "type"
  | .startThreshold => "charge_control_start_threshold"
  | .endThreshold => "charge_control_end_threshold"
  | .chargeBehaviour => "charge_behaviour"

/-- The directory of the power supplies, with the drivers behind its files. -/
structure PowerSupplies (Hardware : Type) where
  root : String
  read : Hardware → String → File → Except String Text
  isFile : Hardware → String → File → Bool
  write : String → File → Text → Hardware → Except String Hardware

namespace ThresholdWriter

variable {Hardware : Type} (supplies : PowerSupplies Hardware)

/-- A failure is told by its outermost context. -/
def context {Value : Type} (text : String) (outcome : Except String Value) :
    Except String Value :=
  outcome.mapError fun _ => text

def path (battery : String) (file : File) : String :=
  supplies.root ++ "/" ++ battery ++ "/" ++ file.name

/-! ### Reading -/

def batteryDirectory (hardware : Hardware) (battery : String) :
    Except String Unit := do
  validateBatteryId battery
  let supplyType ← context ("read battery type for " ++ battery)
    (supplies.read hardware battery .kind)
  if trimmed supplyType = "Battery".toList then return ()
  else .error ("power supply " ++ battery ++ " is not a battery")

def hasFile (hardware : Hardware) (battery : String)
    (file : File) : Except String Unit :=
  if supplies.isFile hardware battery file then .ok ()
  else .error ("battery " ++ battery ++ " does not support " ++
    file.name)

def thresholdDirectory (hardware : Hardware) (battery : String) :
    Except String Unit := do
  batteryDirectory supplies hardware battery
  hasFile supplies hardware battery .startThreshold
  hasFile supplies hardware battery .endThreshold

/-- `str::parse::<u8>`, and no more than a hundred. -/
def percentOf (path : String) (contents : Text) : Except String Nat :=
  match parseU32 (trimmed contents) with
  | none => .error ("parse " ++ path)
  | some value =>
      if 255 < value then .error ("parse " ++ path)
      else if 100 < value then
        .error (path ++ " contains an invalid percentage")
      else .ok value

def readPercent (hardware : Hardware) (battery : String)
    (file : File) : Except String Nat := do
  let contents ← context ("read " ++ path supplies battery file)
    (supplies.read hardware battery file)
  percentOf (path supplies battery file) contents

def getThresholds (hardware : Hardware) (battery : String) :
    Except String Thresholds := do
  thresholdDirectory supplies hardware battery
  let start ← readPercent supplies hardware battery .startThreshold
  let finish ← readPercent supplies hardware battery .endThreshold
  return (start, finish)

/-! ### Writing -/

/-- Read the files as they are now. -/
def reading {Value : Type} (outcome : Hardware → Except String Value) :
    Attempt Hardware String Value := fun hardware =>
  (outcome hardware, hardware)

def writeFile (battery : String) (file : File) (contents : Text) :
    Attempt Hardware String Unit := fun hardware =>
  match supplies.write battery file contents hardware with
  | .ok after => (.ok (), after)
  | .error _ =>
      (.error ("write " ++ path supplies battery file), hardware)

def writePercent (battery : String) (file : File) (value : Nat) :
    Attempt Hardware String Unit :=
  writeFile supplies battery file (toString value).toList

/-- A write that is taken back when the next one is refused. -/
structure OrderedWrites where
  first : File
  firstValue : Nat
  second : File
  secondValue : Nat
  rollbackValue : Nat

/-- The start never reaches the end between the two writes. -/
def orderedWrites (current target : Thresholds) : OrderedWrites :=
  if current.2 ≤ target.1 then
    ⟨.endThreshold, target.2, .startThreshold, target.1, current.2⟩
  else ⟨.startThreshold, target.1, .endThreshold, target.2, current.1⟩

def writeBoth (battery : String) (writes : OrderedWrites) :
    Attempt Hardware String Unit := do
  writePercent supplies battery writes.first writes.firstValue
  match ← catching some
      (writePercent supplies battery writes.second writes.secondValue) with
  | .ok _ => return ()
  | .error _ => do
      match ← catching some
          (writePercent supplies battery writes.first writes.rollbackValue)
        with
      | .ok _ =>
          fail "second threshold write failed; first write rolled back"
      | .error error =>
          fail ("second threshold write failed and rollback also failed: " ++
            error)

def setThresholds (battery : String) (target : Thresholds) :
    Attempt Hardware String ThresholdWriteResult := do
  ensure (validThresholds target.1 target.2)
    "thresholds must satisfy 0 <= start < end <= 100"
  let current ← reading (getThresholds supplies · battery)
  if current = target then return ⟨target, true⟩
  else do
    writeBoth supplies battery (orderedWrites current target)
    let actual ← reading (getThresholds supplies · battery)
    return ⟨actual, actual == target⟩

/-! ### The charge behaviour -/

def isBracket (char : Char) : Bool :=
  char == '[' || char == ']'

/-- `str::trim_matches` of the brackets. -/
def unbracketed (word : Text) : Text :=
  (word.dropWhile isBracket).rdropWhile isBracket

/-- The word stands in brackets. -/
def isSelected (word : Text) : Bool :=
  word.head? == some '[' && word.getLast? == some ']'

def parseChoices (contents : Text) : Except String (Text × List Text) :=
  let choices := ((words contents).map unbracketed).filter (!·.isEmpty)
  let selected := match (words contents).find? isSelected, choices with
    | some word, _ => some (unbracketed word)
    | none, [choice] => some choice
    | none, _ => none
  match selected with
  | some selected => .ok (selected, choices)
  | none =>
      .error "charge_behaviour does not identify its selected value"

def getChargeBehaviour (hardware : Hardware) (battery : String) :
    Except String (Text × List Text) := do
  batteryDirectory supplies hardware battery
  let contents ← supplies.read hardware battery .chargeBehaviour
  parseChoices contents

def isBehaviour (behaviour : String) : Bool :=
  behaviour == "auto" || behaviour == "inhibit-charge" ||
    behaviour == "inhibit-charge-awake" || behaviour == "force-discharge"

def setChargeBehaviour (battery behaviour : String) :
    Attempt Hardware String Text := do
  ensure (isBehaviour behaviour)
    ("unsupported charge behaviour: " ++ behaviour)
  let choices ← reading (getChargeBehaviour supplies · battery)
  ensure (choices.2.contains behaviour.toList) ("battery " ++ battery ++
    " does not support charge behaviour " ++ behaviour)
  writeFile supplies battery .chargeBehaviour behaviour.toList
  let contents ← reading (supplies.read · battery .chargeBehaviour)
  let actual ← lift id (parseChoices contents)
  ensure (actual.1 == behaviour.toList) ("battery " ++ battery ++
    " reported charge behaviour " ++ String.ofList actual.1 ++
    " after requesting " ++ behaviour)
  return actual.1

/-! ### Drivers -/

def Writes (battery : String) (file : File) (value : Nat)
    (hardware after : Hardware) : Prop :=
  supplies.write battery file (toString value).toList hardware = .ok after

def Refuses (battery : String) (file : File) (value : Nat)
    (hardware : Hardware) : Prop :=
  ∃ message, supplies.write battery file (toString value).toList hardware =
    .error message

/-- What has been written is reported, and nothing else changes. -/
structure Faithful : Prop where
  reports : ∀ battery file value hardware after, value ≤ 100 →
    Writes supplies battery file value hardware after →
    readPercent supplies after battery file = .ok value
  keeps : ∀ battery file contents hardware after,
    supplies.write battery file contents hardware = .ok after →
    ∀ other place, other ≠ battery ∨ place ≠ file →
      supplies.read after other place = supplies.read hardware other place
  files : ∀ battery file contents hardware after,
    supplies.write battery file contents hardware = .ok after →
    supplies.isFile after = supplies.isFile hardware

/-- Thresholds are taken as long as the start stays below the end. -/
def Accepts (battery : String) : Prop :=
  ∀ hardware start finish,
    getThresholds supplies hardware battery = .ok (start, finish) →
    (∀ value, validThresholds value finish = true →
      ∃ after, Writes supplies battery .startThreshold value hardware after) ∧
    ∀ value, validThresholds start value = true →
      ∃ after, Writes supplies battery .endThreshold value hardware after

variable {supplies} {battery : String} {hardware middle after : Hardware}
  {file : File} {value : Nat}

theorem writePercent_of_writes
    (writes : Writes supplies battery file value hardware after) :
    writePercent supplies battery file value hardware =
      (.ok (), after) := by
  rw [Writes] at writes
  rw [writePercent, writeFile, writes]

theorem writePercent_of_refuses
    (refuses : Refuses supplies battery file value hardware) :
    writePercent supplies battery file value hardware =
      (.error ("write " ++ path supplies battery file), hardware) := by
  obtain ⟨message, refused⟩ := refuses
  rw [writePercent, writeFile, refused]

theorem writes_or_refuses (battery : String) (file : File) (value : Nat)
    (hardware : Hardware) :
    (∃ after, Writes supplies battery file value hardware after) ∨
      Refuses supplies battery file value hardware := by
  cases written :
      supplies.write battery file (toString value).toList hardware with
  | ok after => exact .inl ⟨after, written⟩
  | error message => exact .inr ⟨message, written⟩

/-- What two ordered writes may come to. -/
inductive Outcome (files : PowerSupplies Hardware) (id : String)
    (writes : OrderedWrites) (before : Hardware) :
    Except String Unit × Hardware → Prop
  | nothing (message : String) :
      Outcome files id writes before (.error message, before)
  | both {between last : Hardware} :
      Writes files id writes.first writes.firstValue before between →
      Writes files id writes.second writes.secondValue between last →
      Outcome files id writes before (.ok (), last)
  | back (message : String) {between last : Hardware} :
      Writes files id writes.first writes.firstValue before between →
      Writes files id writes.first writes.rollbackValue between last →
      Outcome files id writes before (.error message, last)
  | stuck (message : String) {between : Hardware} :
      Refuses files id writes.first writes.rollbackValue between →
      Outcome files id writes before (.error message, between)

theorem writeBoth_eq_ok {writes : OrderedWrites}
    (first : Writes supplies battery writes.first writes.firstValue hardware
      middle)
    (second : Writes supplies battery writes.second writes.secondValue middle
      after) :
    writeBoth supplies battery writes hardware = (.ok (), after) := by
  simp [writeBoth, bind_apply, catching, writePercent_of_writes first,
    writePercent_of_writes second]

theorem writeBoth_eq_back {writes : OrderedWrites}
    (first : Writes supplies battery writes.first writes.firstValue hardware
      middle)
    (second : Refuses supplies battery writes.second writes.secondValue
      middle)
    (rollback : Writes supplies battery writes.first writes.rollbackValue
      middle after) :
    writeBoth supplies battery writes hardware =
      (.error "second threshold write failed; first write rolled back",
        after) := by
  simp [writeBoth, bind_apply, catching, fail, writePercent_of_writes first,
    writePercent_of_refuses second, writePercent_of_writes rollback]

theorem writeBoth_eq_stuck {writes : OrderedWrites}
    (first : Writes supplies battery writes.first writes.firstValue hardware
      middle)
    (second : Refuses supplies battery writes.second writes.secondValue
      middle)
    (rollback : Refuses supplies battery writes.first writes.rollbackValue
      middle) :
    writeBoth supplies battery writes hardware =
      (.error ("second threshold write failed and rollback also failed: " ++
        ("write " ++ path supplies battery writes.first)), middle) := by
  simp [writeBoth, bind_apply, catching, fail, writePercent_of_writes first,
    writePercent_of_refuses second, writePercent_of_refuses rollback]

theorem writeBoth_eq_nothing {writes : OrderedWrites}
    (first : Refuses supplies battery writes.first writes.firstValue
      hardware) :
    writeBoth supplies battery writes hardware =
      (.error ("write " ++ path supplies battery writes.first),
        hardware) := by
  simp [writeBoth, bind_apply, writePercent_of_refuses first]

theorem writeBoth_outcome (battery : String) (writes : OrderedWrites)
    (hardware : Hardware) :
    Outcome supplies battery writes hardware
      (writeBoth supplies battery writes hardware) := by
  rcases writes_or_refuses battery writes.first writes.firstValue hardware with
    ⟨middle, first⟩ | first
  · rcases writes_or_refuses battery writes.second writes.secondValue middle
      with ⟨after, second⟩ | second
    · rw [writeBoth_eq_ok first second]
      exact .both first second
    · rcases writes_or_refuses battery writes.first writes.rollbackValue
        middle with ⟨after, rollback⟩ | rollback
      · rw [writeBoth_eq_back first second rollback]
        exact .back _ first rollback
      · rw [writeBoth_eq_stuck first second rollback]
        exact .stuck _ rollback
  · rw [writeBoth_eq_nothing first]
    exact .nothing _

/-! ### The thresholds after a write -/

theorem getThresholds_eq_ok_iff {current : Thresholds} :
    getThresholds supplies hardware battery = .ok current ↔
      thresholdDirectory supplies hardware battery = .ok () ∧
        readPercent supplies hardware battery .startThreshold =
          .ok current.1 ∧
        readPercent supplies hardware battery .endThreshold =
          .ok current.2 := by
  rw [getThresholds, FallibleSteps.bind_eq_ok_iff]
  constructor
  · rintro ⟨⟨⟩, directory, found⟩
    rw [FallibleSteps.bind_eq_ok_iff] at found
    obtain ⟨start, first, found⟩ := found
    rw [FallibleSteps.bind_eq_ok_iff] at found
    obtain ⟨finish, second, same⟩ := found
    cases same
    exact ⟨directory, first, second⟩
  · rintro ⟨directory, first, second⟩
    refine ⟨(), directory, ?_⟩
    rw [first, ok_bind, second, ok_bind]
    rfl

theorem percentOf_le {path : String} {contents : Text} {value : Nat}
    (read : percentOf path contents = .ok value) : value ≤ 100 := by
  rw [percentOf] at read
  split at read
  · cases read
  · split_ifs at read with _ small
    cases read
    omega

theorem readPercent_of_read {contents : Text}
    (found : supplies.read hardware battery file = .ok contents) :
    readPercent supplies hardware battery file =
      percentOf (path supplies battery file) contents := by
  rw [readPercent, found]
  rfl

theorem readPercent_le
    (read : readPercent supplies hardware battery file = .ok value) :
    value ≤ 100 := by
  rw [readPercent, FallibleSteps.bind_eq_ok_iff] at read
  obtain ⟨_, _, parsed⟩ := read
  exact percentOf_le parsed

/-- A threshold has been set. -/
def replaced (file : File) (value : Nat) (current : Thresholds) :
    Thresholds :=
  if file = .startThreshold then (value, current.2) else (current.1, value)

def IsThreshold (file : File) : Prop :=
  file = .startThreshold ∨ file = .endThreshold

section Faithful

variable {current target : Thresholds} (faithful : Faithful supplies)
include faithful

theorem thresholdDirectory_written (threshold : IsThreshold file)
    (writes : Writes supplies battery file value hardware after) :
    thresholdDirectory supplies after battery =
      thresholdDirectory supplies hardware battery := by
  have kind : File.kind ≠ file := by
    rcases threshold with rfl | rfl
    · decide
    · decide
  have supply := faithful.keeps battery file _ hardware after writes battery
    .kind (.inr kind)
  have files := faithful.files battery file _ hardware after writes
  simp only [thresholdDirectory, batteryDirectory, hasFile, supply, files]

theorem getThresholds_written (threshold : IsThreshold file)
    (small : value ≤ 100)
    (writes : Writes supplies battery file value hardware after)
    (found : getThresholds supplies hardware battery = .ok current) :
    getThresholds supplies after battery =
      .ok (replaced file value current) := by
  rw [getThresholds_eq_ok_iff] at found ⊢
  obtain ⟨directory, start, finish⟩ := found
  have reports := faithful.reports battery file value hardware after small
    writes
  have keeps := faithful.keeps battery file _ hardware after writes battery
  refine ⟨(thresholdDirectory_written faithful threshold writes).trans
    directory, ?_⟩
  rcases threshold with rfl | rfl
  · refine ⟨reports, ?_⟩
    rw [readPercent, keeps .endThreshold (.inr (by decide))]
    exact finish
  · refine ⟨?_, reports⟩
    rw [readPercent, keeps .startThreshold (.inr (by decide))]
    exact start

end Faithful

theorem orderedWrites_first (current target : Thresholds) :
    IsThreshold (orderedWrites current target).first := by
  rw [orderedWrites]
  split_ifs
  · exact .inr rfl
  · exact .inl rfl

theorem orderedWrites_second (current target : Thresholds) :
    IsThreshold (orderedWrites current target).second := by
  rw [orderedWrites]
  split_ifs
  · exact .inl rfl
  · exact .inr rfl

theorem replaced_orderedWrites (current target : Thresholds) :
    replaced (orderedWrites current target).second
        (orderedWrites current target).secondValue
      (replaced (orderedWrites current target).first
        (orderedWrites current target).firstValue current) = target := by
  rw [orderedWrites]
  split_ifs
  · rfl
  · rfl

theorem replaced_first (current target : Thresholds) :
    replaced (orderedWrites current target).first
        (orderedWrites current target).firstValue current =
      if current.2 ≤ target.1 then (current.1, target.2)
      else (target.1, current.2) := by
  rw [orderedWrites]
  split_ifs
  · rfl
  · rfl

theorem replaced_rollback (current target : Thresholds) (value : Nat) :
    replaced (orderedWrites current target).first
        (orderedWrites current target).rollbackValue
      (replaced (orderedWrites current target).first value current) =
        current := by
  rw [orderedWrites]
  split_ifs
  · rfl
  · rfl

/-! ### Plain files -/

/-- A directory of plain files, as a driver that takes every percentage. -/
def plainFiles : PowerSupplies (String → File → Option Text) where
  root := "/sys/class/power_supply"
  read files battery file :=
    match files battery file with
    | some contents => .ok contents
    | none => .error "No such file or directory (os error 2)"
  isFile files battery file := (files battery file).isSome
  write battery file contents files :=
    if (files battery file).isSome then
      .ok fun other place =>
        if other = battery ∧ place = file then some contents
        else files other place
    else .error "Permission denied (os error 13)"

theorem trimmed_eq_self {text : Text}
    (solid : ∀ char ∈ text, isWhitespace char = false) :
    trimmed text = text := by
  rw [trimmed, List.dropWhile_eq_self_iff.mpr,
    List.rdropWhile_eq_self_iff.mpr]
  · intro nonempty
    simp [solid _ (List.getLast_mem nonempty)]
  · intro nonempty
    simp [solid _ (List.getElem_mem nonempty)]

theorem isWhitespace_of_isDigit {char : Char}
    (digit : char.isDigit = true) : isWhitespace char = false := by
  simp only [Char.isDigit, Bool.and_eq_true, decide_eq_true_eq,
    UInt32.le_iff_toNat_le] at digit
  have low : 48 ≤ char.toNat := digit.1
  have high : char.toNat ≤ 57 := digit.2
  simp only [isWhitespace, Bool.or_eq_false_iff, Bool.and_eq_false_iff,
    decide_eq_false_iff_not, beq_eq_false_iff_ne]
  omega

theorem isDigit_toString {number : Nat} {char : Char}
    (member : char ∈ (toString number).toList) : char.isDigit = true := by
  rw [Nat.toString_eq_ofList_toDigits, String.toList_ofList] at member
  exact Nat.isDigit_of_mem_toDigits (by decide) (by decide) member

theorem parseU32_toString {number : Nat} (fits : number ≤ u32Max) :
    parseU32 (toString number).toList = some number := by
  have unsigned : (toString number).toList.head? ≠ some '+' := by
    intro plus
    have digit := isDigit_toString (List.mem_of_head? plus)
    revert digit
    decide
  have digits : (toString number).toList.all Char.isDigit = true :=
    List.all_eq_true.mpr fun char => isDigit_toString
  have value : (toString number).toList.foldl
      (fun number digit => 10 * number + (digit.toNat - '0'.toNat)) 0 =
        number := by
    rw [Nat.toString_eq_ofList_toDigits, String.toList_ofList]
    exact Nat.ofDigitChars_ten_toDigits
  have nonempty : (toString number).toList.isEmpty = false := by
    rw [Nat.toString_eq_ofList_toDigits, String.toList_ofList,
      List.isEmpty_eq_false_iff]
    exact Nat.toDigits_ne_nil
  simp only [parseU32, if_neg unsigned, digits, value, nonempty]
  simp [fits]

theorem percentOf_toString {value : Nat} (small : value ≤ 100)
    (path : String) :
    percentOf path (toString value).toList = .ok value := by
  have fits : value ≤ u32Max := small.trans (by decide)
  rw [percentOf, trimmed_eq_self fun char member =>
    isWhitespace_of_isDigit (isDigit_toString member), parseU32_toString fits]
  have byte : ¬ 255 < value := by omega
  have percent : ¬ 100 < value := by omega
  simp [byte, percent]

theorem faithful_plainFiles : Faithful plainFiles where
  reports battery file value files after small written := by
    simp only [Writes, plainFiles] at written
    split_ifs at written
    cases written
    rw [@readPercent_of_read _ plainFiles battery _ file
      (toString value).toList]
    · exact percentOf_toString small _
    · simp [plainFiles]
  keeps battery file contents files after written other place different := by
    simp only [plainFiles] at written
    split_ifs at written
    cases written
    have elsewhere : ¬ (other = battery ∧ place = file) := by
      rintro ⟨rfl, rfl⟩
      simp at different
    simp [plainFiles, elsewhere]
  files battery file contents files after written := by
    simp only [plainFiles] at written
    split_ifs at written with present
    cases written
    funext other place
    by_cases here : other = battery ∧ place = file
    · obtain ⟨rfl, rfl⟩ := here
      simpa [plainFiles] using present.symm
    · simp [plainFiles, here]

theorem accepts_plainFiles (battery : String) :
    Accepts plainFiles battery := by
  intro files start finish found
  obtain ⟨_, first, second⟩ := getThresholds_eq_ok_iff.mp found
  have writes : ∀ file value other,
      readPercent plainFiles files battery file = .ok other →
      ∃ after, Writes plainFiles battery file value files after := by
    intro file value other read
    cases present : files battery file with
    | none =>
        simp [readPercent, plainFiles, present, context, Except.mapError]
          at read
        cases read
    | some contents => simp [Writes, plainFiles, present]
  exact ⟨fun value _ => writes _ value _ first,
    fun value _ => writes _ value _ second⟩

/-- A battery whose charging is limited. -/
def limited : String → File → Option Text := fun battery file =>
  if battery = "BAT0" then
    match file with
    | .kind => some "Battery\n".toList
    | .startThreshold => some "75\n".toList
    | .endThreshold => some "80\n".toList
    | .chargeBehaviour =>
        some "[auto] inhibit-charge force-discharge\n".toList
  else none

theorem getThresholds_limited :
    getThresholds plainFiles limited "BAT0" = .ok (75, 80) := by
  decide

/-! ### Setting the thresholds -/

/-- The files of the other batteries are as before. -/
def Elsewhere (supplies : PowerSupplies Hardware) (battery : String)
    (hardware after : Hardware) : Prop :=
  ∀ other, other ≠ battery → ∀ file,
    supplies.read after other file = supplies.read hardware other file

instance : Std.Refl (Elsewhere supplies battery) where
  refl _ _ _ _ := rfl

instance : IsTrans Hardware (Elsewhere supplies battery) where
  trans _ _ _ first second other different file :=
    (second other different file).trans (first other different file)

theorem within_reading {Value : Type}
    (outcome : Hardware → Except String Value) :
    Within (Elsewhere supplies battery) (reading outcome) :=
  fun hardware => refl_of (Elsewhere supplies battery) hardware

theorem Faithful.within_writeFile (faithful : Faithful supplies)
    (file : File) (contents : Text) :
    Within (Elsewhere supplies battery)
      (writeFile supplies battery file contents) := by
  intro hardware
  rw [writeFile]
  cases written : supplies.write battery file contents hardware with
  | ok after =>
      exact fun other different place =>
        faithful.keeps battery file contents hardware after written other
          place (.inl different)
  | error message => exact refl_of (Elsewhere supplies battery) hardware

theorem Faithful.within_writeBoth (faithful : Faithful supplies)
    (writes : OrderedWrites) :
    Within (Elsewhere supplies battery)
      (writeBoth supplies battery writes) := by
  apply (faithful.within_writeFile _ _).bind
  intro _
  apply (faithful.within_writeFile _ _).catching.bind
  intro second
  cases second with
  | ok _ => exact within_pure ()
  | error _ =>
      apply (faithful.within_writeFile _ _).catching.bind
      intro rollback
      cases rollback with
      | ok _ => exact within_fail _
      | error message => exact within_fail _

theorem Faithful.within_setThresholds (faithful : Faithful supplies)
    (target : Thresholds) :
    Within (Elsewhere supplies battery)
      (setThresholds supplies battery target) := by
  apply Within.bind
  · exact within_ensure _ _
  · intro _
    apply (within_reading _).bind
    intro current
    apply Within.ite
    · exact within_pure _
    · apply (faithful.within_writeBoth _).bind
      intro _
      exact (within_reading _).bind fun _ => within_pure _

variable {current target : Thresholds}

theorem setThresholds_of_invalid
    (invalid : validThresholds target.1 target.2 = false) :
    setThresholds supplies battery target hardware =
      (.error "thresholds must satisfy 0 <= start < end <= 100",
        hardware) := by
  simp [setThresholds, bind_apply, ensure, fail, invalid]

theorem setThresholds_of_error {message : String}
    (valid : validThresholds target.1 target.2 = true)
    (unread : getThresholds supplies hardware battery = .error message) :
    setThresholds supplies battery target hardware =
      (.error message, hardware) := by
  simp [setThresholds, bind_apply, ensure, reading, valid, unread]

theorem setThresholds_of_same
    (valid : validThresholds target.1 target.2 = true)
    (found : getThresholds supplies hardware battery = .ok target) :
    setThresholds supplies battery target hardware =
      (.ok ⟨target, true⟩, hardware) := by
  simp [setThresholds, bind_apply, ensure, reading, valid, found]

theorem setThresholds_of_different
    (valid : validThresholds target.1 target.2 = true)
    (found : getThresholds supplies hardware battery = .ok current)
    (different : current ≠ target) :
    setThresholds supplies battery target hardware =
      (writeBoth supplies battery (orderedWrites current target) >>=
        fun _ => reading (getThresholds supplies · battery) >>=
          fun actual => pure ⟨actual, actual == target⟩) hardware := by
  simp [setThresholds, bind_apply, ensure, reading, valid, found, different]

theorem le_of_valid (valid : validThresholds target.1 target.2 = true) :
    target.1 < target.2 ∧ target.2 ≤ 100 := by
  simpa [validThresholds] using valid

theorem orderedWrites_small
    (currentSmall : current.1 ≤ 100 ∧ current.2 ≤ 100)
    (targetSmall : target.1 ≤ 100 ∧ target.2 ≤ 100) :
    (orderedWrites current target).firstValue ≤ 100 ∧
      (orderedWrites current target).secondValue ≤ 100 ∧
      (orderedWrites current target).rollbackValue ≤ 100 := by
  rw [orderedWrites]
  split_ifs
  · exact ⟨targetSmall.2, targetSmall.1, currentSmall.2⟩
  · exact ⟨targetSmall.1, targetSmall.2, currentSmall.1⟩

/-- A value that a threshold had before is refused. -/
def Stuck (supplies : PowerSupplies Hardware) (battery : String)
    (target : Thresholds) (hardware after : Hardware) : Prop :=
  ∃ current, getThresholds supplies hardware battery = .ok current ∧
    Refuses supplies battery (orderedWrites current target).first
      (orderedWrites current target).rollbackValue after

section Changing

variable (faithful : Faithful supplies)
  (valid : validThresholds target.1 target.2 = true)
  (found : getThresholds supplies hardware battery = .ok current)
  (different : current ≠ target)
include faithful valid found different

/-- Either the thresholds are as they were asked for, or as before, or the
driver has refused to take back a write. -/
theorem setThresholds_changing :
    (∃ after, setThresholds supplies battery target hardware =
        (.ok ⟨target, true⟩, after) ∧
      getThresholds supplies after battery = .ok target) ∨
    ∃ message after, setThresholds supplies battery target hardware =
        (.error message, after) ∧
      (getThresholds supplies after battery = .ok current ∨
        Stuck supplies battery target hardware after) := by
  have read := getThresholds_eq_ok_iff.mp found
  have bounds := le_of_valid valid
  obtain ⟨first, second, rollback⟩ := @orderedWrites_small current target
    ⟨readPercent_le read.2.1, readPercent_le read.2.2⟩
    ⟨by omega, bounds.2⟩
  rw [setThresholds_of_different valid found different, bind_apply]
  have outcome := @writeBoth_outcome _ supplies battery
    (orderedWrites current target) hardware
  generalize writeBoth supplies battery (orderedWrites current target)
    hardware = ended at outcome
  cases outcome with
  | nothing message => exact .inr ⟨message, hardware, rfl, .inl found⟩
  | both written later =>
      have between := getThresholds_written faithful
        (orderedWrites_first current target) first written found
      have after := getThresholds_written faithful
        (orderedWrites_second current target) second later between
      rw [replaced_orderedWrites] at after
      refine .inl ⟨_, ?_, after⟩
      simp [bind_apply, reading, after]
  | back message written later =>
      have between := getThresholds_written faithful
        (orderedWrites_first current target) first written found
      have after := getThresholds_written faithful
        (orderedWrites_first current target) rollback later between
      rw [replaced_rollback] at after
      exact .inr ⟨message, _, rfl, .inl after⟩
  | stuck message refuses =>
      exact .inr ⟨message, _, rfl, .inr ⟨current, found, refuses⟩⟩

end Changing

/-- The thresholds are set as a whole or left as before, unless the driver
refuses what one of them was, and no other battery is touched. -/
theorem setThresholds_whole (faithful : Faithful supplies) (battery : String)
    (target : Thresholds) (hardware : Hardware) :
    (∀ result after,
      setThresholds supplies battery target hardware = (.ok result, after) →
      result = ⟨target, true⟩ ∧
        validThresholds target.1 target.2 = true ∧
        getThresholds supplies after battery = .ok target) ∧
    (∀ message after,
      setThresholds supplies battery target hardware =
        (.error message, after) →
      getThresholds supplies after battery =
          getThresholds supplies hardware battery ∨
        Stuck supplies battery target hardware after) ∧
    Elsewhere supplies battery hardware
      (setThresholds supplies battery target hardware).2 := by
  have cases : (∃ after, setThresholds supplies battery target hardware =
        (.ok ⟨target, true⟩, after) ∧
      validThresholds target.1 target.2 = true ∧
      getThresholds supplies after battery = .ok target) ∨
    ∃ message after, setThresholds supplies battery target hardware =
        (.error message, after) ∧
      (getThresholds supplies after battery =
          getThresholds supplies hardware battery ∨
        Stuck supplies battery target hardware after) := by
    cases valid : validThresholds target.1 target.2 with
    | false => exact .inr ⟨_, _, setThresholds_of_invalid valid, .inl rfl⟩
    | true =>
        cases found : getThresholds supplies hardware battery with
        | error message =>
            rw [setThresholds_of_error valid found]
            exact .inr ⟨_, _, rfl, .inl found⟩
        | ok current =>
            by_cases same : current = target
            · subst same
              exact .inl ⟨_, setThresholds_of_same valid found, rfl, found⟩
            · exact (setThresholds_changing faithful valid found same).imp_left
                (Exists.imp fun _ holds => ⟨holds.1, rfl, holds.2⟩)
  refine ⟨?_, ?_, faithful.within_setThresholds target hardware⟩
  · intro result after ended
    rcases cases with ⟨last, set, holds⟩ | ⟨message, last, failed, _⟩
    · rw [set] at ended
      cases ended
      exact ⟨rfl, holds⟩
    · rw [failed] at ended
      cases ended
  · intro message after ended
    rcases cases with ⟨last, set, _⟩ | ⟨other, last, failed, holds⟩
    · rw [set] at ended
      cases ended
    · rw [failed] at ended
      cases ended
      exact holds

theorem setThresholds_whole_limited :
    (∀ result after,
      setThresholds plainFiles "BAT0" (40, 60) limited = (.ok result, after) →
      result = ⟨(40, 60), true⟩ ∧ validThresholds 40 60 = true ∧
        getThresholds plainFiles after "BAT0" = .ok (40, 60)) ∧
    (∀ message after,
      setThresholds plainFiles "BAT0" (40, 60) limited =
        (.error message, after) →
      getThresholds plainFiles after "BAT0" =
          getThresholds plainFiles limited "BAT0" ∨
        Stuck plainFiles "BAT0" (40, 60) limited after) ∧
    Elsewhere plainFiles "BAT0" limited
      (setThresholds plainFiles "BAT0" (40, 60) limited).2 :=
  setThresholds_whole faithful_plainFiles "BAT0" (40, 60) limited

/-- A driver that refuses only thresholds that cross is never asked for them:
from valid thresholds all valid ones are reached. -/
theorem setThresholds_reaches (faithful : Faithful supplies)
    (battery : String) (accepts : Accepts supplies battery)
    (hardware : Hardware) (current target : Thresholds)
    (found : getThresholds supplies hardware battery = .ok current)
    (before : validThresholds current.1 current.2 = true)
    (valid : validThresholds target.1 target.2 = true) :
    ∃ after, setThresholds supplies battery target hardware =
        (.ok ⟨target, true⟩, after) ∧
      getThresholds supplies after battery = .ok target := by
  by_cases same : current = target
  · subst same
    exact ⟨hardware, setThresholds_of_same valid found, found⟩
  · rw [setThresholds_of_different valid found same]
    have bounds := le_of_valid before
    have wanted := le_of_valid valid
    have small := @orderedWrites_small current target
      ⟨by omega, bounds.2⟩ ⟨by omega, wanted.2⟩
    have first : ∃ middle, Writes supplies battery
        (orderedWrites current target).first
        (orderedWrites current target).firstValue hardware middle := by
      have taken := accepts hardware current.1 current.2 found
      rw [orderedWrites]
      split_ifs with crossing
      · apply taken.2
        simp [validThresholds]
        omega
      · apply taken.1
        simp [validThresholds]
        omega
    obtain ⟨middle, first⟩ := first
    have between := getThresholds_written faithful
      (orderedWrites_first current target) small.1 first found
    have second : ∃ after, Writes supplies battery
        (orderedWrites current target).second
        (orderedWrites current target).secondValue middle after := by
      rw [replaced_first] at between
      rw [orderedWrites]
      split_ifs at between ⊢ with crossing
      · exact (accepts middle _ _ between).1 _ valid
      · exact (accepts middle _ _ between).2 _ valid
    obtain ⟨after, second⟩ := second
    have last := getThresholds_written faithful
      (orderedWrites_second current target) small.2.1 second between
    rw [replaced_orderedWrites] at last
    refine ⟨after, ?_, last⟩
    simp [bind_apply, writeBoth_eq_ok first second, reading, last]

theorem setThresholds_reaches_limited :
    ∃ after, setThresholds plainFiles "BAT0" (85, 90) limited =
        (.ok ⟨(85, 90), true⟩, after) ∧
      getThresholds plainFiles after "BAT0" = .ok (85, 90) :=
  setThresholds_reaches faithful_plainFiles "BAT0"
    (accepts_plainFiles "BAT0") limited (75, 80) (85, 90)
    getThresholds_limited rfl rfl

/-- Whatever the driver does, a reply is what has been read back. -/
theorem setThresholds_reports {result : ThresholdWriteResult}
    (ended : setThresholds supplies battery target hardware =
      (.ok result, after)) :
    getThresholds supplies after battery = .ok result.actual ∧
      result.verified = (result.actual == target) := by
  cases valid : validThresholds target.1 target.2 with
  | false =>
      rw [setThresholds_of_invalid valid] at ended
      cases ended
  | true =>
      cases found : getThresholds supplies hardware battery with
      | error message =>
          rw [setThresholds_of_error valid found] at ended
          cases ended
      | ok current =>
          by_cases same : current = target
          · subst same
            rw [setThresholds_of_same valid found] at ended
            cases ended
            exact ⟨found, by simp⟩
          · rw [setThresholds_of_different valid found same,
              Attempt.bind_eq_ok_iff] at ended
            obtain ⟨_, between, _, ended⟩ := ended
            rw [Attempt.bind_eq_ok_iff] at ended
            obtain ⟨actual, _, read, ended⟩ := ended
            obtain ⟨found, rfl⟩ := Prod.mk.inj read
            cases ended
            exact ⟨found, rfl⟩

/-! ### What the daemon is told -/

/-- A failed reply may come after a partial write. -/
def reply {Value : Type} : Except String Value → Written Value
  | .ok value => .done value
  | .error _ => .unknown

theorem meets_replied (battery : String) (target : Thresholds)
    (answer : Answer) (answers : List Answer) :
    Meets (fun world => world.answers = answer :: answers)
      (Effect.setThresholds battery target)
      (fun result _ => answer.thresholds battery = .done result.actual ∧
        result.verified = (result.actual == target))
      (fun _ _ => True) := by
  have called : Meets (fun world : World =>
        world.answers = answer :: answers)
      (Effect.writeCall battery (·.thresholds battery))
      (fun actual _ => answer.thresholds battery = .done actual)
      (fun _ _ => True) := by
    have next : Meets (fun world : World =>
          world.answers = answer :: answers) Effect.nextAnswer
        (fun given _ => given = answer) (fun _ _ => True) := by
      intro world first
      simp [Effect.nextAnswer, first]
    apply next.bind
    intro given
    apply meets_of_fact fun _ holds => holds
    rintro rfl
    dsimp only
    cases ended : given.thresholds battery with
    | done actual =>
        have notes : Meets (fun _ : World => given = given)
            (Effect.note (.answered battery)) (fun _ _ => True)
            (fun _ _ => True) := meets_change fun _ _ => trivial
        exact notes.bind fun _ => meets_pure fun _ _ => rfl
    | refused message => exact meets_fail fun _ _ => trivial
    | unknown =>
        apply Meets.bind
        · exact fun world _ => by
            rcases Effect.raiseFence battery world with ⟨outcome, after⟩
            cases outcome with
            | ok value => exact trivial
            | error fault => exact trivial
        · exact fun _ => meets_fail fun _ _ => trivial
  have reads : Meets (fun world : World => world.answers = answer :: answers)
      (Attempt.read : Effect World)
      (fun _ world => world.answers = answer :: answers)
      (fun _ _ => True) := meets_read fun _ holds => holds
  apply reads.bind
  intro seen
  have asks : Meets (fun world : World => world.answers = answer :: answers)
      (Effect.note (.asked battery target seen.config seen.runtime))
      (fun _ world => world.answers = answer :: answers)
      (fun _ _ => True) := meets_change fun _ holds => holds
  apply asks.bind
  intro _
  apply called.bind
  intro actual
  apply meets_of_fact fun _ holds => holds
  intro done
  have finish : Meets (fun _ : World => True)
      (pure ⟨actual, actual == target⟩ : Effect ThresholdWriteResult)
      (fun result _ => answer.thresholds battery = .done result.actual ∧
        result.verified = (result.actual == target))
      (fun _ _ => True) := meets_pure fun _ _ => ⟨done, rfl⟩
  by_cases verified : actual = target
  · rw [if_pos verified]
    have notes : Meets (fun _ : World => answer.thresholds battery = .done actual)
        (Effect.note (.confirmed battery target)) (fun _ _ => True)
        (fun _ _ => True) := meets_change fun _ _ => trivial
    exact notes.bind fun _ => finish
  · rw [if_neg verified]
    exact finish.weaken (fun _ _ => trivial) (fun _ _ holds => holds)
      fun _ _ holds => holds

/-- The daemon takes a reply for what the writer has found, and goes on only
with thresholds that have been read back. -/
theorem setThresholds_agrees {world next : World} {answer : Answer}
    {answers : List Answer} {result : ThresholdWriteResult}
    (first : world.answers = answer :: answers)
    (replied : answer.thresholds battery =
      reply ((setThresholds supplies battery target hardware).1.map
        ThresholdWriteResult.actual))
    (told : Effect.setThresholds battery target world =
      (.ok result, next)) :
    (setThresholds supplies battery target hardware).1 = .ok result ∧
      getThresholds supplies
        (setThresholds supplies battery target hardware).2 battery =
          .ok result.actual := by
  obtain ⟨done, verified⟩ := (meets_replied battery target answer
    answers).ok first told
  rw [replied] at done
  rcases ended : setThresholds supplies battery target hardware with
    ⟨outcome, after⟩
  rw [ended] at done
  cases outcome with
  | error message => cases done
  | ok written =>
      obtain ⟨found, checked⟩ := setThresholds_reports ended
      have same : written.actual = result.actual := Written.done.inj done
      have agreed : written = result := by
        cases written
        cases result
        simp_all
      rw [agreed] at found ⊢
      exact ⟨rfl, found⟩

/-! ### The charge behaviour as drivers print it -/

/-- A name without brackets and blanks. -/
structure Plain (choice : Text) : Prop where
  nonempty : choice ≠ []
  solid : ∀ char ∈ choice, isWhitespace char = false
  bare : ∀ char ∈ choice, isBracket char = false

def bracketed (selected choice : Text) : Text :=
  if choice = selected then '[' :: (choice ++ [']']) else choice

/-- Words are told apart by blanks, and a line ends with the last. -/
def printed : List Text → Text
  | [] => []
  | [word] => word ++ ['\n']
  | word :: words => word ++ ' ' :: printed words

def choicesText (offered : List Text) (selected : Text) : Text :=
  printed (offered.map (bracketed selected))

theorem words_append {word : Text} {blank : Char} (nonempty : word ≠ [])
    (solid : ∀ char ∈ word, isWhitespace char = false)
    (blanks : isWhitespace blank = true) (rest : Text) :
    words (word ++ blank :: rest) = word :: words rest := by
  rw [words, List.splitOnP_append_cons_of_forall_mem solid _ blanks]
  simp [words, nonempty]

theorem words_printed {tokens : List Text}
    (solid : ∀ word ∈ tokens, word ≠ [] ∧
      ∀ char ∈ word, isWhitespace char = false) :
    words (printed tokens) = tokens := by
  induction tokens using printed.induct with
  | case1 => rfl
  | case2 word =>
      obtain ⟨nonempty, solid⟩ := solid word (by simp)
      rw [printed, words_append nonempty solid (by decide)]
      rfl
  | case3 word rest more ih =>
      obtain ⟨nonempty, here⟩ := solid word (by simp)
      have later := ih fun other member =>
        solid other (List.mem_cons_of_mem _ member)
      rw [printed, words_append nonempty here (by decide), later]
      exact more

namespace Plain

variable {choice selected : Text}

theorem bracketed_solid (plain : Plain choice) (selected : Text) :
    bracketed selected choice ≠ [] ∧
      ∀ char ∈ bracketed selected choice, isWhitespace char = false := by
  rw [bracketed]
  split_ifs
  · refine ⟨by simp, fun char member => ?_⟩
    rcases List.mem_cons.mp member with rfl | member
    · decide
    · rcases List.mem_append.mp member with inside | last
      · exact plain.solid char inside
      · obtain rfl := List.mem_singleton.mp last
        decide
  · exact ⟨plain.nonempty, plain.solid⟩

theorem unbracketed_eq (plain : Plain choice) :
    unbracketed choice = choice := by
  rw [unbracketed, List.dropWhile_eq_self_iff.mpr,
    List.rdropWhile_eq_self_iff.mpr]
  · intro nonempty
    simp [plain.bare _ (List.getLast_mem nonempty)]
  · intro nonempty
    simp [plain.bare _ (List.getElem_mem nonempty)]

theorem unbracketed_bracketed (plain : Plain choice) :
    unbracketed (bracketed selected choice) = choice := by
  rw [bracketed]
  split_ifs
  · have opened : (choice ++ [']']).dropWhile isBracket =
        choice ++ [']'] := by
      cases choice with
      | nil => exact absurd rfl plain.nonempty
      | cons char rest =>
          exact List.dropWhile_cons_of_neg (by simp [plain.bare char])
    rw [unbracketed, List.dropWhile_cons_of_pos (by decide), opened,
      List.rdropWhile_concat_pos _ _ _ (by decide),
      List.rdropWhile_eq_self_iff]
    intro nonempty
    simp [plain.bare _ (List.getLast_mem nonempty)]
  · exact plain.unbracketed_eq

theorem isSelected_bracketed (plain : Plain choice) :
    isSelected (bracketed selected choice) = decide (choice = selected) := by
  rw [bracketed]
  split_ifs with same
  · rw [isSelected, ← List.cons_append, List.getLast?_concat]
    simp [same]
  · have bare : choice.head? ≠ some '[' := by
      intro first
      have bracket := plain.bare _ (List.mem_of_head? first)
      revert bracket
      decide
    simp [isSelected, same, bare]

end Plain

section Offered

variable {offered : List Text} {selected : Text}
  (plain : ∀ choice ∈ offered, Plain choice) (member : selected ∈ offered)
include plain member

theorem find?_bracketed :
    (offered.map (bracketed selected)).find? isSelected =
      some (bracketed selected selected) := by
  induction offered with
  | nil => cases member
  | cons choice rest ih =>
      have selects : isSelected (bracketed selected choice) =
          decide (choice = selected) :=
        (plain choice List.mem_cons_self).isSelected_bracketed
      by_cases here : choice = selected
      · subst here
        simp [selects]
      · have later := (List.mem_cons.mp member).resolve_left (Ne.symm here)
        have found := ih (fun other among =>
          plain other (List.mem_cons_of_mem _ among)) later
        simpa [selects, here] using found

/-- What a driver prints is read back. -/
theorem parseChoices_choicesText :
    parseChoices (choicesText offered selected) =
      .ok (selected, offered) := by
  have printed : words (choicesText offered selected) =
      offered.map (bracketed selected) := by
    apply words_printed
    intro word member
    obtain ⟨choice, among, rfl⟩ := List.mem_map.mp member
    exact (plain choice among).bracketed_solid selected
  have choices : (((offered.map (bracketed selected)).map
      unbracketed).filter (!·.isEmpty)) = offered := by
    have same : ∀ choice ∈ offered,
        (unbracketed ∘ bracketed selected) choice = id choice :=
      fun choice among => (plain choice among).unbracketed_bracketed
    rw [List.map_map, List.map_congr_left same, List.map_id,
      List.filter_eq_self]
    intro choice among
    simpa using (plain choice among).nonempty
  have found := find?_bracketed plain member
  simp only [parseChoices, printed, choices, found]
  rw [(plain selected member).unbracketed_bracketed]

end Offered

/-- The driver takes what it offers, and prints it as the selected one. -/
def Reprints (supplies : PowerSupplies Hardware) (battery : String)
    (offered : List Text) : Prop :=
  ∀ hardware selected, supplies.read hardware battery .chargeBehaviour =
      .ok (choicesText offered selected) →
    ∀ behaviour ∈ offered, ∃ after,
      supplies.write battery .chargeBehaviour behaviour hardware =
        .ok after ∧
      supplies.read after battery .chargeBehaviour =
        .ok (choicesText offered behaviour)

/-- A behaviour is set where it is known and offered, and otherwise nothing is
written. -/
theorem setChargeBehaviour_offered (battery : String) (offered : List Text)
    (plain : ∀ choice ∈ offered, Plain choice)
    (reprints : Reprints supplies battery offered) (hardware : Hardware)
    (selected : Text) (member : selected ∈ offered)
    (directory : batteryDirectory supplies hardware battery = .ok ())
    (found : supplies.read hardware battery .chargeBehaviour =
      .ok (choicesText offered selected)) (behaviour : String) :
    (isBehaviour behaviour = true ∧ behaviour.toList ∈ offered →
      ∃ after, setChargeBehaviour supplies battery behaviour hardware =
          (.ok behaviour.toList, after) ∧
        supplies.read after battery .chargeBehaviour =
          .ok (choicesText offered behaviour.toList)) ∧
    (¬ (isBehaviour behaviour = true ∧ behaviour.toList ∈ offered) →
      ∃ message, setChargeBehaviour supplies battery behaviour hardware =
        (.error message, hardware)) := by
  have choices : getChargeBehaviour supplies hardware battery =
      .ok (selected, offered) := by
    rw [getChargeBehaviour, directory, ok_bind, found, ok_bind]
    exact parseChoices_choicesText plain member
  constructor
  · rintro ⟨known, offers⟩
    obtain ⟨after, written, reprinted⟩ := reprints hardware selected found
      behaviour.toList offers
    refine ⟨after, ?_, reprinted⟩
    simp [setChargeBehaviour, bind_apply, ensure, reading, lift, known,
      choices, offers, writeFile, written, reprinted,
      parseChoices_choicesText plain offers]
  · intro other
    cases known : isBehaviour behaviour with
    | false =>
        refine ⟨"unsupported charge behaviour: " ++ behaviour, ?_⟩
        simp [setChargeBehaviour, bind_apply, ensure, fail, known]
    | true =>
        have absent : behaviour.toList ∉ offered := fun offers =>
          other ⟨known, offers⟩
        refine ⟨"battery " ++ battery ++
          " does not support charge behaviour " ++ behaviour, ?_⟩
        simp [setChargeBehaviour, bind_apply, ensure, fail, reading, known,
          choices, absent]

/-- A driver whose state is the selected behaviour. -/
def printer (offered : List Text) : PowerSupplies Text where
  root := "/sys/class/power_supply"
  read selected _ file :=
    if file = .kind then .ok "Battery\n".toList
    else .ok (choicesText offered selected)
  isFile _ _ _ := true
  write _ file contents selected :=
    if file = .chargeBehaviour ∧ offered.contains contents then .ok contents
    else .error ("Invalid argument: " ++ String.ofList selected)

def behaviours : List Text :=
  ["auto".toList, "inhibit-charge".toList, "force-discharge".toList]

theorem plain_behaviours : ∀ choice ∈ behaviours, Plain choice := by
  have plain : (behaviours.all fun choice => !choice.isEmpty &&
      choice.all fun char => !isWhitespace char && !isBracket char) =
        true := by
    rfl
  intro choice member
  have checked := List.all_eq_true.mp plain choice member
  simp only [Bool.and_eq_true, Bool.not_eq_true', List.isEmpty_eq_false_iff,
    List.all_eq_true] at checked
  exact ⟨checked.1, fun char among => (checked.2 char among).1,
    fun char among => (checked.2 char among).2⟩

theorem reprints_printer (offered : List Text) (battery : String) :
    Reprints (printer offered) battery offered := by
  intro hardware selected _ behaviour member
  refine ⟨behaviour, ?_, ?_⟩
  · simp only [printer, List.contains_iff_mem, member, and_self, if_true]
  · simp only [printer, reduceCtorEq, if_false]

theorem setChargeBehaviour_offered_printer :
    (isBehaviour "force-discharge" = true ∧
        "force-discharge".toList ∈ behaviours →
      ∃ after, setChargeBehaviour (printer behaviours) "BAT0"
          "force-discharge" "auto".toList =
            (.ok "force-discharge".toList, after) ∧
        (printer behaviours).read after "BAT0" .chargeBehaviour =
          .ok (choicesText behaviours "force-discharge".toList)) ∧
    (¬ (isBehaviour "force-discharge" = true ∧
        "force-discharge".toList ∈ behaviours) →
      ∃ message, setChargeBehaviour (printer behaviours) "BAT0"
        "force-discharge" "auto".toList =
          (.error message, "auto".toList)) :=
  setChargeBehaviour_offered "BAT0" behaviours plain_behaviours
    (reprints_printer behaviours "BAT0") "auto".toList "auto".toList
    List.mem_cons_self (by decide) rfl "force-discharge"

end ThresholdWriter

end BarDaemon.BatteryProtection
