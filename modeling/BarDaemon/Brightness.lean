import BarDaemon.FallibleSteps
import BarDaemon.MachineIntegers
import Mathlib.Data.List.Nodup

/-!
# Brightness of the backlight

Percentages are rounded to the nearest raw level, in arithmetic that stops
where a result does not fit.
-/

namespace BarDaemon.Brightness

open FallibleSteps

/-- Why an operation ends without a result. -/
inductive Stop
  /-- Arithmetic has overflowed. -/
  | overflow
  | failed (message : String)
deriving DecidableEq, Repr

/-- A result of `u128` arithmetic. -/
def wide (value : Nat) : Except Stop Nat :=
  if value < 2 ^ 128 then .ok value else .error .overflow

/-- A result of `i64` arithmetic. -/
def signed (value : Int) : Except Stop Int :=
  if -(i64Max : Int) - 1 ≤ value ∧ value ≤ i64Max then .ok value
  else .error .overflow

abbrev Percent := { value : Nat // value ≤ 100 }

/-! ### Levels -/

def percent (brightness maximum : U64) : Except Stop Percent :=
  if maximum.val = 0 then .ok ⟨0, by omega⟩
  else do
    let scaled ← wide (brightness.val * 100)
    let shifted ← wide (scaled + maximum.val / 2)
    return ⟨min (shifted / maximum.val) 100, Nat.min_le_right _ _⟩

def rawBrightness (maximum : U64) (requested : Nat) : Except Stop U64 :=
  if zero : maximum.val = 0 then .ok ⟨0, Nat.zero_le _⟩
  else do
    let scaled ← wide (maximum.val * requested)
    let shifted ← wide (scaled + 50)
    -- `as u64` keeps the low bits
    let rounded := shifted / 100 % 2 ^ 64
    return ⟨max 1 (min rounded maximum.val), by
      have bound := maximum.property
      omega⟩

/-! ### Devices -/

/-- A directory entry of the backlight root; a file that cannot be read as a
number is `none`. -/
structure Entry where
  name : String
  isDir : Bool
  maxBrightness : Option U64
  brightness : Option U64
  actualBrightness : Option U64

/-- The backlight root: a directory has no two entries of one name. -/
structure Root where
  entries : List Entry
  distinct : (entries.map Entry.name).Nodup

structure BacklightDevice where
  name : String
  brightness : U64
  maxBrightness : U64
deriving DecidableEq

structure BrightnessState where
  available : Bool
  device : String
  brightness : U64
  maxBrightness : U64
  percent : Percent
  error : Option String
deriving DecidableEq

def BacklightDevice.state (device : BacklightDevice) :
    Except Stop BrightnessState := do
  let level ← Brightness.percent device.brightness device.maxBrightness
  return ⟨true, device.name, device.brightness, device.maxBrightness, level,
    none⟩

/-- What `discover` makes of an entry. -/
def Entry.device (entry : Entry) : Option BacklightDevice :=
  if entry.isDir then
    match entry.maxBrightness, entry.brightness.or entry.actualBrightness with
    | some maximum, some brightness =>
        if 0 < maximum.val then some ⟨entry.name, brightness, maximum⟩ else none
    | _, _ => none
  else none

/-- `max_by_key`: the last of the devices with the largest range. -/
def widest (devices : List BacklightDevice) : Option BacklightDevice :=
  devices.foldl (fun best device =>
    match best with
    | none => some device
    | some kept =>
        some (if kept.maxBrightness.val ≤ device.maxBrightness.val then device
          else kept)) none

def discover (root : Root) : Except Stop BacklightDevice :=
  match widest (root.entries.filterMap Entry.device) with
  | some device => .ok device
  | none => .error (.failed "no backlight device is available")

def Entry.write (name : String) (target : U64) (entry : Entry) : Entry :=
  if entry.name = name then { entry with brightness := some target } else entry

theorem Entry.write_name (name : String) (target : U64) (entry : Entry) :
    (entry.write name target).name = entry.name := by
  unfold Entry.write
  split <;> rfl

/-- A write that takes effect exactly. -/
def write (root : Root) (name : String) (target : U64) : Root where
  entries := root.entries.map (Entry.write name target)
  distinct := by
    rw [List.map_map]
    have same : Entry.name ∘ Entry.write name target = Entry.name :=
      funext (Entry.write_name name target)
    rw [same]
    exact root.distinct

/-- `set_for_device`: the root afterwards, and the readback. -/
def setForDevice (root : Root) (device : BacklightDevice)
    (requested : Nat) : Except Stop (Root × BrightnessState) := do
  let target ← rawBrightness device.maxBrightness requested
  let root := write root device.name target
  let state ← (← discover root).state
  return (root, state)

def adjust (root : Root) (delta : Int16) :
    Except Stop (Root × BrightnessState) := do
  let device ← discover root
  let current ← percent device.brightness device.maxBrightness
  let wanted ← signed (current.val + delta.toInt)
  setForDevice root device (max 1 (min wanted 100)).toNat

def set (root : Root) (requested : UInt8) :
    Except Stop (Root × BrightnessState) := do
  if 1 ≤ requested.toNat ∧ requested.toNat ≤ 100 then
    setForDevice root (← discover root) requested.toNat
  else .error (.failed "brightness percent must be between 1 and 100")

/-! ### No arithmetic overflows -/

/-- `percent` without its checks. -/
def percentOf (brightness maximum : Nat) : Nat :=
  min ((brightness * 100 + maximum / 2) / maximum) 100

/-- `raw_brightness` without its checks. -/
def rawOf (maximum requested : Nat) : Nat :=
  max 1 (min ((maximum * requested + 50) / 100) maximum)

theorem wide_eq {value : Nat} (fits : value < 2 ^ 128) : wide value = .ok value :=
  if_pos fits

theorem percentOf_le (brightness maximum : Nat) :
    percentOf brightness maximum ≤ 100 :=
  Nat.min_le_right _ _

theorem rawOf_bounds {maximum : Nat} (positive : 0 < maximum)
    (requested : Nat) :
    1 ≤ rawOf maximum requested ∧ rawOf maximum requested ≤ maximum := by
  unfold rawOf
  omega

theorem percent_eq {brightness maximum : U64} (positive : 0 < maximum.val) :
    percent brightness maximum =
      .ok ⟨percentOf brightness.val maximum.val, percentOf_le _ _⟩ := by
  have bound := brightness.property
  have half := maximum.property
  unfold u64Max at bound half
  rw [percent, if_neg (by omega), wide_eq (by omega), ok_bind,
    wide_eq (by omega), ok_bind]
  rfl

/-- The level of a percentage. -/
def levelOf {maximum : U64} (positive : 0 < maximum.val) (requested : Nat) :
    U64 :=
  ⟨rawOf maximum.val requested,
    Nat.le_trans (rawOf_bounds positive requested).2 maximum.property⟩

theorem rawBrightness_eq {maximum : U64} (positive : 0 < maximum.val)
    {requested : Nat} (valid : requested ≤ 100) :
    rawBrightness maximum requested = .ok (levelOf positive requested) := by
  have bound := maximum.property
  unfold u64Max at bound
  have product : maximum.val * requested ≤ maximum.val * 100 :=
    Nat.mul_le_mul_left _ valid
  have fits : maximum.val * requested + 50 < 2 ^ 128 := by omega
  have low : (maximum.val * requested + 50) / 100 % 2 ^ 64 =
      (maximum.val * requested + 50) / 100 :=
    Nat.mod_eq_of_lt (by omega)
  rw [rawBrightness, dif_neg (by omega), wide_eq (by omega), ok_bind,
    wide_eq fits, ok_bind]
  refine congrArg Except.ok (Subtype.ext ?_)
  change max 1 (min ((maximum.val * requested + 50) / 100 % 2 ^ 64)
    maximum.val) = rawOf maximum.val requested
  rw [low, rawOf]

/-! ### Readback -/

theorem widest_map {change : BacklightDevice → BacklightDevice}
    (same : ∀ device, (change device).maxBrightness = device.maxBrightness)
    (devices : List BacklightDevice) :
    widest (devices.map change) = (widest devices).map change := by
  suffices general : ∀ best : Option BacklightDevice,
      (devices.map change).foldl (fun best device =>
        match best with
        | none => some device
        | some kept =>
            some (if kept.maxBrightness.val ≤ device.maxBrightness.val
              then device else kept)) (best.map change) =
      (devices.foldl (fun best device =>
        match best with
        | none => some device
        | some kept =>
            some (if kept.maxBrightness.val ≤ device.maxBrightness.val
              then device else kept)) best).map change from general none
  induction devices with
  | nil => exact fun _ => rfl
  | cons device devices ih =>
      intro best
      rw [List.map_cons, List.foldl_cons, List.foldl_cons, ← ih]
      congr 1
      cases best with
      | none => rfl
      | some kept =>
          simp only [Option.map_some, same]
          split <;> rfl

/-- What a write does to the devices. -/
def rewrite (name : String) (target : U64) (device : BacklightDevice) :
    BacklightDevice :=
  if device.name = name then { device with brightness := target } else device

theorem device_write {entry : Entry} {device : BacklightDevice}
    (found : entry.device = some device) (name : String) (target : U64) :
    (entry.write name target).device = some (rewrite name target device) := by
  unfold Entry.device at found
  split at found
  · rename_i folder
    split at found
    · rename_i maximum brightness first second
      split at found
      · rename_i positive
        cases found
        unfold rewrite Entry.write
        dsimp only
        split
        · simp [Entry.device, folder, first, positive]
        · simp [Entry.device, folder, first, second, positive]
      · cases found
    · cases found
  · cases found

theorem device_name {entry : Entry} {device : BacklightDevice}
    (found : entry.device = some device) :
    device.name = entry.name ∧ 0 < device.maxBrightness.val := by
  unfold Entry.device at found
  split at found
  · split at found
    · split at found
      · rename_i positive
        cases found
        exact ⟨rfl, positive⟩
      · cases found
    · cases found
  · cases found

theorem filterMap_write {entries : List Entry} {name : String}
    (readable : ∀ entry ∈ entries, entry.name = name →
      entry.device.isSome = true) (target : U64) :
    (entries.map (Entry.write name target)).filterMap Entry.device =
      (entries.filterMap Entry.device).map (rewrite name target) := by
  induction entries with
  | nil => rfl
  | cons entry entries ih =>
      have rest := ih fun other member =>
        readable other (List.mem_cons_of_mem entry member)
      rw [List.map_cons]
      cases found : entry.device with
      | some device =>
          rw [List.filterMap_cons_some (device_write found name target),
            List.filterMap_cons_some found, List.map_cons, rest]
      | none =>
          have other : entry.name ≠ name := by
            intro same
            have read := readable entry List.mem_cons_self same
            rw [found] at read
            cases read
          have kept : entry.write name target = entry := if_neg other
          rw [kept, List.filterMap_cons_none found,
            List.filterMap_cons_none found, rest]

theorem widest_mem {devices : List BacklightDevice} {device : BacklightDevice}
    (found : widest devices = some device) : device ∈ devices := by
  suffices general : ∀ best : Option BacklightDevice,
      devices.foldl (fun best device =>
        match best with
        | none => some device
        | some kept =>
            some (if kept.maxBrightness.val ≤ device.maxBrightness.val
              then device else kept)) best = some device →
        device ∈ devices ∨ best = some device by
    obtain member | none := general none found
    · exact member
    · cases none
  clear found
  induction devices with
  | nil => exact fun _ same => .inr same
  | cons first devices ih =>
      intro best ends
      obtain member | same := ih _ ends
      · exact .inl (List.mem_cons_of_mem first member)
      · cases best with
        | none =>
            cases same
            exact .inl List.mem_cons_self
        | some kept =>
            simp only [Option.some.injEq] at same
            split at same
            · exact .inl (same ▸ List.mem_cons_self)
            · exact .inr (congrArg some same)

theorem discover_spec {root : Root} {device : BacklightDevice}
    (found : discover root = .ok device) :
    widest (root.entries.filterMap Entry.device) = some device ∧
      ∃ entry ∈ root.entries, entry.device = some device := by
  unfold discover at found
  split at found
  · rename_i chosen
    cases found
    have member := widest_mem chosen
    obtain ⟨entry, listed, read⟩ := List.mem_filterMap.mp member
    exact ⟨chosen, entry, listed, read⟩
  · cases found

/-- After a write to the device, the same device is found, with the level
that was written. -/
theorem discover_write {root : Root} {device : BacklightDevice}
    (found : discover root = .ok device) (target : U64) :
    discover (write root device.name target) =
      .ok { device with brightness := target } := by
  obtain ⟨chosen, entry, listed, read⟩ := discover_spec found
  have readable : ∀ other ∈ root.entries, other.name = device.name →
      other.device.isSome = true := by
    intro other member same
    rw [(device_name read).1] at same
    rw [List.inj_on_of_nodup_map root.distinct member listed same, read]
    rfl
  have kept : ∀ other : BacklightDevice,
      (rewrite device.name target other).maxBrightness = other.maxBrightness := by
    intro other
    unfold rewrite
    split <;> rfl
  unfold discover write
  dsimp only
  rw [filterMap_write readable, widest_map kept, chosen]
  dsimp only [Option.map_some]
  rw [rewrite, if_pos rfl]

/-! ### Operations -/

theorem state_eq {device : BacklightDevice}
    (positive : 0 < device.maxBrightness.val) :
    device.state = .ok ⟨true, device.name, device.brightness,
      device.maxBrightness,
      ⟨percentOf device.brightness.val device.maxBrightness.val,
        percentOf_le _ _⟩, none⟩ := by
  rw [BacklightDevice.state, percent_eq positive]
  rfl

/-- What an operation comes to: the device has a level, and the state that is
published is its state. -/
def Becomes (device : BacklightDevice) (level : Nat)
    (outcome : Except Stop (Root × BrightnessState)) : Prop :=
  ∃ after state later, outcome = .ok (after, state) ∧
    discover after = .ok later ∧ later.state = .ok state ∧
    later.maxBrightness = device.maxBrightness ∧
    later.brightness.val = level

theorem becomes_setForDevice {root : Root} {device : BacklightDevice}
    (found : discover root = .ok device) {requested : Nat}
    (valid : requested ≤ 100) :
    Becomes device (rawOf device.maxBrightness.val requested)
      (setForDevice root device requested) := by
  obtain ⟨-, entry, -, read⟩ := discover_spec found
  have positive := (device_name read).2
  have again := discover_write found (levelOf positive requested)
  have shown := @state_eq
    { device with brightness := levelOf positive requested } positive
  refine ⟨_, _, _, ?_, again, shown, rfl, rfl⟩
  rw [setForDevice, rawBrightness_eq positive valid, ok_bind]
  dsimp only
  rw [again, ok_bind, shown, ok_bind]
  rfl

/-- The percentage that an adjustment asks for. -/
def wantedOf (device : BacklightDevice) (delta : Int16) : Nat :=
  (max 1 (min ((percentOf device.brightness.val device.maxBrightness.val : Nat) +
    delta.toInt) 100)).toNat

theorem becomes_adjust {root : Root} {device : BacklightDevice}
    (found : discover root = .ok device) (delta : Int16) :
    Becomes device
      (rawOf device.maxBrightness.val (wantedOf device delta))
      (adjust root delta) := by
  obtain ⟨-, entry, -, read⟩ := discover_spec found
  have positive := (device_name read).2
  have level := percentOf_le device.brightness.val device.maxBrightness.val
  have low := delta.le_toInt
  have high := delta.toInt_lt
  have fits : signed ((percentOf device.brightness.val
      device.maxBrightness.val : Nat) + delta.toInt) =
        .ok ((percentOf device.brightness.val device.maxBrightness.val : Nat) +
          delta.toInt) := by
    refine if_pos ?_
    unfold i64Max
    omega
  have becomes := @becomes_setForDevice root device found
    (wantedOf device delta) (by unfold wantedOf; omega)
  rw [adjust, found, ok_bind, percent_eq positive, ok_bind, fits, ok_bind]
  exact becomes

theorem becomes_set {root : Root} {device : BacklightDevice}
    (found : discover root = .ok device) {requested : UInt8}
    (valid : 1 ≤ requested.toNat ∧ requested.toNat ≤ 100) :
    Becomes device (rawOf device.maxBrightness.val requested.toNat)
      (set root requested) := by
  rw [set, if_pos valid, found]
  exact becomes_setForDevice found valid.2

end BarDaemon.Brightness
