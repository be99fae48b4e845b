import BarDaemon.Brightness

/-!
# Steps of the brightness

A step that exceeds half a raw level by half a percent makes progress until the
end of the range.
-/

namespace BarDaemon.Brightness

/-! ### Levels and percentages -/

/-- The lowest level that can be set. -/
def lowest (maximum : Nat) : Nat :=
  rawOf maximum 1

theorem rawOf_full {maximum : Nat} (positive : 0 < maximum) :
    rawOf maximum 100 = maximum := by
  unfold rawOf
  omega

/-- How far the rounded percentage is from the level. -/
theorem percentOf_product {brightness maximum : Nat} (positive : 0 < maximum) :
    maximum * percentOf brightness maximum ≤ brightness * 100 + maximum / 2 ∧
      (percentOf brightness maximum < 100 → brightness * 100 + maximum / 2 <
        maximum * percentOf brightness maximum + maximum) := by
  have quotient := Nat.div_add_mod (brightness * 100 + maximum / 2) maximum
  have remainder := Nat.mod_lt (brightness * 100 + maximum / 2) positive
  have shorter := Nat.mul_le_mul_left maximum
    (Nat.min_le_left ((brightness * 100 + maximum / 2) / maximum) 100)
  unfold percentOf
  constructor
  · omega
  · intro below
    rw [Nat.min_eq_left (by omega)]
    omega

theorem twice_step {step : Nat} (forward : 0 < step) (maximum : Nat) :
    (2 * step - 1) * maximum + maximum = 2 * (maximum * step) := by
  have whole : 2 * step - 1 + 1 = 2 * step := by omega
  rw [← Nat.succ_mul, Nat.succ_eq_add_one, whole, Nat.mul_assoc,
    Nat.mul_comm step]

theorem coarse_toInt {step maximum : Nat} (forward : 0 < step)
    (coarse : (100 : Int) ≤ (2 * step - 1) * maximum) :
    100 ≤ (2 * step - 1) * maximum := by
  have cast : ((2 * step - 1 : Nat) : Int) = 2 * step - 1 := by omega
  rw [← cast] at coarse
  exact_mod_cast coarse

theorem rawOf_up {brightness maximum : Nat} (positive : 0 < maximum)
    (below : brightness ≤ maximum) {step wanted : Nat} (forward : 0 < step)
    (asked : wanted = min (percentOf brightness maximum + step) 100) :
    brightness ≤ rawOf maximum wanted ∧
      (100 ≤ (2 * step - 1) * maximum → brightness < maximum →
        brightness < rawOf maximum wanted) := by
  obtain ⟨-, near⟩ := @percentOf_product brightness maximum positive
  by_cases full : 100 ≤ percentOf brightness maximum + step
  · rw [asked, Nat.min_eq_right full, rawOf_full positive]
    exact ⟨below, fun _ short => short⟩
  · rw [asked, Nat.min_eq_left (by omega)]
    have near := near (by omega)
    have whole : maximum ≤ maximum * step := Nat.le_mul_of_pos_right _ forward
    have doubled := twice_step forward maximum
    unfold rawOf
    rw [Nat.mul_add]
    omega

theorem rawOf_down {brightness maximum : Nat} (positive : 0 < maximum)
    (above : lowest maximum ≤ brightness) {step wanted : Nat}
    (forward : 0 < step)
    (asked : wanted = max 1 (percentOf brightness maximum - step)) :
    rawOf maximum wanted ≤ brightness ∧
      (100 ≤ (2 * step - 1) * maximum → lowest maximum < brightness →
        rawOf maximum wanted < brightness) := by
  obtain ⟨far, -⟩ := @percentOf_product brightness maximum positive
  by_cases bottom : percentOf brightness maximum ≤ step
  · rw [asked, Nat.max_eq_left (by omega)]
    exact ⟨above, fun _ larger => larger⟩
  · rw [asked, Nat.max_eq_right (by omega)]
    have whole : maximum ≤ maximum * step := Nat.le_mul_of_pos_right _ forward
    have product : maximum * (percentOf brightness maximum - step) +
        maximum * step = maximum * percentOf brightness maximum := by
      rw [← Nat.mul_add]
      congr 1
      omega
    have least := (rawOf_bounds positive 1).1
    change 1 ≤ lowest maximum at least
    have doubled := twice_step forward maximum
    constructor
    · unfold rawOf
      omega
    · intro coarse larger
      rcases Nat.eq_or_lt_of_le coarse with exact | coarse
      -- Here a level is a whole number of percents, which is its rounding.
      · have short : percentOf brightness maximum ≤
            (2 * step - 1) * brightness := by
          apply Nat.le_of_lt_succ
          refine Nat.lt_of_mul_lt_mul_left (a := maximum) ?_
          rw [Nat.mul_succ, Nat.mul_left_comm, ← Nat.mul_assoc, ← exact]
          omega
        have scaled := Nat.mul_le_mul_left maximum short
        rw [Nat.mul_left_comm, ← Nat.mul_assoc, ← exact] at scaled
        unfold rawOf
        omega
      · unfold rawOf
        omega

/-- A percentage that has been set is read back. -/
theorem percentOf_rawOf {maximum requested : Nat} (fine : 100 ≤ maximum)
    (valid : 1 ≤ requested ∧ requested ≤ 100) :
    percentOf (rawOf maximum requested) maximum = requested := by
  have scaled : maximum * requested ≤ maximum * 100 :=
    Nat.mul_le_mul_left _ valid.2
  have least : maximum ≤ maximum * requested :=
    Nat.le_mul_of_pos_right _ valid.1
  have level : rawOf maximum requested = (maximum * requested + 50) / 100 := by
    unfold rawOf
    omega
  have quotient : (rawOf maximum requested * 100 + maximum / 2) / maximum =
      requested := by
    refine Nat.div_eq_of_lt_le ?_ ?_
    · rw [level, Nat.mul_comm]
      omega
    · rw [level, Nat.succ_mul, Nat.mul_comm requested maximum]
      by_cases hundred : maximum = 100
      · subst hundred
        omega
      · omega
  rw [percentOf, quotient, Nat.min_eq_left valid.2]

/-! ### Steps -/

theorem discover_positive {root : Root} {device : BacklightDevice}
    (found : discover root = .ok device) : 0 < device.maxBrightness.val := by
  obtain ⟨-, entry, -, read⟩ := discover_spec found
  exact (device_name read).2

theorem lowest_le_rawOf {maximum requested : Nat} (valid : 1 ≤ requested) :
    lowest maximum ≤ rawOf maximum requested := by
  have product : maximum * 1 ≤ maximum * requested :=
    Nat.mul_le_mul_left _ valid
  unfold lowest rawOf
  omega

/-- The level after a step. -/
def after (device : BacklightDevice) (delta : Int16) : Nat :=
  rawOf device.maxBrightness.val (wantedOf device delta)

theorem after_bounds {device : BacklightDevice}
    (positive : 0 < device.maxBrightness.val) (delta : Int16) :
    lowest device.maxBrightness.val ≤ after device delta ∧
      after device delta ≤ device.maxBrightness.val :=
  ⟨lowest_le_rawOf (by unfold wantedOf; omega), (rawOf_bounds positive _).2⟩

theorem after_up {device : BacklightDevice}
    (positive : 0 < device.maxBrightness.val) {delta : Int16}
    (up : 0 < delta.toInt) :
    (device.brightness.val ≤ device.maxBrightness.val →
      device.brightness.val ≤ after device delta) ∧
    (100 ≤ (2 * delta.toInt - 1) * device.maxBrightness.val →
      device.brightness.val < device.maxBrightness.val →
        device.brightness.val < after device delta) := by
  obtain ⟨step, same⟩ := Int.eq_ofNat_of_zero_le (Int.le_of_lt up)
  have asked : wantedOf device delta = min (percentOf device.brightness.val
      device.maxBrightness.val + step) 100 := by
    unfold wantedOf
    omega
  have forward : 0 < step := by omega
  have raises := fun below => rawOf_up positive below forward asked
  rw [same]
  constructor
  · intro below
    exact (raises below).1
  · intro coarse below
    exact (raises (Nat.le_of_lt below)).2 (coarse_toInt forward coarse) below

theorem after_down {device : BacklightDevice}
    (positive : 0 < device.maxBrightness.val) {delta : Int16}
    (down : delta.toInt < 0) :
    (lowest device.maxBrightness.val ≤ device.brightness.val →
      after device delta ≤ device.brightness.val) ∧
    (100 ≤ (2 * -delta.toInt - 1) * device.maxBrightness.val →
      lowest device.maxBrightness.val < device.brightness.val →
        after device delta < device.brightness.val) := by
  obtain ⟨step, same⟩ := Int.eq_ofNat_of_zero_le
    (Int.le_of_lt (Int.neg_pos_of_neg down))
  have level := percentOf_le device.brightness.val device.maxBrightness.val
  have asked : wantedOf device delta = max 1 (percentOf device.brightness.val
      device.maxBrightness.val - step) := by
    unfold wantedOf
    omega
  have forward : 0 < step := by omega
  have lowers := fun above => rawOf_down positive above forward asked
  rw [same]
  constructor
  · intro above
    exact (lowers above).1
  · intro coarse above
    exact (lowers (Nat.le_of_lt above)).2 (coarse_toInt forward coarse) above

/-- From outside the range, a step goes to its end. -/
theorem after_outside {device : BacklightDevice}
    (positive : 0 < device.maxBrightness.val) (delta : Int16) :
    (0 < delta.toInt → device.maxBrightness.val < device.brightness.val →
      after device delta = device.maxBrightness.val) ∧
    (delta.toInt < 0 →
      device.brightness.val < lowest device.maxBrightness.val →
        after device delta = lowest device.maxBrightness.val) := by
  have near := @percentOf_product device.brightness.val
    device.maxBrightness.val positive
  have level := percentOf_le device.brightness.val device.maxBrightness.val
  constructor
  · intro up above
    have full : percentOf device.brightness.val device.maxBrightness.val =
        100 := by
      by_contra short
      have shorter := Nat.mul_le_mul_left device.maxBrightness.val
        (by omega : percentOf device.brightness.val
          device.maxBrightness.val ≤ 99)
      omega
    have asked : wantedOf device delta = 100 := by
      unfold wantedOf
      omega
    rw [after, asked, rawOf_full positive]
  · intro down below
    have least : percentOf device.brightness.val device.maxBrightness.val ≤
        1 := by
      by_contra large
      have larger := Nat.mul_le_mul_left device.maxBrightness.val
        (by omega : 2 ≤ percentOf device.brightness.val
          device.maxBrightness.val)
      unfold lowest rawOf at below
      omega
    have asked : wantedOf device delta = 1 := by
      unfold wantedOf
      omega
    rw [after, asked, lowest]

/-! ### Repeated steps -/

def adjustTimes (delta : Int16) : Nat → Root → Except Stop Root
  | 0, root => .ok root
  | times + 1, root => do
      let (root, _) ← adjust root delta
      adjustTimes delta times root

/-- Repeated steps come to a level. -/
def Arrives (device : BacklightDevice) (level : Nat)
    (outcome : Except Stop Root) : Prop :=
  ∃ root later, outcome = .ok root ∧ discover root = .ok later ∧
    later.maxBrightness = device.maxBrightness ∧
    later.brightness.val = level

/-- One step first. -/
theorem arrives_succ {root : Root} {device : BacklightDevice}
    (found : discover root = .ok device) {delta : Int16} {times level : Nat}
    (rest : ∀ next later, discover next = .ok later →
      later.maxBrightness = device.maxBrightness →
      later.brightness.val = after device delta →
        Arrives later level (adjustTimes delta times next)) :
    Arrives device level (adjustTimes delta (times + 1) root) := by
  obtain ⟨next, state, later, stepped, again, -, same, reached⟩ :=
    becomes_adjust found delta
  obtain ⟨final, last, outcome, ends, kept, level⟩ :=
    rest next later again same reached
  refine ⟨final, last, ?_, ends, kept.trans same, level⟩
  rw [adjustTimes, stepped]
  exact outcome

theorem arrives_up {delta : Int16} (up : 0 < delta.toInt) (times : Nat)
    {root : Root} {device : BacklightDevice}
    (found : discover root = .ok device)
    (coarse : 100 ≤ (2 * delta.toInt - 1) * device.maxBrightness.val)
    (below : device.brightness.val ≤ device.maxBrightness.val)
    (enough : device.maxBrightness.val ≤ device.brightness.val + times) :
    Arrives device device.maxBrightness.val (adjustTimes delta times root) := by
  induction times generalizing root device with
  | zero => exact ⟨root, device, rfl, found, rfl, by omega⟩
  | succ times ih =>
      have positive := discover_positive found
      obtain ⟨-, inside⟩ := after_bounds positive delta
      obtain ⟨kept, raised⟩ := after_up positive up
      refine arrives_succ found ?_
      intro next later again same reached
      rw [← same]
      refine ih again (same ▸ coarse) (by rw [same, reached]; exact inside) ?_
      rw [same, reached]
      have kept := kept below
      by_cases short : device.brightness.val < device.maxBrightness.val
      · have raised := raised coarse short
        omega
      · omega

theorem arrives_down {delta : Int16} (down : delta.toInt < 0) (times : Nat)
    {root : Root} {device : BacklightDevice}
    (found : discover root = .ok device)
    (coarse : 100 ≤ (2 * -delta.toInt - 1) * device.maxBrightness.val)
    (above : lowest device.maxBrightness.val ≤ device.brightness.val)
    (enough : device.brightness.val ≤
      lowest device.maxBrightness.val + times) :
    Arrives device (lowest device.maxBrightness.val)
      (adjustTimes delta times root) := by
  induction times generalizing root device with
  | zero => exact ⟨root, device, rfl, found, rfl, by omega⟩
  | succ times ih =>
      have positive := discover_positive found
      obtain ⟨inside, -⟩ := after_bounds positive delta
      obtain ⟨kept, lowered⟩ := after_down positive down
      refine arrives_succ found ?_
      intro next later again same reached
      rw [← same]
      refine ih again (same ▸ coarse) (by rw [same, reached]; exact inside) ?_
      rw [same, reached]
      have kept := kept above
      by_cases larger :
          lowest device.maxBrightness.val < device.brightness.val
      · have lowered := lowered coarse larger
        omega
      · omega

/-- An adjustment never goes the wrong way inside the range, and goes to its
end from outside.  A step that exceeds half a raw level by half a percent,
as every step does from a maximum of a hundred on, makes progress, and repeated
ones reach the end of the range.  From a maximum of a hundred on, a percentage that is set is read
back. -/
theorem adjust_progress {root : Root} {device : BacklightDevice}
    (found : discover root = .ok device) :
    let maximum := device.maxBrightness.val
    let level := device.brightness.val
    (∀ delta : Int16, ∃ next, Becomes device next (adjust root delta) ∧
      (0 < delta.toInt → (level ≤ maximum → level ≤ next) ∧
        (maximum < level → next = maximum) ∧
        (100 ≤ (2 * delta.toInt - 1) * maximum → level < maximum →
          level < next)) ∧
      (delta.toInt < 0 → (lowest maximum ≤ level → next ≤ level) ∧
        (level < lowest maximum → next = lowest maximum) ∧
        (100 ≤ (2 * -delta.toInt - 1) * maximum → lowest maximum < level →
          next < level))) ∧
    (∀ (delta : Int16) (times : Nat), maximum < times →
      (0 < delta.toInt → 100 ≤ (2 * delta.toInt - 1) * maximum →
        Arrives device maximum (adjustTimes delta times root)) ∧
      (delta.toInt < 0 → 100 ≤ (2 * -delta.toInt - 1) * maximum →
        Arrives device (lowest maximum) (adjustTimes delta times root))) ∧
    (100 ≤ maximum → ∀ requested : UInt8, 1 ≤ requested.toNat →
      requested.toNat ≤ 100 → ∃ after state,
        set root requested = .ok (after, state) ∧
          state.percent.val = requested.toNat) := by
  intro maximum level
  have positive := discover_positive found
  refine ⟨?_, ?_, ?_⟩
  · intro delta
    obtain ⟨above, below⟩ := after_outside positive delta
    refine ⟨after device delta, becomes_adjust found delta, ?_, ?_⟩
    · intro up
      obtain ⟨kept, raised⟩ := after_up positive up
      exact ⟨kept, above up, raised⟩
    · intro down
      obtain ⟨kept, lowered⟩ := after_down positive down
      exact ⟨kept, below down, lowered⟩
  · intro delta times enough
    obtain ⟨more, rfl⟩ : ∃ more, times = more + 1 := ⟨times - 1, by omega⟩
    obtain ⟨least, inside⟩ := after_bounds positive delta
    constructor
    · intro up coarse
      refine arrives_succ found ?_
      intro next later again same reached
      change Arrives later device.maxBrightness.val _
      rw [← same]
      refine arrives_up up more again (same ▸ coarse) ?_ ?_
      · rw [same, reached]
        exact inside
      · rw [same]
        omega
    · intro down coarse
      refine arrives_succ found ?_
      intro next later again same reached
      change Arrives later (lowest device.maxBrightness.val) _
      rw [← same]
      refine arrives_down down more again (same ▸ coarse) ?_ ?_
      · rw [same, reached]
        exact least
      · rw [same, reached]
        omega
  · intro fine requested low high
    obtain ⟨after, state, later, outcome, -, shown, same, reached⟩ :=
      becomes_set found ⟨low, high⟩
    refine ⟨after, state, outcome, ?_⟩
    rw [state_eq (same ▸ positive)] at shown
    cases shown
    change percentOf later.brightness.val later.maxBrightness.val = _
    rw [reached, same]
    exact percentOf_rawOf fine ⟨low, high⟩

/-! ### Panels -/

def panel (brightness maximum : U64) : Root where
  entries := [⟨"panel", true, some maximum, some brightness, none⟩]
  distinct := List.nodup_singleton _

theorem adjust_progress_sample :
    Arrives ⟨"panel", ⟨500, by decide⟩, ⟨1000, by decide⟩⟩ 1000
      (adjustTimes 5 1001 (panel ⟨500, by decide⟩ ⟨1000, by decide⟩)) := by
  have found : discover (panel ⟨500, by decide⟩ ⟨1000, by decide⟩) =
      .ok ⟨"panel", ⟨500, by decide⟩, ⟨1000, by decide⟩⟩ := rfl
  exact ((adjust_progress found).2.1 5 1001 (by decide)).1 (by decide)
    (by decide)

/-- A step up is lost on a panel of three levels, and a step down raises a
level under one percent. -/
theorem coarse_step_is_lost :
    (adjust (panel ⟨1, by decide⟩ ⟨3, by decide⟩) 5).toOption.map
      (fun result => result.2.brightness.val) = some 1 ∧
    (adjust (panel ⟨1, by decide⟩ ⟨1000, by decide⟩) (-5)).toOption.map
      (fun result => result.2.brightness.val) = some 10 := by
  decide

end BarDaemon.Brightness
