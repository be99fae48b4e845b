import BarDaemon.AudioCommands

/-!
# What a batch of adjustments does

Adjustments in one direction are executed as their sum, kept within 16 bits.
-/

namespace BarDaemon.Audio

open ClampedWalks

variable {Sender : Type}

/-! ### Sums -/

def total (deltas : List Int16) : Int :=
  (deltas.map Int16.toInt).sum

/-- The sum that is executed. -/
def capped (deltas : List Int16) : Int :=
  max (-32768) (min 32767 (total deltas))

/-- The adjustments of one sign that come first. -/
def leading (sign : Int) : List (Pending Sender) → List Int16
  | (.adjust value, _) :: commands =>
      if value.toInt.sign = sign then value :: leading sign commands else []
  | _ => []

theorem total_cons (delta : Int16) (deltas : List Int16) :
    total (delta :: deltas) = delta.toInt + total deltas := by
  simp only [total, List.map_cons, List.sum_cons]

theorem gather_eq (sign : Int) (count : Nat) (sum : Int)
    (commands : List (Pending Sender)) :
    gather sign count sum commands =
      (count + (leading sign commands).length,
        (leading sign commands).foldl
          (fun sum value => saturatingAddI32 sum value.toInt) sum) := by
  fun_induction gather sign count sum commands with
  | case1 count sum value sender commands same ih =>
      rw [ih, leading, if_pos same, List.length_cons, List.foldl_cons]
      congr 1
      omega
  | case2 count sum value sender commands other =>
      rw [leading, if_neg other]
      rfl
  | case3 commands count sum none =>
      have nothing : leading sign commands = [] := by
        unfold leading
        split
        · exact (none _ _ _ rfl).elim
        · rfl
      rw [nothing]
      rfl

theorem take_leading (sign : Int) (commands : List (Pending Sender)) :
    (commands.take (leading sign commands).length).map Prod.fst =
      (leading sign commands).map AudioCommand.adjust := by
  fun_induction leading sign commands with
  | case1 value sender commands same ih =>
      rw [List.length_cons, List.take_succ_cons, List.map_cons, List.map_cons, ih]
  | case2 => rfl
  | case3 => rfl

theorem sign_of_leading {sign : Int} {commands : List (Pending Sender)}
    {delta : Int16} (among : delta ∈ leading sign commands) :
    delta.toInt.sign = sign := by
  fun_induction leading sign commands with
  | case1 value sender commands same ih =>
      rcases List.mem_cons.mp among with rfl | later
      · exact same
      · exact ih later
  | case2 => cases among
  | case3 => cases among

theorem saturated_up {deltas : List Int16} (up : ∀ delta ∈ deltas, 0 ≤ delta.toInt)
    {sum : Int} (least : 0 ≤ sum) (most : sum ≤ 2147483647) :
    deltas.foldl (fun sum value => saturatingAddI32 sum value.toInt) sum =
      min 2147483647 (sum + total deltas) := by
  induction deltas generalizing sum with
  | nil =>
      change sum = min 2147483647 (sum + 0)
      omega
  | cons delta deltas ih =>
      obtain ⟨here, rest⟩ := List.forall_mem_cons.mp up
      have after : 0 ≤ total deltas :=
        List.sum_nonneg (by simpa using rest)
      rw [List.foldl_cons, ih rest, total_cons]
      · unfold saturatingAddI32
        omega
      · unfold saturatingAddI32
        omega
      · unfold saturatingAddI32
        omega

theorem total_nonpos {deltas : List Int16}
    (down : ∀ delta ∈ deltas, delta.toInt ≤ 0) : total deltas ≤ 0 := by
  induction deltas with
  | nil => exact Int.le_refl 0
  | cons delta deltas ih =>
      obtain ⟨here, rest⟩ := List.forall_mem_cons.mp down
      have after := ih rest
      rw [total_cons]
      omega

theorem saturated_down {deltas : List Int16}
    (down : ∀ delta ∈ deltas, delta.toInt ≤ 0)
    {sum : Int} (least : -2147483648 ≤ sum) (most : sum ≤ 0) :
    deltas.foldl (fun sum value => saturatingAddI32 sum value.toInt) sum =
      max (-2147483648) (sum + total deltas) := by
  induction deltas generalizing sum with
  | nil =>
      change sum = max (-2147483648) (sum + 0)
      omega
  | cons delta deltas ih =>
      obtain ⟨here, rest⟩ := List.forall_mem_cons.mp down
      have after := total_nonpos rest
      rw [List.foldl_cons, ih rest, total_cons]
      · unfold saturatingAddI32
        omega
      · unfold saturatingAddI32
        omega
      · unfold saturatingAddI32
        omega

theorem nonneg_of_sign {delta other : Int16}
    (same : delta.toInt.sign = other.toInt.sign) (nonneg : 0 ≤ other.toInt) :
    0 ≤ delta.toInt := by
  have sign := Int.sign_nonneg_iff.mpr nonneg
  rw [← same] at sign
  exact Int.sign_nonneg_iff.mp sign

theorem neg_of_sign {delta other : Int16}
    (same : delta.toInt.sign = other.toInt.sign) (neg : other.toInt < 0) :
    delta.toInt < 0 := by
  rw [Int.sign_eq_neg_one_of_neg neg] at same
  exact Int.neg_of_sign_eq_neg_one same

/-- The command of a batch adjusts by the capped sum. -/
theorem batch_adjust (commands : List (Pending Sender)) (first : Int16) :
    batch commands (.adjust first) =
      ((leading first.toInt.sign commands).length,
        .adjust (Int16.ofInt (capped (leading first.toInt.sign commands)))) := by
  have same := fun delta among =>
    @sign_of_leading Sender first.toInt.sign commands delta among
  rw [batch, gather_eq]
  dsimp only
  rw [Nat.zero_add]
  congr 3
  rcases Int.lt_or_le first.toInt 0 with down | up
  · have all := fun delta among => (neg_of_sign (same delta among) down).le
    rw [saturated_down all (by decide) (by decide)]
    unfold capped
    omega
  · have all := fun delta among => nonneg_of_sign (same delta among) up
    rw [saturated_up all (by decide) (by decide)]
    unfold capped
    omega

theorem capped_toInt (deltas : List Int16) :
    (Int16.ofInt (capped deltas)).toInt = capped deltas := by
  apply Int16.toInt_ofInt_of_le
  · unfold capped
    omega
  · unfold capped
    omega

/-! ### Volumes -/

/-- Steps of a volume. -/
def steps (deltas : List Int16) : List Rat :=
  deltas.map fun delta => (delta.toInt : Rat) / 100

theorem sum_steps (deltas : List Int16) :
    (steps deltas).sum = (total deltas : Rat) / 100 := by
  induction deltas with
  | nil => simp [steps, total]
  | cons delta deltas ih =>
      have rest : (steps (delta :: deltas)).sum =
          (delta.toInt : Rat) / 100 + (steps deltas).sum := rfl
      rw [rest, ih, total_cons]
      push_cast
      ring

theorem foldl_adjusted (volume : Rat) (deltas : List Int16) :
    deltas.foldl adjustedVolume volume = walk 0 1 volume (steps deltas) := by
  rw [walk, steps, List.foldl_map]
  rfl

/-- When adjustments of one sign do the same at once as one by one. -/
def Coalesces (volume : Rat) : List Int16 → Prop
  | first :: second :: rest =>
      0 ≤ first.toInt ∨
        volume + (capped (first :: second :: rest) : Rat) / 100 ≤ 0 ∨
        (volume + (first.toInt : Rat) / 100 ≤ 1 ∧
          -32768 ≤ total (first :: second :: rest))
  | _ => True

instance (volume : Rat) (deltas : List Int16) : Decidable (Coalesces volume deltas) := by
  unfold Coalesces
  split <;> infer_instance

variable {volume : Rat} {deltas : List Int16}

theorem adjusted_capped (volume : Rat) (deltas : List Int16) :
    adjustedVolume volume (Int16.ofInt (capped deltas)) =
      clamp 0 1 (volume + (capped deltas : Rat) / 100) := by
  rw [adjustedVolume, capped_toInt]

theorem coalesces_up (nonneg : 0 ≤ volume) (moves : deltas ≠ [])
    (up : ∀ delta ∈ deltas, 0 ≤ delta.toInt) :
    adjustedVolume volume (Int16.ofInt (capped deltas)) =
      deltas.foldl adjustedVolume volume := by
  have sum : 0 ≤ total deltas := List.sum_nonneg (by simpa using up)
  have rises : ∀ step ∈ steps deltas, 0 ≤ step := by
    intro step among
    obtain ⟨delta, found, rfl⟩ := List.mem_map.mp among
    have least : (0 : Rat) ≤ delta.toInt := by exact_mod_cast up delta found
    linarith
  rw [adjusted_capped, foldl_adjusted,
    walk_up (by norm_num) nonneg (by simpa [steps] using moves) rises, sum_steps]
  have real : (0 : Rat) ≤ total deltas := by exact_mod_cast sum
  rcases Int.lt_or_le 32767 (total deltas) with large | fits
  · have most : capped deltas = 32767 := by
      unfold capped
      omega
    have huge : (32767 : Rat) < total deltas := by exact_mod_cast large
    rw [most, min_eq_right (by linarith)]
    apply clamp_of_ge (by norm_num)
    norm_num
    linarith
  · have same : capped deltas = total deltas := by
      unfold capped
      omega
    rw [same, clamp, max_eq_left (by linarith)]

/-- Steps down, the first one apart. -/
theorem foldl_down {first : Int16}
    (down : ∀ delta ∈ deltas, delta.toInt ≤ 0) :
    (first :: deltas).foldl adjustedVolume volume =
      max (adjustedVolume volume first + (total deltas : Rat) / 100) 0 := by
  have falls : ∀ step ∈ steps deltas, step ≤ 0 := by
    intro step among
    obtain ⟨delta, found, rfl⟩ := List.mem_map.mp among
    have most : (delta.toInt : Rat) ≤ 0 := by exact_mod_cast down delta found
    linarith
  rw [List.foldl_cons, foldl_adjusted, ← sum_steps]
  exact walk_down (by norm_num) (le_clamp (by norm_num)) clamp_le falls

theorem coalesces_down_iff {first second : Int16} {rest : List Int16}
    (down : ∀ delta ∈ first :: second :: rest, delta.toInt < 0) :
    adjustedVolume volume (Int16.ofInt (capped (first :: second :: rest))) =
        (first :: second :: rest).foldl adjustedVolume volume ↔
      volume + (capped (first :: second :: rest) : Rat) / 100 ≤ 0 ∨
        (volume + (first.toInt : Rat) / 100 ≤ 1 ∧
          -32768 ≤ total (first :: second :: rest)) := by
  obtain ⟨here, next, others⟩ := List.forall_mem_cons.mp down |>.imp_right
    List.forall_mem_cons.mp
  have tail := total_nonpos fun delta among => (others delta among).le
  have after : total (second :: rest) < 0 := by
    rw [total_cons]
    omega
  have falls : ∀ delta ∈ second :: rest, delta.toInt ≤ 0 :=
    List.forall_mem_cons.mpr ⟨next.le, fun delta among => (others delta among).le⟩
  have least := first.le_toInt
  have whole := total_cons first (second :: rest)
  have low : total (first :: second :: rest) ≤ capped (first :: second :: rest) := by
    unfold capped
    omega
  have high : capped (first :: second :: rest) ≤ first.toInt := by
    unfold capped
    omega
  have exactly : capped (first :: second :: rest) =
      first.toInt + total (second :: rest) ↔
        -32768 ≤ total (first :: second :: rest) := by
    unfold capped
    omega
  rw [adjusted_capped, foldl_down falls, adjustedVolume, clamp_step_iff (by norm_num)]
  · apply or_congr_right
    apply and_congr_right
    intro _
    rw [← exactly, ← add_div, div_left_inj' (by norm_num)]
    norm_cast
  · have negative : (total (second :: rest) : Rat) < 0 := by exact_mod_cast after
    linarith
  · have sum : (first.toInt : Rat) + total (second :: rest) ≤
        capped (first :: second :: rest) := by
      rw [whole] at low
      exact_mod_cast low
    linarith
  · have part : (capped (first :: second :: rest) : Rat) ≤ first.toInt := by
      exact_mod_cast high
    linarith

theorem coalesces_iff (nonneg : 0 ≤ volume) {first : Int16} {rest : List Int16}
    (same : ∀ delta ∈ rest, delta.toInt.sign = first.toInt.sign) :
    adjustedVolume volume (Int16.ofInt (capped (first :: rest))) =
        (first :: rest).foldl adjustedVolume volume ↔
      Coalesces volume (first :: rest) := by
  cases rest with
  | nil =>
      have least := first.le_toInt
      have most := first.toInt_lt
      have whole : capped [first] = first.toInt := by
        have only := total_cons first []
        change _ = first.toInt + 0 at only
        unfold capped
        omega
      rw [whole, Int16.ofInt_toInt]
      exact iff_of_true rfl trivial
  | cons second rest =>
      rcases Int.lt_or_le first.toInt 0 with down | up
      · have all : ∀ delta ∈ first :: second :: rest, delta.toInt < 0 :=
          List.forall_mem_cons.mpr ⟨down, fun delta among =>
            neg_of_sign (same delta among) down⟩
        have other : ¬ 0 ≤ first.toInt := by omega
        rw [coalesces_down_iff all, Coalesces]
        simp only [other, false_or]
      · have all : ∀ delta ∈ first :: second :: rest, 0 ≤ delta.toInt :=
          List.forall_mem_cons.mpr ⟨up, fun delta among =>
            nonneg_of_sign (same delta among) up⟩
        exact iff_of_true (coalesces_up nonneg (List.cons_ne_nil _ _) all) (.inl up)

/-- A volume in the range lets every batch coalesce. -/
theorem coalesces_of_le (most : volume ≤ 1) (deltas : List Int16) :
    Coalesces volume deltas := by
  match deltas with
  | [] => trivial
  | [_] => trivial
  | first :: second :: rest =>
      rcases Int.lt_or_le first.toInt 0 with down | up
      · rcases Int.lt_or_le (total (first :: second :: rest)) (-32768) with
          small | fits
        · have least : capped (first :: second :: rest) = -32768 := by
            unfold capped
            omega
          apply Or.inr
          apply Or.inl
          rw [least]
          norm_num
          linarith
        · have step : (first.toInt : Rat) < 0 := by exact_mod_cast down
          exact .inr (.inr ⟨by linarith, fits⟩)
      · exact .inl up

end BarDaemon.Audio
