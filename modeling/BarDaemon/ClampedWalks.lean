import Mathlib.Algebra.BigOperators.Group.List.Basic
import Mathlib.Algebra.Order.BigOperators.Group.List
import Mathlib.Tactic.Linarith

/-!
# Clamped walks

A value takes steps and is clamped to a range after each of them. Steps in one
direction do the same as their sum, unless the value comes into the range from
its far side.
-/

namespace BarDaemon.ClampedWalks

section Clamp

variable {Value : Type} [LinearOrder Value]

def clamp (low high value : Value) : Value :=
  min (max value low) high

variable {low high value : Value}

theorem clamp_le : clamp low high value ≤ high :=
  min_le_right _ _

theorem le_clamp (proper : low ≤ high) : low ≤ clamp low high value :=
  le_min (le_max_right _ _) proper

theorem clamp_of_le (proper : low ≤ high) (below : value ≤ low) :
    clamp low high value = low := by
  rw [clamp, max_eq_right below, min_eq_left proper]

theorem clamp_of_ge (proper : low ≤ high) (above : high ≤ value) :
    clamp low high value = high := by
  rw [clamp, max_eq_left (proper.trans above), min_eq_right above]

theorem clamp_of_within (least : low ≤ value) (most : value ≤ high) :
    clamp low high value = value := by
  rw [clamp, max_eq_left least, min_eq_left most]

end Clamp

variable {Value : Type} [Field Value] [LinearOrder Value]

/-- Take the steps, one by one. -/
def walk (low high : Value) (value : Value) (steps : List Value) : Value :=
  steps.foldl (fun value step => clamp low high (value + step)) value

variable {low high value : Value} {steps : List Value}

theorem walk_cons (step : Value) :
    walk low high value (step :: steps) =
      walk low high (clamp low high (value + step)) steps :=
  rfl

variable [IsStrictOrderedRing Value]

theorem sum_nonpos (down : ∀ step ∈ steps, step ≤ 0) : steps.sum ≤ 0 := by
  induction steps with
  | nil => exact le_of_eq List.sum_nil
  | cons step steps ih =>
      obtain ⟨here, rest⟩ := List.forall_mem_cons.mp down
      have after := ih rest
      rw [List.sum_cons]
      linarith

/-- Steps down from inside the range. -/
theorem walk_down (proper : low ≤ high) (least : low ≤ value) (most : value ≤ high)
    (down : ∀ step ∈ steps, step ≤ 0) :
    walk low high value steps = max (value + steps.sum) low := by
  induction steps generalizing value with
  | nil => rw [List.sum_nil, add_zero, max_eq_left least]; rfl
  | cons step steps ih =>
      obtain ⟨here, rest⟩ := List.forall_mem_cons.mp down
      have after := sum_nonpos rest
      rw [walk_cons, ih (le_clamp proper) clamp_le rest, List.sum_cons]
      rcases le_total (value + step) low with below | above
      · rw [clamp_of_le proper below, max_eq_right (by linarith),
          max_eq_right (by linarith)]
      · rw [clamp_of_within above (by linarith), add_assoc]

/-- Steps up from the low end or above it. -/
theorem walk_up (proper : low ≤ high) (least : low ≤ value) (moves : steps ≠ [])
    (up : ∀ step ∈ steps, 0 ≤ step) :
    walk low high value steps = min (value + steps.sum) high := by
  induction steps generalizing value with
  | nil => exact (moves rfl).elim
  | cons step steps ih =>
      obtain ⟨here, rest⟩ := List.forall_mem_cons.mp up
      have after := List.sum_nonneg rest
      have first : clamp low high (value + step) = min (value + step) high := by
        rw [clamp, max_eq_left (by linarith)]
      cases steps with
      | nil =>
          rw [walk_cons, first, List.sum_cons, List.sum_nil, add_zero]
          rfl
      | cons next steps =>
          rw [walk_cons, ih (le_clamp proper) (List.cons_ne_nil _ _) rest, first,
            List.sum_cons (a := step)]
          rcases le_total (value + step) high with below | above
          · rw [min_eq_left below, add_assoc]
          · rw [min_eq_right above, min_eq_right (by linarith),
              min_eq_right (by linarith)]

/-- A first step down and a last one do the same as one step, which may be
shorter than both, when that ends at the low end, or when it is not shorter and
the first step does not stop at the high end. -/
theorem clamp_step_iff (proper : low < high) {first last once : Value}
    (lastDown : last < 0) (shorter : first + last ≤ once) (longer : once ≤ first) :
    clamp low high (value + once) =
        max (clamp low high (value + first) + last) low ↔
      value + once ≤ low ∨ (value + first ≤ high ∧ once = first + last) := by
  rcases le_or_gt (value + once) low with ends | stays
  · simp only [ends, true_or, iff_true]
    rw [clamp_of_le proper.le ends, eq_comm, max_eq_right_iff]
    rcases le_total (value + first) low with below | above
    · rw [clamp_of_le proper.le below]
      linarith
    · have most : clamp low high (value + first) ≤ value + first := by
        rw [clamp, max_eq_left above]
        exact min_le_left _ _
      linarith
  · have above : low ≤ value + first := by linarith
    simp only [not_le.mpr stays, false_or]
    rcases le_or_gt (value + first) high with fits | beyond
    · rw [clamp_of_within stays.le (by linarith), clamp_of_within above fits]
      simp only [fits, true_and]
      constructor
      · intro same
        rcases le_total (value + first + last) low with below | inside
        · rw [max_eq_right below] at same
          linarith
        · rw [max_eq_left inside] at same
          linarith
      · rintro rfl
        rw [max_eq_left (by linarith), add_assoc]
    · simp only [not_le.mpr beyond, false_and, iff_false]
      rw [clamp_of_ge proper.le beyond.le, clamp, max_eq_left stays.le]
      intro same
      rcases le_total (value + once) high with inside | outside
      · rw [min_eq_left inside] at same
        rcases le_total (high + last) low with below | within
        · rw [max_eq_right below] at same
          linarith
        · rw [max_eq_left within] at same
          linarith
      · rw [min_eq_right outside] at same
        have less : max (high + last) low < high := max_lt (by linarith) proper
        exact less.ne same.symm

end BarDaemon.ClampedWalks
