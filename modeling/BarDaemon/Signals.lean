import Mathlib.Data.List.Basic

/-!
# Coalesced signals

A signal keeps at most one permit.  It is raised any number of times, and one
taking of the permit answers every raising before it.  The raisings are counted
instead of the permit, so that what has been answered can be named.
-/

namespace BarDaemon

structure Signal where
  raised : Nat
  taken : Nat
  taken_le : taken ≤ raised
deriving DecidableEq, Repr

namespace Signal

/-- Nothing has been raised. -/
def quiet : Signal :=
  ⟨0, 0, Nat.le_refl 0⟩

/-- The permit is there. -/
def pending (signal : Signal) : Bool :=
  decide (signal.taken < signal.raised)

def raise (signal : Signal) : Signal :=
  ⟨signal.raised + 1, signal.taken, Nat.le_succ_of_le signal.taken_le⟩

/-- Take the permit, if it is there. -/
def take (signal : Signal) : Signal :=
  ⟨signal.raised, signal.raised, Nat.le_refl signal.raised⟩

@[simp]
theorem raise_taken (signal : Signal) : signal.raise.taken = signal.taken :=
  rfl

@[simp]
theorem take_taken (signal : Signal) : signal.take.taken = signal.raised :=
  rfl

@[simp]
theorem take_raised (signal : Signal) : signal.take.raised = signal.raised :=
  rfl

@[simp]
theorem pending_raise (signal : Signal) : signal.raise.pending = true := by
  exact decide_eq_true (Nat.lt_succ_of_le signal.taken_le)

@[simp]
theorem pending_take (signal : Signal) : signal.take.pending = false := by
  simp [pending]

/-- Without a permit every raising has been answered. -/
theorem taken_eq_raised {signal : Signal} (quiet : signal.pending = false) :
    signal.taken = signal.raised := by
  have answered := signal.taken_le
  have missed := of_decide_eq_false quiet
  omega

end Signal

end BarDaemon
