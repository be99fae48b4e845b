import Mathlib.Logic.Basic

/-!
# Fallible steps

What is known of a chain of steps of which each may fail, once the whole chain
has succeeded.
-/

namespace BarDaemon.FallibleSteps

variable {Error Value Other : Type}

theorem bind_eq_ok_iff {first : Except Error Value}
    {rest : Value → Except Error Other} {result : Other} :
    (first >>= rest) = .ok result ↔
      ∃ value, first = .ok value ∧ rest value = .ok result := by
  cases first with
  | error error =>
      constructor
      · intro impossible
        cases impossible
      · rintro ⟨value, impossible, _⟩
        cases impossible
  | ok value =>
      constructor
      · intro succeeded
        exact ⟨value, rfl, succeeded⟩
      · rintro ⟨other, same, succeeded⟩
        cases same
        exact succeeded

theorem map_eq_ok_iff {step : Except Error Value} {change : Value → Other}
    {result : Other} :
    step.map change = .ok result ↔
      ∃ value, step = .ok value ∧ change value = result := by
  cases step with
  | error error => simp [Except.map]
  | ok value => simp [Except.map]

theorem error_bind {error : Error} {rest : Value → Except Error Other} :
    (.error error >>= rest) = .error error :=
  rfl

/-- Go on only where the condition holds. -/
def ensure (condition : Bool) (error : Error) : Except Error Unit :=
  if condition then .ok () else .error error

theorem ensure_of_true {condition : Bool} (holds : condition = true)
    (error : Error) : ensure condition error = .ok () :=
  if_pos holds

theorem ensure_eq_ok {condition : Bool} {error : Error} {done : Unit}
    (passed : ensure condition error = .ok done) : condition = true := by
  cases condition with
  | false => cases passed
  | true => rfl

theorem ok_bind {value : Value} {rest : Value → Except Error Other} :
    (.ok value >>= rest) = rest value :=
  rfl

theorem ensure_eq_ok_iff {condition : Bool} {error : Error} {done : Unit} :
    ensure condition error = .ok done ↔ condition = true :=
  ⟨ensure_eq_ok, fun holds => ensure_of_true holds error⟩

theorem ensure_then_eq_ok_iff {condition : Bool} {error : Error}
    {rest : Unit → Except Error Value} {result : Value} :
    (ensure condition error >>= rest) = .ok result ↔
      condition = true ∧ rest () = .ok result := by
  rw [bind_eq_ok_iff]
  simp only [ensure_eq_ok_iff]
  constructor
  · rintro ⟨_, holds, succeeded⟩
    exact ⟨holds, succeeded⟩
  · rintro ⟨holds, succeeded⟩
    exact ⟨(), holds, succeeded⟩

/-- A check that refuses. -/
theorem refusal_eq_ok_iff {condition : Prop} [Decidable condition]
    {error : Error} {rest : Except Error Value} {result : Value} :
    (if condition then .error error else rest) = .ok result ↔
      ¬ condition ∧ rest = .ok result := by
  by_cases holds : condition
  · simp [holds]
  · simp [holds]

end BarDaemon.FallibleSteps
