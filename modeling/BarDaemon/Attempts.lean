import Mathlib.Data.List.Basic
import Mathlib.Order.Defs.Unbundled

/-!
# Attempts

An attempt is a computation over a state that may fail and that keeps the
state it failed in.  Its specifications name a condition before, one after
success and one after failure, and compose along the program text.
-/

namespace BarDaemon

/-- A computation over a state, which also survives a failure. -/
def Attempt (State Error Value : Type) : Type :=
  State → Except Error Value × State

namespace Attempt

variable {State Error Value Other : Type}

instance : Monad (Attempt State Error) where
  pure value state := (.ok value, state)
  bind attempt next state :=
    match attempt state with
    | (.ok value, after) => next value after
    | (.error error, after) => (.error error, after)

/-- Fail in the present state. -/
def fail (error : Error) : Attempt State Error Value :=
  fun state => (.error error, state)

def read : Attempt State Error State :=
  fun state => (.ok state, state)

def change (update : State → State) : Attempt State Error Unit :=
  fun state => (.ok (), update state)

/-- Fail unless the condition holds. -/
def ensure (condition : Bool) (error : Error) : Attempt State Error Unit :=
  if condition then pure () else fail error

/-- Lift a computation that does not touch the state. -/
def lift {Cause : Type} (wrap : Cause → Error) :
    Except Cause Value → Attempt State Error Value
  | .ok value => pure value
  | .error cause => fail (wrap cause)

/-- Turn some failures into values. -/
def catching {Cause : Type} (caught : Error → Option Cause)
    (attempt : Attempt State Error Value) :
    Attempt State Error (Except Cause Value) :=
  fun state =>
    match attempt state with
    | (.ok value, after) => (.ok (.ok value), after)
    | (.error error, after) =>
        match caught error with
        | some cause => (.ok (.error cause), after)
        | none => (.error error, after)

@[simp]
theorem pure_apply (value : Value) (state : State) :
    (pure value : Attempt State Error Value) state = (.ok value, state) :=
  rfl

theorem bind_apply (attempt : Attempt State Error Value)
    (next : Value → Attempt State Error Other) (state : State) :
    (attempt >>= next) state =
      match attempt state with
      | (.ok value, after) => next value after
      | (.error error, after) => (.error error, after) :=
  rfl

theorem bind_eq_ok_iff {attempt : Attempt State Error Value}
    {next : Value → Attempt State Error Other} {state final : State}
    {result : Other} :
    (attempt >>= next) state = (.ok result, final) ↔
      ∃ value middle, attempt state = (.ok value, middle) ∧
        next value middle = (.ok result, final) := by
  rw [bind_apply]
  rcases attempt state with ⟨outcome, middle⟩
  cases outcome with
  | ok value => simp
  | error error => simp

theorem ensure_bind_eq_ok_iff {condition : Bool} {error : Error}
    {next : Unit → Attempt State Error Other} {state final : State}
    {result : Other} :
    (ensure condition error >>= next) state = (.ok result, final) ↔
      condition = true ∧ next () state = (.ok result, final) := by
  cases condition with
  | true => simp [ensure, bind_apply]
  | false => simp [ensure, fail, bind_apply]

theorem lift_bind_eq_ok_iff {Cause : Type} {wrap : Cause → Error}
    {outcome : Except Cause Value} {next : Value → Attempt State Error Other}
    {state final : State} {result : Other} :
    (lift wrap outcome >>= next) state = (.ok result, final) ↔
      ∃ value, outcome = .ok value ∧
        next value state = (.ok result, final) := by
  cases outcome with
  | ok other => simp [lift, bind_apply]
  | error cause => simp [lift, fail, bind_apply]

theorem eq_of_fst_eq_ok {outcome : Except Error Value × State} {value : Value}
    (returned : outcome.1 = .ok value) : outcome = (.ok value, outcome.2) := by
  rw [← returned]

/-! ### Specifications -/

/-- From a state that meets `before`, success leads to `done` and failure to
`failed`. -/
def Meets (before : State → Prop) (attempt : Attempt State Error Value)
    (done : Value → State → Prop) (failed : Error → State → Prop) : Prop :=
  ∀ state, before state →
    match attempt state with
    | (.ok value, after) => done value after
    | (.error error, after) => failed error after

variable {before before' middle : State → Prop}
  {attempt : Attempt State Error Value}
  {done done' : Value → State → Prop} {failed failed' : Error → State → Prop}

theorem Meets.ok (spec : Meets before attempt done failed) {state : State}
    (holds : before state) {value : Value} {after : State}
    (result : attempt state = (.ok value, after)) : done value after := by
  have reached := spec state holds
  rwa [result] at reached

theorem Meets.error (spec : Meets before attempt done failed) {state : State}
    (holds : before state) {error : Error} {after : State}
    (result : attempt state = (.error error, after)) :
    failed error after := by
  have reached := spec state holds
  rwa [result] at reached

/-- A specification whose failure and success say the same of the state. -/
theorem Meets.after {settled : State → Prop}
    (spec : Meets before attempt (fun _ => settled) (fun _ => settled))
    {state : State} (holds : before state) : settled (attempt state).2 := by
  have reached := spec state holds
  rcases result : attempt state with ⟨outcome, after⟩
  rw [result] at reached
  cases outcome with
  | ok value => exact reached
  | error error => exact reached

theorem Meets.weaken (spec : Meets before' attempt done' failed')
    (weaker : ∀ state, before state → before' state)
    (onDone : ∀ value state, done' value state → done value state)
    (onFailed : ∀ error state, failed' error state → failed error state) :
    Meets before attempt done failed := by
  intro state holds
  have reached := spec state (weaker state holds)
  rcases result : attempt state with ⟨outcome, after⟩
  rw [result] at reached
  cases outcome with
  | ok value => exact onDone value after reached
  | error error => exact onFailed error after reached

theorem meets_pure {value : Value}
    (holds : ∀ state, before state → done value state) :
    Meets before (pure value : Attempt State Error Value) done failed :=
  holds

theorem meets_fail {error : Error}
    (holds : ∀ state, before state → failed error state) :
    Meets before (fail error : Attempt State Error Value) done failed :=
  holds

theorem meets_read {after : State → State → Prop}
    (holds : ∀ state, before state → after state state) :
    Meets before (read : Attempt State Error State) after failed :=
  holds

theorem meets_change {update : State → State} {after : Unit → State → Prop}
    (holds : ∀ state, before state → after () (update state)) :
    Meets before (change update : Attempt State Error Unit) after failed :=
  holds

theorem Meets.bind {next : Value → Attempt State Error Other}
    {first : Value → State → Prop} {final : Other → State → Prop}
    (spec : Meets before attempt first failed)
    (rest : ∀ value, Meets (first value) (next value) final failed) :
    Meets before (attempt >>= next) final failed := by
  intro state holds
  have reached := spec state holds
  rw [bind_apply]
  rcases result : attempt state with ⟨outcome, after⟩
  rw [result] at reached
  cases outcome with
  | ok value => exact rest value after reached
  | error error => exact reached

theorem meets_ensure {condition : Bool} {error : Error}
    {after : Unit → State → Prop}
    (holds : ∀ state, before state → condition = true → after () state)
    (fails : ∀ state, before state → condition = false →
      failed error state) :
    Meets before (ensure condition error) after failed := by
  cases condition with
  | true => exact fun state met => holds state met rfl
  | false => exact fun state met => fails state met rfl

theorem meets_lift {Cause : Type} {wrap : Cause → Error}
    {outcome : Except Cause Value}
    (holds : ∀ state value, before state → outcome = .ok value →
      done value state)
    (fails : ∀ state cause, before state → outcome = .error cause →
      failed (wrap cause) state) :
    Meets before (lift wrap outcome) done failed := by
  cases outcome with
  | ok value => exact fun state met => holds state value met rfl
  | error cause => exact fun state met => fails state cause met rfl

/-- What is ensured is known from there on. -/
theorem meets_ensure_bind {condition : Bool} {error : Error}
    {next : Unit → Attempt State Error Value}
    (fails : ∀ state, before state → failed error state)
    (rest : condition = true → Meets before (next ()) done failed) :
    Meets before (ensure condition error >>= next) done failed := by
  cases condition with
  | true => exact rest rfl
  | false => exact fails

theorem meets_lift_bind {Cause : Type} {wrap : Cause → Error}
    {outcome : Except Cause Value} {next : Value → Attempt State Error Other}
    {final : Other → State → Prop}
    (fails : ∀ cause state, before state → failed (wrap cause) state)
    (rest : ∀ value, outcome = .ok value →
      Meets before (next value) final failed) :
    Meets before (lift wrap outcome >>= next) final failed := by
  cases outcome with
  | ok value => exact rest value rfl
  | error cause => exact fails cause

/-- Handling a failure does not touch the state. -/
theorem catching_state {Cause : Type} (caught : Error → Option Cause)
    (attempt : Attempt State Error Value) (state : State) :
    (attempt.catching caught state).2 = (attempt state).2 := by
  rcases result : attempt state with ⟨error | value, after⟩
  · cases cause : caught error <;> simp [Attempt.catching, result, cause]
  · simp [Attempt.catching, result]

/-- What holds of a value and of a failure that has been turned into one. -/
def handled {Cause : Type} (done : Value → State → Prop)
    (failed : Cause → State → Prop) : Except Cause Value → State → Prop
  | .ok value => done value
  | .error cause => failed cause

theorem Meets.catching {Cause : Type} {caught : Error → Option Cause}
    {after : Except Cause Value → State → Prop}
    (spec : Meets before attempt (fun value => after (.ok value))
      (fun error state => match caught error with
        | some cause => after (.error cause) state
        | none => failed error state)) :
    Meets before (attempt.catching caught) after failed := by
  intro state holds
  have reached := spec state holds
  rcases result : attempt state with ⟨outcome, middle⟩
  rw [result] at reached
  cases outcome with
  | ok value => simpa [Attempt.catching, result] using reached
  | error error =>
      cases cause : caught error with
      | none => simpa [Attempt.catching, result, cause] using reached
      | some cause => simpa [Attempt.catching, result, cause] using reached

theorem meets_ite {condition : Prop} [Decidable condition]
    {yes no : Attempt State Error Value}
    (onYes : condition → Meets before yes done failed)
    (onNo : ¬ condition → Meets before no done failed) :
    Meets before (if condition then yes else no) done failed := by
  by_cases holds : condition
  · simpa [holds] using onYes holds
  · simpa [holds] using onNo holds

/-- A precondition that fixes a fact may be taken out of the
specification. -/
theorem meets_of_fact {fact : Prop} (known : ∀ state, before state → fact)
    (spec : fact → Meets before attempt done failed) :
    Meets before attempt done failed :=
  fun state holds => spec (known state holds) state holds

/-- So may a fact that stands beside the precondition. -/
theorem meets_and_fact {fact : Prop}
    (spec : fact → Meets before attempt done failed) :
    Meets (fun state => before state ∧ fact) attempt done failed :=
  fun state holds => spec holds.2 state holds.1

/-! ### Relations between the two ends -/

/-- However the attempt ends, it respects the relation. -/
def Within (relation : State → State → Prop)
    (attempt : Attempt State Error Value) : Prop :=
  ∀ state, relation state (attempt state).2

section Within

variable {relation : State → State → Prop}

theorem Within.ok (within : Within relation attempt) {state after : State}
    {value : Value} (result : attempt state = (.ok value, after)) :
    relation state after := by
  have reached := within state
  rwa [result] at reached

theorem within_fail [Std.Refl relation] (error : Error) :
    Within relation (fail error : Attempt State Error Value) :=
  fun state => refl_of relation state

theorem within_pure [Std.Refl relation] (value : Value) :
    Within relation (pure value : Attempt State Error Value) :=
  fun state => refl_of relation state

theorem within_read [Std.Refl relation] :
    Within relation (read : Attempt State Error State) :=
  fun state => refl_of relation state

theorem within_change {update : State → State}
    (respects : ∀ state, relation state (update state)) :
    Within relation (change update : Attempt State Error Unit) :=
  respects

theorem within_ensure [Std.Refl relation] (condition : Bool)
    (error : Error) :
    Within relation (ensure condition error : Attempt State Error Unit) := by
  cases condition with
  | true => exact within_pure ()
  | false => exact within_fail error

theorem within_lift [Std.Refl relation] {Cause : Type}
    (wrap : Cause → Error) (outcome : Except Cause Value) :
    Within relation (lift wrap outcome : Attempt State Error Value) := by
  cases outcome with
  | ok value => exact within_pure value
  | error cause => exact within_fail (wrap cause)

theorem Within.bind [IsTrans State relation]
    {next : Value → Attempt State Error Other}
    (first : Within relation attempt)
    (rest : ∀ value, Within relation (next value)) :
    Within relation (attempt >>= next) := by
  intro state
  have reached := first state
  rw [bind_apply]
  rcases result : attempt state with ⟨outcome, after⟩
  rw [result] at reached
  cases outcome with
  | ok value => exact trans_of relation reached (rest value after)
  | error error => exact reached

theorem Within.mono {wider : State → State → Prop}
    (within : Within relation attempt)
    (covers : ∀ state after, relation state after → wider state after) :
    Within wider attempt :=
  fun state => covers _ _ (within state)

theorem Within.ite {condition : Prop} [Decidable condition]
    {yes no : Attempt State Error Value} (onYes : Within relation yes)
    (onNo : Within relation no) :
    Within relation (if condition then yes else no) := by
  by_cases holds : condition
  · simpa [holds] using onYes
  · simpa [holds] using onNo

theorem Within.catching {Cause : Type} {caught : Error → Option Cause}
    (within : Within relation attempt) :
    Within relation (attempt.catching caught) := by
  intro state
  rw [catching_state]
  exact within state

/-- A relation and a condition that it keeps give a specification. -/
theorem Within.meets {settled : State → Prop}
    (within : Within relation attempt)
    (keeps : ∀ state after, relation state after → before state →
      settled after) :
    Meets before attempt (fun _ => settled) (fun _ => settled) := by
  intro state holds
  have reached := keeps state _ (within state) holds
  rcases result : attempt state with ⟨outcome, after⟩
  rw [result] at reached
  cases outcome with
  | ok value => exact reached
  | error error => exact reached

/-- A specification, with a relation that the attempt respects anyway. -/
theorem Meets.within (spec : Meets before attempt done failed)
    (within : Within relation attempt) :
    Meets before attempt (fun value after => done value after ∧
      ∃ state, before state ∧ relation state after) failed := by
  intro state holds
  have reached := spec state holds
  have related := within state
  rcases result : attempt state with ⟨outcome, after⟩
  rw [result] at reached related
  cases outcome with
  | ok value => exact ⟨reached, state, holds, related⟩
  | error error => exact reached

end Within

/-! ### Triples within a relation -/

/-- From a state that meets `before`, the attempt respects the relation, and
success leads to `done`. -/
def Leads (relation : State → State → Prop) (before : State → Prop)
    (attempt : Attempt State Error Value) (done : Value → State → Prop) :
    Prop :=
  ∀ state, before state →
    match attempt state with
    | (.ok value, after) => relation state after ∧ done value after
    | (.error _, after) => relation state after

section Leads

variable {relation : State → State → Prop}

theorem leads_of_forall
    (each : ∀ state, before state →
      match attempt state with
      | (.ok value, after) => relation state after ∧ done value after
      | (.error _, after) => relation state after) :
    Leads relation before attempt done :=
  each

theorem Leads.each (leads : Leads relation before attempt done)
    {state : State} (holds : before state) :
    match attempt state with
    | (.ok value, after) => relation state after ∧ done value after
    | (.error _, after) => relation state after :=
  leads state holds

theorem Leads.respects (leads : Leads relation before attempt done)
    {state : State} (holds : before state) :
    relation state (attempt state).2 := by
  have reached := leads state holds
  rcases result : attempt state with ⟨outcome, after⟩
  rw [result] at reached
  cases outcome with
  | ok value => exact reached.1
  | error error => exact reached

theorem Leads.ok (leads : Leads relation before attempt done) {state : State}
    (holds : before state) {value : Value} {after : State}
    (result : attempt state = (.ok value, after)) : done value after := by
  have reached := leads state holds
  rw [result] at reached
  exact reached.2

theorem Leads.weaken (leads : Leads relation before' attempt done')
    (weaker : ∀ state, before state → before' state)
    (onDone : ∀ value state, done' value state → done value state) :
    Leads relation before attempt done := by
  intro state holds
  have reached := leads state (weaker state holds)
  rcases result : attempt state with ⟨outcome, after⟩
  rw [result] at reached
  cases outcome with
  | ok value => exact ⟨reached.1, onDone value after reached.2⟩
  | error error => exact reached

/-- An attempt that respects a narrower relation keeps what that relation
keeps. -/
theorem Within.leads {narrow : State → State → Prop}
    (within : Within narrow attempt)
    (covers : ∀ state after, narrow state after → relation state after)
    (keeps : ∀ state after, narrow state after → before state →
      before after) :
    Leads relation before attempt (fun _ => before) := by
  intro state holds
  have reached := within state
  rcases result : attempt state with ⟨outcome, after⟩
  rw [result] at reached
  cases outcome with
  | ok value => exact ⟨covers _ _ reached, keeps _ _ reached holds⟩
  | error error => exact covers _ _ reached

theorem leads_of_respects
    (respects : ∀ state, before state → relation state (attempt state).2) :
    Leads relation before attempt (fun _ _ => True) := by
  intro state holds
  have reached := respects state holds
  rcases result : attempt state with ⟨outcome, after⟩
  rw [result] at reached
  cases outcome with
  | ok value => exact ⟨reached, trivial⟩
  | error error => exact reached

theorem Within.leads_true (within : Within relation attempt) :
    Leads relation before attempt (fun _ _ => True) :=
  leads_of_respects fun state _ => within state

theorem leads_pure [Std.Refl relation] {value : Value}
    (holds : ∀ state, before state → done value state) :
    Leads relation before (pure value : Attempt State Error Value) done :=
  fun state met => ⟨refl_of relation state, holds state met⟩

theorem leads_fail [Std.Refl relation] (error : Error) :
    Leads relation before (fail error : Attempt State Error Value) done :=
  fun state _ => refl_of relation state

theorem leads_change {update : State → State} {after : Unit → State → Prop}
    (respects : ∀ state, before state → relation state (update state))
    (holds : ∀ state, before state → after () (update state)) :
    Leads relation before (change update : Attempt State Error Unit) after :=
  fun state met => ⟨respects state met, holds state met⟩

theorem leads_ensure [Std.Refl relation] {condition : Bool} {error : Error}
    {after : Unit → State → Prop}
    (holds : ∀ state, before state → condition = true → after () state) :
    Leads relation before (ensure condition error) after := by
  cases condition with
  | true => exact fun state met => ⟨refl_of relation state, holds state met rfl⟩
  | false => exact fun state _ => refl_of relation state

theorem leads_lift [Std.Refl relation] {Cause : Type} {wrap : Cause → Error}
    {outcome : Except Cause Value}
    (holds : ∀ state value, before state → outcome = .ok value →
      done value state) :
    Leads relation before (lift wrap outcome) done := by
  cases outcome with
  | ok value =>
      exact fun state met => ⟨refl_of relation state, holds state value met rfl⟩
  | error cause => exact fun state _ => refl_of relation state

theorem Leads.bind [IsTrans State relation]
    {next : Value → Attempt State Error Other}
    {first : Value → State → Prop} {final : Other → State → Prop}
    (leads : Leads relation before attempt first)
    (rest : ∀ value, Leads relation (first value) (next value) final) :
    Leads relation before (attempt >>= next) final := by
  intro state holds
  have reached := leads state holds
  rw [bind_apply]
  rcases result : attempt state with ⟨outcome, after⟩
  rw [result] at reached
  cases outcome with
  | error error => exact reached
  | ok value =>
      have continued := rest value after reached.2
      rcases ended : next value after with ⟨outcome, last⟩
      rw [ended] at continued
      simp only [ended]
      cases outcome with
      | ok value =>
          exact ⟨trans_of relation reached.1 continued.1, continued.2⟩
      | error error => exact trans_of relation reached.1 continued

theorem leads_ite {condition : Prop} [Decidable condition]
    {yes no : Attempt State Error Value}
    (onYes : condition → Leads relation before yes done)
    (onNo : ¬ condition → Leads relation before no done) :
    Leads relation before (if condition then yes else no) done := by
  by_cases holds : condition
  · simpa [holds] using onYes holds
  · simpa [holds] using onNo holds

theorem Leads.catching {Cause : Type} {caught : Error → Option Cause}
    (leads : Leads relation before attempt done) :
    Leads relation before (attempt.catching caught) (fun _ _ => True) := by
  apply leads_of_respects
  intro state holds
  rw [catching_state]
  exact leads.respects holds

theorem leads_read_bind {next : State → Attempt State Error Other}
    {final : Other → State → Prop}
    (rest : ∀ seen, Leads relation (fun state => state = seen ∧ before state)
      (next seen) final) :
    Leads relation before (read >>= next) final :=
  fun state holds => rest state state ⟨rfl, holds⟩

/-- What the relation keeps is kept by every attempt that respects it. -/
theorem Leads.keeping (leads : Leads relation before attempt done)
    (keeps : ∀ state after, relation state after → before state →
      before after) :
    Leads relation before attempt
      (fun value state => done value state ∧ before state) := by
  intro state holds
  have reached := leads state holds
  rcases result : attempt state with ⟨outcome, after⟩
  rw [result] at reached
  cases outcome with
  | ok value => exact ⟨reached.1, reached.2, keeps _ _ reached.1 holds⟩
  | error error => exact reached

theorem Leads.within (leads : Leads relation (fun _ => True) attempt done) :
    Within relation attempt :=
  fun _ => leads.respects trivial

end Leads

/-! ### Loops -/

/-- Run an attempt for every element of a list, until one fails. -/
def forEach {Item : Type} (body : Item → Attempt State Error Unit) :
    List Item → Attempt State Error Unit
  | [] => pure ()
  | item :: items => do
      body item
      forEach body items

/-- The loop rule.  The invariant knows the elements behind it and those
ahead. -/
theorem meets_forEach {Item : Type}
    {body : Item → Attempt State Error Unit}
    (invariant : List Item → List Item → State → Prop)
    (spec : ∀ behind item ahead,
      Meets (invariant behind (item :: ahead)) (body item)
        (fun _ => invariant (behind ++ [item]) ahead) failed)
    (behind items : List Item) :
    Meets (invariant behind items) (forEach body items)
      (fun _ => invariant (behind ++ items) []) failed := by
  induction items generalizing behind with
  | nil =>
      simp only [List.append_nil]
      exact meets_pure (fun _ holds => holds)
  | cons item items ih =>
      have rest := ih (behind ++ [item])
      simp only [List.append_assoc, List.singleton_append] at rest
      exact Meets.bind (spec behind item items) (fun _ => rest)

theorem within_forEach {relation : State → State → Prop}
    [Std.Refl relation] [IsTrans State relation] {Item : Type}
    {body : Item → Attempt State Error Unit}
    (within : ∀ item, Within relation (body item)) (items : List Item) :
    Within relation (forEach body items) := by
  induction items with
  | nil => exact within_pure ()
  | cons item items ih => exact (within item).bind fun _ => ih

theorem leads_forEach {relation : State → State → Prop}
    [Std.Refl relation] [IsTrans State relation] {Item : Type}
    {invariant : State → Prop} {body : Item → Attempt State Error Unit}
    (leads : ∀ item, Leads relation invariant (body item)
      (fun _ => invariant)) (items : List Item) :
    Leads relation invariant (forEach body items) (fun _ => invariant) := by
  induction items with
  | nil => exact leads_pure fun _ holds => holds
  | cons item items ih => exact (leads item).bind fun _ => ih

-- A triple is not to be unfolded to the computation that it is about.
attribute [irreducible] Leads

end Attempt

end BarDaemon
