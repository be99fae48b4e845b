import Mathlib.Data.List.Basic

/-!
# Runs of a deterministic step function

A run consumes a list of events.  Conditions on runs are stated per step, in
the state before the step, so an invariant that needs them is still proved by
looking at one step at a time.
-/

namespace BarDaemon.TransitionRuns

variable {State Event : Type*} (step : State → Event → State)

/-- The state after a list of events. -/
def run (start : State) (events : List Event) : State :=
  events.foldl step start

@[simp]
theorem run_nil (start : State) : run step start [] = start :=
  rfl

@[simp]
theorem run_cons (start : State) (event : Event) (events : List Event) :
    run step start (event :: events) =
      run step (step start event) events :=
  rfl

theorem run_append (start : State) (first second : List Event) :
    run step start (first ++ second) =
      run step (run step start first) second :=
  List.foldl_append

/-- Every step of the run meets the condition in the state before it. -/
def StepsMeet (condition : State → Event → Prop) :
    State → List Event → Prop
  | _, [] => True
  | start, event :: events =>
      condition start event ∧ StepsMeet condition (step start event) events

variable {step} {condition : State → Event → Prop}

theorem stepsMeet_append_iff {start : State} {first second : List Event} :
    StepsMeet step condition start (first ++ second) ↔
      StepsMeet step condition start first ∧
        StepsMeet step condition (run step start first) second := by
  induction first generalizing start with
  | nil => simp [StepsMeet]
  | cons event events ih => simp [StepsMeet, ih, and_assoc]

/-- A condition that every event of the list meets in any state. -/
theorem stepsMeet_of_mem {events : List Event}
    (met : ∀ event ∈ events, ∀ state, condition state event)
    (start : State) : StepsMeet step condition start events := by
  induction events generalizing start with
  | nil => exact trivial
  | cons event events ih =>
      exact ⟨met event (by simp) start, ih (fun other member =>
        met other (List.mem_cons_of_mem event member)) _⟩

theorem stepsMeet_of_forall (always : ∀ state event, condition state event)
    (start : State) (events : List Event) :
    StepsMeet step condition start events :=
  stepsMeet_of_mem (fun event _ state => always state event) start

/-- An invariant preserved by every permitted step holds after a permitted
run. -/
theorem invariant_run {invariant : State → Prop}
    (preserved : ∀ state event, invariant state → condition state event →
      invariant (step state event))
    {start : State} (initially : invariant start) {events : List Event}
    (permitted : StepsMeet step condition start events) :
    invariant (run step start events) := by
  induction events generalizing start with
  | nil => exact initially
  | cons event events ih =>
      exact ih (preserved start event initially permitted.1) permitted.2

/-- A reflexive and transitive relation that every permitted step respects
relates the two ends of a permitted run, inside an invariant. -/
theorem relation_run {invariant : State → Prop}
    {relation : State → State → Prop}
    (reflexive : ∀ state, relation state state)
    (transitive : ∀ {first second third},
      relation first second → relation second third → relation first third)
    (preserved : ∀ state event, invariant state → condition state event →
      invariant (step state event))
    (respected : ∀ state event, invariant state → condition state event →
      relation state (step state event))
    {start : State} (initially : invariant start) {events : List Event}
    (permitted : StepsMeet step condition start events) :
    relation start (run step start events) := by
  induction events generalizing start with
  | nil => exact reflexive start
  | cons event events ih =>
      exact transitive (respected start event initially permitted.1)
        (ih (preserved start event initially permitted.1) permitted.2)

end BarDaemon.TransitionRuns
