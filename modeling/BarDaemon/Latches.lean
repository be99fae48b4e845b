import Mathlib.Data.List.Basic

/-!
# Latches

A latch remembers that it was set until it is reset. Where an event both sets
and resets, it is set.
-/

namespace BarDaemon.Latches

variable {Event : Type*}

def latch (set reset : Event → Bool) (state : Bool) (event : Event) : Bool :=
  set event || (state && !reset event)

/-- The latch after a list of events. -/
def latched (set reset : Event → Bool) (state : Bool) (events : List Event) :
    Bool :=
  events.foldl (latch set reset) state

variable {set reset : Event → Bool} {state : Bool} {events : List Event}

theorem latched_append (others : List Event) :
    latched set reset state (events ++ others) =
      latched set reset (latched set reset state events) others :=
  List.foldl_append

theorem latched_cons (event : Event) :
    latched set reset state (event :: events) =
      latched set reset (latch set reset state event) events :=
  rfl

theorem latched_of_no_reset (none : ∀ event ∈ events, reset event = false) :
    latched set reset true events = true := by
  induction events with
  | nil => rfl
  | cons event events ih =>
      obtain ⟨first, others⟩ := List.forall_mem_cons.mp none
      have still : latch set reset true event = true := by
        rw [latch, first, Bool.not_false, Bool.and_true, Bool.or_true]
      rw [latched_cons, still, ih others]

theorem latched_of_no_set (none : ∀ event ∈ events, set event = false) :
    latched set reset false events = false := by
  induction events with
  | nil => rfl
  | cons event events ih =>
      obtain ⟨first, others⟩ := List.forall_mem_cons.mp none
      have still : latch set reset false event = false := by
        rw [latch, first, Bool.false_and, Bool.or_false]
      rw [latched_cons, still, ih others]

/-- A latch that was set is set until it is reset. -/
theorem latched_after_set {before : List Event} {event : Event}
    (sets : set event = true) (none : ∀ event ∈ events, reset event = false) :
    latched set reset state (before ++ event :: events) = true := by
  have now : latch set reset (latched set reset state before) event = true := by
    rw [latch, sets, Bool.true_or]
  rw [latched_append, latched_cons, now, latched_of_no_reset none]

/-- A latch that was reset is not set until an event sets it. -/
theorem latched_after_reset {before : List Event} {event : Event}
    (resets : reset event = true) (keeps : set event = false)
    (none : ∀ event ∈ events, set event = false) :
    latched set reset state (before ++ event :: events) = false := by
  have now : latch set reset (latched set reset state before) event =
      false := by
    rw [latch, keeps, resets, Bool.not_true, Bool.and_false, Bool.or_false]
  rw [latched_append, latched_cons, now, latched_of_no_set none]

end BarDaemon.Latches
