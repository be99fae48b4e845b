import Mathlib.Data.List.Induction

/-!
# Properties of every event of a trace

A property of an event may speak of the events before it.
-/

namespace BarDaemon.Traces

variable {Event : Type*}

/-- Every event of the trace meets the property, after the events before it. -/
def Each (allowed : List Event → Event → Prop) (trace : List Event) : Prop :=
  ∀ before event, before ++ [event] <+: trace → allowed before event

variable {allowed : List Event → Event → Prop} {trace : List Event}

theorem each_nil : Each allowed [] := by
  intro before event prior
  have empty := List.prefix_nil.mp prior
  simp at empty

theorem each_concat_iff {event : Event} :
    Each allowed (trace ++ [event]) ↔
      Each allowed trace ∧ allowed trace event := by
  constructor
  · intro each
    constructor
    · intro before earlier prior
      exact each before earlier (prior.trans (List.prefix_append _ _))
    · exact each trace event List.prefix_rfl
  · rintro ⟨each, last⟩ before earlier prior
    rcases List.prefix_concat_iff.mp prior with same | shorter
    · obtain ⟨rfl, rfl⟩ := List.append_inj' same rfl |>.imp id
        fun equal => List.cons.inj equal |>.1
      exact last
    · exact each before earlier shorter

/-- An event of the trace was allowed when it came. -/
theorem Each.of_mem {event : Event} (each : Each allowed trace)
    (member : event ∈ trace) :
    ∃ before, before ++ [event] <+: trace ∧ allowed before event := by
  obtain ⟨before, later, rfl⟩ := List.mem_iff_append.mp member
  have prior : before ++ [event] <+: before ++ event :: later :=
    ⟨later, by simp⟩
  exact ⟨before, prior, each before event prior⟩

theorem Each.and {permitted : List Event → Event → Prop}
    (each : Each allowed trace) (others : Each permitted trace) :
    Each (fun before event => allowed before event ∧ permitted before event)
      trace :=
  fun before event prior => ⟨each before event prior,
    others before event prior⟩

/-- Events that are allowed after the trace keep the property. -/
theorem Each.append {events : List Event} (each : Each allowed trace)
    (free : ∀ event ∈ events, ∀ before, trace <+: before →
      allowed before event) :
    Each allowed (trace ++ events) := by
  induction events using List.reverseRecOn with
  | nil => simpa using each
  | append_singleton events event ih =>
      rw [← List.append_assoc, each_concat_iff]
      constructor
      · exact ih fun other member => free other (by simp [member])
      · exact free event (by simp) _ (List.prefix_append _ _)

end BarDaemon.Traces
