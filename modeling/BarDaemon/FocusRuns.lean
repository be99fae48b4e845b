import BarDaemon.FocusChanges
import BarDaemon.TransitionRuns

/-!
# Runs of focus changes

The former value of a setting is the one that was reported before the first
set that touched it since the last reset. A reset applies it again.
-/

namespace BarDaemon.FocusSettings

open Std TransitionRuns

/-! ### Events -/

inductive Event
  /-- The compositor changes by itself, or is restarted. -/
  | drift (compositor : Reply)
  /-- A set, or a reset without a patch. -/
  | change (patch : Option Values)

variable (world : Surroundings)

def step (session : Session) : Event → Session
  | .drift compositor => { session with compositor }
  | .change patch => (Service.change world patch session).2

def Succeeds (session : Session) (patch : Option Values) : Prop :=
  ∃ state, (Service.change world patch session).1 = .ok state

/-- No successful set touches the key. -/
def Untouched (key : String) (session : Session) (event : Event) : Prop :=
  ∀ patch, event = .change (some patch) → key ∈ patch →
    ¬Succeeds world session (some patch)

/-- No successful reset. -/
def NoReset (session : Session) (event : Event) : Prop :=
  event = .change none → ¬Succeeds world session none

/-- Before any change. -/
def Session.fresh (compositor : Reply) : Session :=
  ⟨0, compositor, none⟩

/-- The value that is reported immediately before the first successful set
that touches the key since the last successful reset. -/
structure FirstValue (compositor : Reply) (events : List Event) (key : String)
    (value : Value) : Prop where
  intro ::
  found : ∃ earlier before patch later,
    events = earlier ++ before ++ .change (some patch) :: later ∧
    (earlier = [] ∨ ∃ others, earlier = others ++ [.change none] ∧
      Succeeds world (run (step world) (.fresh compositor) others) none) ∧
    StepsMeet (step world) (Untouched world key)
      (run (step world) (.fresh compositor) earlier) before ∧
    Succeeds world (run (step world) (.fresh compositor) (earlier ++ before))
      (some patch) ∧
    key ∈ patch ∧
    (reported (run (step world) (.fresh compositor)
      (earlier ++ before)).compositor)[key]? = some value ∧
    StepsMeet (step world) (NoReset world)
      (run (step world) (.fresh compositor)
        (earlier ++ before ++ [.change (some patch)])) later

/-! ### Steps -/

variable {world} {session : Session} {key : String}

theorem changed_of_succeeds (atomic : world.Atomic) {patch : Option Values}
    (succeeds : Succeeds world session patch) :
    Service.Changed session patch (step world session (.change patch)) := by
  obtain ⟨state, result⟩ := succeeds
  exact (Service.meets_change atomic session patch).ok ⟨rfl, rfl⟩
    (Attempt.eq_of_fst_eq_ok result)

theorem failed_of_error (atomic : world.Atomic) {patch : Option Values}
    {failure : Failure}
    (result : (Service.change world patch session).1 = .error failure) :
    Service.Failed session patch failure
      (step world session (.change patch)) := by
  apply (Service.meets_change atomic session patch).error ⟨rfl, rfl⟩
  rw [← result]
  rfl

theorem document_of_fails (atomic : world.Atomic) {patch : Option Values}
    (fails : ¬Succeeds world session patch) :
    (step world session (.change patch)).document = session.document := by
  cases result : (Service.change world patch session).1 with
  | ok state => exact absurd ⟨state, result⟩ fails
  | error failure =>
      rw [Session.document, (failed_of_error atomic result).1]
      rfl

theorem previous_of_set (atomic : world.Atomic) {patch : Values}
    (succeeds : Succeeds world session (some patch)) :
    (step world session (.change (some patch))).document.previous[key]? =
      session.document.previous[key]?.or
        (if key ∈ patch then (reported session.compositor)[key]? else none) := by
  obtain ⟨values, next, planned, saved, _⟩ := changed_of_succeeds atomic succeeds
  obtain ⟨_, _, former⟩ := planned.set patch rfl
  rw [Session.document, saved]
  exact former key

theorem previous_of_reset (atomic : world.Atomic)
    (succeeds : Succeeds world session none) :
    (step world session (.change none)).document.previous[key]? = none := by
  obtain ⟨values, next, planned, saved, _⟩ := changed_of_succeeds atomic succeeds
  obtain ⟨rfl, _⟩ := planned.reset rfl
  rw [Session.document, saved]
  exact ExtTreeMap.getElem?_empty

/-! ### Runs -/

theorem untouched_step (atomic : world.Atomic) (event : Event)
    (absent : session.document.previous[key]? = none)
    (untouched : Untouched world key session event) :
    (step world session event).document.previous[key]? = none := by
  cases event with
  | drift compositor => exact absent
  | change patch =>
      by_cases succeeds : Succeeds world session patch
      · cases patch with
        | none => exact previous_of_reset atomic succeeds
        | some patch =>
            have away : key ∉ patch := fun among =>
              untouched patch rfl among succeeds
            rw [previous_of_set atomic succeeds, absent, if_neg away]
            rfl
      · rw [document_of_fails atomic succeeds, absent]

theorem kept_step (atomic : world.Atomic) (event : Event) {value : Value}
    (held : session.document.previous[key]? = some value)
    (noReset : NoReset world session event) :
    (step world session event).document.previous[key]? = some value := by
  cases event with
  | drift compositor => exact held
  | change patch =>
      by_cases succeeds : Succeeds world session patch
      · cases patch with
        | none => exact absurd succeeds (noReset rfl)
        | some patch =>
            rw [previous_of_set atomic succeeds, held]
            rfl
      · rw [document_of_fails atomic succeeds, held]

/-- The former value of a key in the document is its first value. -/
theorem previous_of_firstValue (atomic : world.Atomic) {compositor : Reply}
    {events : List Event} {value : Value}
    (first : FirstValue world compositor events key value) :
    (run (step world) (.fresh compositor) events).document.previous[key]? =
      some value := by
  obtain ⟨earlier, before, patch, later, rfl, since, untouched, succeeds,
    among, shown, noReset⟩ := first.found
  have clean : (run (step world) (.fresh compositor)
      earlier).document.previous[key]? = none := by
    rcases since with rfl | ⟨others, rfl, reset⟩
    · exact ExtTreeMap.getElem?_empty
    · rw [run_append]
      exact previous_of_reset atomic reset
  have absent : (run (step world) (.fresh compositor)
      (earlier ++ before)).document.previous[key]? = none := by
    rw [run_append]
    exact @invariant_run _ _ _ _
      (fun session => session.document.previous[key]? = none)
      (fun _ event held away => untouched_step atomic event held away)
      _ clean _ untouched
  have captured : (run (step world) (.fresh compositor)
      (earlier ++ before ++ [.change (some patch)])).document.previous[key]? =
        some value := by
    rw [run_append]
    change (step world _ (.change (some patch))).document.previous[key]? = _
    rw [previous_of_set atomic succeeds, absent, if_pos among, shown]
    rfl
  have whole : earlier ++ before ++ Event.change (some patch) :: later =
      earlier ++ before ++ [.change (some patch)] ++ later := by simp
  rw [whole, run_append]
  exact @invariant_run _ _ _ _
    (fun session => session.document.previous[key]? = some value)
    (fun _ event held kept => kept_step atomic event held kept)
    _ captured _ noReset

/-- In every run, a change that fails and is rolled back leaves the document
and the requested settings as they were, and a reset that succeeds restores
the first value of each key that is still reported, as far as values are
compared. -/
theorem changes_restore_values (atomic : world.Atomic) (compositor : Reply)
    (events : List Event) :
    (∀ patch text,
      (Service.change world patch
        (run (step world) (.fresh compositor) events)).1 =
          .error (.error text) →
      (run (step world) (.fresh compositor)
        (events ++ [.change patch])).disk =
          (run (step world) (.fresh compositor) events).disk ∧
      Service.Restored (run (step world) (.fresh compositor) events) patch
        (run (step world) (.fresh compositor) (events ++ [.change patch]))) ∧
    (Succeeds world (run (step world) (.fresh compositor) events) none →
      ∀ key value, FirstValue world compositor events key value →
      key ∈ reported (run (step world) (.fresh compositor) events).compositor →
      ∃ actual, (reported (run (step world) (.fresh compositor)
          (events ++ [.change none])).compositor)[key]? = some actual ∧
        same key actual value = true) := by
  simp only [run_append, run_cons, run_nil]
  constructor
  · intro patch text result
    obtain ⟨kept, restored⟩ := failed_of_error atomic result
    exact ⟨kept, restored text rfl⟩
  · intro succeeds key value first shown
    obtain ⟨values, next, planned, _, applied⟩ :=
      changed_of_succeeds atomic succeeds
    obtain ⟨_, rfl⟩ := planned.reset rfl
    apply applied
    rw [ExtTreeMap.getElem?_filter', previous_of_firstValue atomic first]
    exact Option.filter_eq_some_iff.mpr ⟨rfl, shown⟩

/-! ### A compositor -/

/-- What is reported of an option with a value. -/
def Kind.part (key : String) (value : Value) : Kind → Part
  | .bool => ⟨some key, some value, none, none⟩
  | .int _ => ⟨some key, none, some value, none⟩
  | .float _ => ⟨some key, none, none, some value⟩

/-- A reply after the values were configured; what is not reported stays so. -/
def obeyed (values : Values) (reply : Reply) : Reply :=
  (options.zip reply).map fun (option, part) =>
    part.map fun before =>
      match values[option.1]? with
      | some value => option.2.part option.1 value
      | none => before

/-- A reply about the first options only. -/
def reporting (values : List Value) : Reply :=
  List.zipWith (fun option value => value.map (option.2.part option.1 ·))
    options (values.map some ++ options.map fun _ => none)

/-- Every call is answered, and every command obeyed. -/
def obeying : Surroundings where
  eligible _ := true
  sleep _ := (false, 0)
  loads _ := true
  replies _ := true
  configured _ values reply := (true, obeyed values reply)
  writing _ := .written

theorem succeeds_of_isOk {patch : Option Values}
    (ok : (Service.change world patch session).1.isOk = true) :
    Succeeds world session patch := by
  rw [Succeeds]
  cases result : (Service.change world patch session).1 with
  | ok state => exact ⟨state, rfl⟩
  | error failure =>
      rw [result] at ok
      cases ok

def focus (mode : Nat) : Value :=
  .number (.posInt mode)

def followMouse (mode : Nat) : Values :=
  ExtTreeMap.ofList [("input:follow_mouse", focus mode)]

/-- A setting that was set once is reset to its first value. -/
theorem changes_restore_follow_mouse :
    ∃ actual, (reported (run (step obeying)
        (.fresh (reporting [focus 1]))
        ([.change (some (followMouse 0))] ++ [.change none])
        ).compositor)["input:follow_mouse"]? = some actual ∧
      same "input:follow_mouse" actual (focus 1) = true := by
  have start : Succeeds obeying
      (.fresh (reporting [focus 1])) (some (followMouse 0)) :=
    succeeds_of_isOk (by decide +kernel)
  have reset : Succeeds obeying (run (step obeying)
      (.fresh (reporting [focus 1]))
      [.change (some (followMouse 0))]) none :=
    succeeds_of_isOk (by decide +kernel)
  have shown : (reported (reporting [focus 1]))["input:follow_mouse"]? =
      some (focus 1) := by
    decide +kernel
  have first : FirstValue obeying (reporting [focus 1])
      [.change (some (followMouse 0))] "input:follow_mouse" (focus 1) :=
    ⟨[], [], followMouse 0, [], rfl, .inl rfl, trivial, start,
      by decide +kernel, shown, trivial⟩
  exact (@changes_restore_values obeying
    (fun _ never => by cases never) _ _).2 reset _ _ first (by decide +kernel)

/-- A threshold of 1 that is configured becomes 1.00005, and saving fails. -/
def imprecise (replaced : Bool) : Surroundings where
  eligible _ := true
  sleep _ := (false, 0)
  loads _ := true
  replies _ := true
  configured _ values reply := (true, obeyed
    (values.map fun _ value =>
      if value = .number (.float (.ofNat 1)) then
        .number (.float (.ofBits 0x3FF000346DC5D639))
      else value) reply)
  writing _ := .failed replaced

def threshold (number : Binary64) : Value :=
  .number (.float number)

/-- A rollback restores a threshold as far as thresholds are compared, and a
save that fails may have replaced the file. -/
theorem failed_set_moves_threshold :
    let key := "input:follow_mouse_threshold"
    let start := Session.fresh
      (reporting [focus 1, .bool true, .bool true, threshold (.ofNat 1)])
    let patch : Values := ExtTreeMap.ofList [(key, threshold (.ofNat 2))]
    let failed (replaced : Bool) :=
      Service.change (imprecise replaced) (some patch) start
    (∀ replaced, (failed replaced).1.isOk = false) ∧
      (reported start.compositor)[key]? = some (threshold (.ofNat 1)) ∧
      (reported (failed false).2.compositor)[key]? =
        some (threshold (.ofBits 0x3FF000346DC5D639)) ∧
      (failed true).2.disk.isSome = true ∧ start.disk.isNone = true := by
  decide +kernel

end BarDaemon.FocusSettings
