import BarDaemon.FocusSettings

/-!
# Changes of focus settings

A change that fails leaves the file as it was, and every requested setting at
the value that was reported before, as far as values are compared. A change
that succeeds has applied what it requests and replaced the file.
-/

namespace BarDaemon.FocusSettings

open FallibleSteps Std

/-! ### Values -/

/-- A value that its key takes. -/
def Valid (key : String) (value : Value) : Prop :=
  (valid key value).isOk = true

theorem valid_iff {key : String} {value : Value} :
    Valid key value ↔ ∃ kind_, kind key = .ok kind_ ∧ kind_.takes value = true := by
  rw [Valid, valid]
  cases kind key with
  | error error => simp [error_bind, Except.isOk, Except.toBool]
  | ok found =>
      rw [ok_bind]
      cases takes : found.takes value <;>
        simp [ensure, takes, Except.isOk, Except.toBool]

/-- A setting is the same as itself. -/
theorem same_self {key : String} {value : Value} (isValid : Valid key value) :
    same key value value = true := by
  obtain ⟨kind_, found, takes⟩ := valid_iff.mp isValid
  rw [same, found]
  cases kind_ with
  | bool =>
      cases value with
      | bool value => exact beq_self_eq_true value
      | number number => cases takes
      | other => cases takes
  | int max =>
      cases value with
      | bool value => cases takes
      | number number =>
          cases number with
          | posInt number => exact beq_self_eq_true number
          | negInt number => exact beq_self_eq_true number
          | float number => cases takes
      | other => cases takes
  | float max =>
      rw [Kind.takes] at takes
      cases found : value.asF64 with
      | none =>
          rw [found] at takes
          cases takes
      | some number =>
          change (number.distance number).below tolerance = true
          rw [Binary64.distance_self]
          decide

/-! ### Reports -/

/-- What the compositor reports, as far as it is understood. -/
def reported (compositor : Reply) : Values :=
  match parse compositor with
  | .ok values => values
  | .error _ => ∅

theorem readPart_valid {values : Values}
    (each : ∀ key value, values[key]? = some value → Valid key value)
    (entry : (String × Kind) × Option Part) :
    ∀ key value, (readPart values entry)[key]? = some value → Valid key value := by
  obtain ⟨⟨name, kind⟩, part⟩ := entry
  cases part with
  | none => exact each
  | some part =>
      rw [readPart]
      split
      · split
        · rename_i found
          intro key value
          rw [ExtTreeMap.getElem?_insert]
          split
          · rename_i same
            rw [LawfulEqOrd.compare_eq_iff_eq] at same
            subst same
            rintro ⟨⟩
            exact (Option.filter_eq_some_iff.mp found).2
          · exact each key value
        · exact each
      · exact each

theorem reported_valid {compositor : Reply} {key : String} {value : Value}
    (found : (reported compositor)[key]? = some value) : Valid key value := by
  have all (entries : List ((String × Kind) × Option Part)) {values : Values}
      (each : ∀ key value, values[key]? = some value → Valid key value) :
      ∀ key value, (entries.foldl readPart values)[key]? = some value →
        Valid key value := by
    induction entries generalizing values with
    | nil => exact each
    | cons entry entries ih => exact ih (readPart_valid each entry)
  rw [reported] at found
  split at found
  · rename_i values parsed
    obtain ⟨_, rest⟩ := ensure_then_eq_ok_iff.mp parsed
    obtain ⟨_, equal⟩ := ensure_then_eq_ok_iff.mp rest
    cases equal
    exact all _ (fun _ _ never => by simp at never) _ _ found
  · simp at found

/-- Values that the compositor reports, as far as values are compared. -/
def Applied (values : Values) (compositor : Reply) : Prop :=
  ∀ key value, values[key]? = some value →
    ∃ actual, (reported compositor)[key]? = some actual ∧
      same key actual value = true

/-! ### What is requested -/

theorem capture_eq_ok {current : Values} {keys : List String}
    {previous result : Values} (captured : capture current keys previous = .ok result) :
    (∀ key ∈ keys, current[key]?.isSome = true) ∧
      ∀ key, result[key]? =
        previous[key]?.or (if key ∈ keys then current[key]? else none) := by
  induction keys generalizing previous with
  | nil =>
      cases captured
      simp
  | cons first keys ih =>
      rw [capture] at captured
      split at captured
      · rename_i value found
        obtain ⟨each, equal⟩ := ih captured
        constructor
        · exact List.forall_mem_cons.mpr ⟨by rw [found]; rfl, each⟩
        · intro key
          rw [equal, ExtTreeMap.getElem?_insertIfNew]
          by_cases same : key = first
          · subst same
            by_cases known : key ∈ previous <;> simp [known, found]
          · simp [Ne.symm same, same]
      · cases captured

/-- The document before a change. -/
def Session.document (session : Session) : Document :=
  session.disk.getD .default

/-- A set requests the settings of its patch, a reset those that have a former
value. -/
def Requests (patch : Option Values) (document : Document) (key : String) :
    Prop :=
  match patch with
  | some values => key ∈ values
  | none => key ∈ document.previous

/-- The document after a change, and the values that it requests. -/
structure Planned (patch : Option Values) (document : Document)
    (current values : Values) (next : Document) : Prop where
  reported : ∀ key ∈ values, key ∈ current
  covers : ∀ key, Requests patch document key → key ∈ current → key ∈ values
  set : ∀ patched, patch = some patched → values = patched ∧
    next.saved = document.saved ∪ patched ∧
    ∀ key, next.previous[key]? = document.previous[key]?.or
      (if key ∈ patched then current[key]? else none)
  reset : patch = none → next = .default ∧
    values = document.previous.filter fun key _ => current.contains key

theorem requested_planned {patch : Option Values} {document next : Document}
    {current values : Values}
    (succeeded : requested patch document current = .ok (values, next)) :
    Planned patch document current values next := by
  cases patch with
  | none =>
      cases succeeded
      constructor
      · intro key among
        obtain ⟨_, reported⟩ := ExtTreeMap.mem_filter.mp among
        rw [ExtTreeMap.getKey_eq] at reported
        exact reported
      · intro key requests among
        have former : key ∈ document.previous := requests
        apply ExtTreeMap.mem_filter.mpr
        refine ⟨former, ?_⟩
        rw [ExtTreeMap.getKey_eq]
        exact among
      · exact fun _ never => nomatch never
      · exact fun _ => ⟨rfl, rfl⟩
  | some patched =>
      obtain ⟨previous, captured, equal⟩ := bind_eq_ok_iff.mp succeeded
      cases equal
      obtain ⟨each, former⟩ := capture_eq_ok captured
      simp only [ExtTreeMap.mem_keys] at each former
      constructor
      · exact fun key among =>
          ExtTreeMap.mem_iff_isSome_getElem?.mpr (each key among)
      · exact fun _ requests _ => requests
      · rintro _ ⟨⟩
        exact ⟨rfl, rfl, former⟩
      · exact fun never => nomatch never

/-! ### Calls -/

/-- The file and the compositor are as given. -/
def At (disk : Option Document) (compositor : Reply) (session : Session) :
    Prop :=
  session.disk = disk ∧ session.compositor = compositor

/-- A save that fails has not replaced the file. -/
def Surroundings.Atomic (world : Surroundings) : Prop :=
  ∀ index, world.writing index ≠ .failed true

/-- An error, after which the file is as given. -/
def Unsaved (disk : Option Document) (failure : Failure) (session : Session) :
    Prop :=
  (∃ text, failure = .error text) ∧ session.disk = disk

/-- An error, after which the file and the compositor are as given. -/
def Quiet (disk : Option Document) (compositor : Reply) (failure : Failure)
    (session : Session) : Prop :=
  (∃ text, failure = .error text) ∧ At disk compositor session

namespace Service

open Attempt

variable {world : Surroundings} {disk : Option Document} {compositor : Reply}

theorem meets_ask {Result : Type}
    {answer : Nat → Session → Except String Result} :
    Meets (At disk compositor) (ask answer)
      (fun result session => At disk compositor session ∧
        ∃ index before, At disk compositor before ∧
          answer index before = .ok result)
      (Quiet disk compositor) := by
  intro session placed
  rw [ask]
  cases outcome : answer session.calls session with
  | ok result => exact ⟨placed, _, session, placed, outcome⟩
  | error text => exact ⟨⟨text, rfl⟩, placed⟩

theorem meets_checked {Result : Type} {outcome : Except String Result} :
    Meets (At disk compositor) (checked outcome)
      (fun result session => At disk compositor session ∧ outcome = .ok result)
      (Quiet disk compositor) :=
  meets_lift (fun _ _ placed found => ⟨placed, found⟩)
    fun _ text placed _ => ⟨⟨text, rfl⟩, placed⟩

/-- What is known of a result may be forgotten. -/
theorem meets_placed {Result : Type} {service : Service Result}
    {known : Result → Session → Prop}
    (spec : Meets (At disk compositor) service
      (fun result session => At disk compositor session ∧ known result session)
      (Quiet disk compositor)) :
    Meets (At disk compositor) service (fun _ => At disk compositor)
      (Quiet disk compositor) :=
  spec.weaken (fun _ placed => placed) (fun _ _ reached => reached.1)
    fun _ _ failed => failed

theorem meets_guard (generation : Nat) :
    Meets (At disk compositor) (guard world generation)
      (fun _ => At disk compositor) (Quiet disk compositor) := by
  rw [guard]
  apply (meets_placed meets_ask).bind
  intro _
  apply (meets_placed meets_ask).bind
  rintro ⟨preparing, current⟩
  exact meets_placed meets_checked

theorem meets_values :
    Meets (At disk compositor) (values world)
      (fun current session => At disk compositor session ∧
        reported compositor = current)
      (Quiet disk compositor) := by
  apply meets_ask.weaken (fun _ placed => placed) _ fun _ _ failed => failed
  rintro current session ⟨placed, index, before, ⟨_, rfl⟩, answer⟩
  obtain ⟨_, parsed⟩ := ensure_then_eq_ok_iff.mp answer
  rw [reported, parsed]
  exact ⟨placed, rfl⟩

theorem meets_load :
    Meets (At disk compositor) (load world)
      (fun document session => At disk compositor session ∧
        disk.getD .default = document)
      (Quiet disk compositor) := by
  apply meets_ask.weaken (fun _ placed => placed) _ fun _ _ failed => failed
  rintro document session ⟨placed, index, before, ⟨rfl, _⟩, answer⟩
  obtain ⟨_, equal⟩ := ensure_then_eq_ok_iff.mp answer
  exact ⟨placed, Except.ok.inj equal⟩

theorem meets_configure (values : Values) :
    Meets (fun session => session.disk = disk) (configure world values)
      (fun _ session => session.disk = disk) (Unsaved disk) := by
  apply meets_lift_bind fun text session kept => ⟨⟨text, rfl⟩, kept⟩
  intro _ _ session kept
  dsimp only
  split
  · rename_i accepted
    split at accepted <;> cases accepted
    exact kept
  · rename_i refused
    split at refused <;> cases refused
    exact ⟨⟨_, rfl⟩, kept⟩

theorem verified_iff {values observed : Values} {error : String} {done : Unit} :
    FallibleSteps.ensure (values.toList.all fun (key, value) =>
        observed[key]?.any fun actual => same key actual value) error =
      .ok done ↔
    ∀ key value, values[key]? = some value →
      ∃ actual, observed[key]? = some actual ∧ same key actual value = true := by
  rw [ensure_eq_ok_iff, List.all_eq_true]
  constructor
  · intro verified key value found
    have compared := verified (key, value)
      (ExtTreeMap.mem_toList_iff_getElem?_eq_some.mpr found)
    exact (Option.any_eq_true _ _).mp compared
  · rintro each ⟨key, value⟩ among
    exact (Option.any_eq_true _ _).mpr (each key value
      (ExtTreeMap.mem_toList_iff_getElem?_eq_some.mp among))

/-- Applied values are reported by the compositor. -/
theorem meets_apply (values : Values) (generation : Nat) :
    Meets (At disk compositor) (apply world values generation)
      (fun _ session => session.disk = disk ∧
        Applied values session.compositor)
      (Unsaved disk) := by
  have loose {Result : Type} {service : Service Result}
      {done : Result → Session → Prop} (compositor : Reply)
      (spec : Meets (At disk compositor) service done (Quiet disk compositor)) :
      Meets (At disk compositor) service done (Unsaved disk) :=
    spec.weaken (fun _ placed => placed) (fun _ _ reached => reached)
      fun _ _ failed => ⟨failed.1, failed.2.1⟩
  apply (loose compositor (meets_guard generation)).bind
  intro _
  have configured : Meets (At disk compositor) (configure world values)
      (fun _ session => session.disk = disk) (Unsaved disk) :=
    (meets_configure values).weaken (fun _ placed => placed.1)
      (fun _ _ kept => kept) fun _ _ failed => failed
  apply configured.bind
  intro _ session kept
  have observing : Meets (At disk session.compositor)
      (do
        let observed ← Service.values world
        checked (ensure
          (values.toList.all fun (key, value) =>
            observed[key]?.any fun actual => same key actual value)
          "Compositor has not applied the requested focus settings")
        return observed)
      (fun _ after => after.disk = disk ∧ Applied values after.compositor)
      (Unsaved disk) := by
    apply (loose _ meets_values).bind
    intro observed
    apply meets_lift_bind fun text after reached => ⟨⟨text, rfl⟩, reached.1.1⟩
    intro _ verified after reached
    obtain ⟨⟨sameDisk, sameCompositor⟩, found⟩ := reached
    refine ⟨sameDisk, ?_⟩
    rw [Applied, sameCompositor, found]
    exact verified_iff.mp verified
  exact observing session ⟨kept, rfl⟩

/-- Saving does not touch the compositor. -/
theorem meets_save (atomic : world.Atomic) (document : Document)
    (shown : Reply → Prop) :
    Meets (fun session => session.disk = disk ∧ shown session.compositor)
      (save world document)
      (fun _ session => session.disk = some document ∧
        shown session.compositor)
      (Unsaved disk) := by
  rintro session ⟨kept, shows⟩
  rw [save]
  cases writing : world.writing session.calls with
  | written => exact ⟨rfl, shows⟩
  | failed replaced =>
      cases replaced with
      | true => exact absurd writing (atomic _)
      | false => exact ⟨⟨_, rfl⟩, kept⟩

theorem applied_of_isEmpty {values : Values} (empty : values.isEmpty = true)
    (compositor : Reply) : Applied values compositor := by
  intro key value found
  rw [ExtTreeMap.isEmpty_iff.mp empty] at found
  simp at found

theorem meets_commit (atomic : world.Atomic) (values current : Values)
    (document : Document) (generation : Nat) :
    Meets (At disk compositor) (commit world values current document generation)
      (fun _ session => session.disk = some document ∧
        Applied values session.compositor)
      (Unsaved disk) := by
  have saving (shown : Values) :
      Meets (fun session => session.disk = disk ∧
          Applied values session.compositor)
        (do
          save world document
          return (⟨true, shown, document.saved, none⟩ : State))
        (fun _ session => session.disk = some document ∧
          Applied values session.compositor)
        (Unsaved disk) := by
    apply (meets_save atomic document (Applied values)).bind
    intro _
    exact meets_pure fun _ reached => reached
  rw [commit]
  apply meets_ite
  · intro empty
    apply Meets.bind _ saving
    exact meets_pure fun session placed =>
      ⟨placed.1, applied_of_isEmpty empty _⟩
  · intro _
    exact (meets_apply values generation).bind saving

/-- After an error that does not say otherwise, the former values are
applied. -/
def RolledBack (rollback : Values) (disk : Option Document) (failure : Failure)
    (session : Session) : Prop :=
  session.disk = disk ∧
    ∀ text, failure = .error text → Applied rollback session.compositor

theorem meets_restore (rollback : Values) (generation : Nat) (failure : String) :
    Meets (fun session => session.disk = disk)
      (restore world rollback generation failure) (fun _ _ => False)
      (RolledBack rollback disk) := by
  intro session kept
  have caughtSpec : Meets (At disk session.compositor)
      (caught (apply world rollback generation))
      (fun outcome after => after.disk = disk ∧
        (outcome.isOk = true → Applied rollback after.compositor))
      (RolledBack rollback disk) := by
    apply Meets.catching
    apply (meets_apply rollback generation).weaken (fun _ placed => placed)
    · exact fun _ _ reached => ⟨reached.1, fun _ => reached.2⟩
    · rintro _ after ⟨⟨text, rfl⟩, kept⟩
      exact ⟨kept, fun never => by cases never⟩
  have restoring : Meets (At disk session.compositor)
      (restore world rollback generation failure) (fun _ _ => False)
      (RolledBack rollback disk) := by
    rw [restore]
    apply meets_ite
    · intro _
      apply caughtSpec.bind
      intro outcome
      cases outcome with
      | error error =>
          exact meets_fail fun _ reached =>
            ⟨reached.1, fun _ never => by cases never⟩
      | ok shown =>
          exact meets_fail fun _ reached =>
            ⟨reached.1, fun _ _ => reached.2 rfl⟩
    · intro empty
      rw [Bool.not_eq_true, Bool.not_eq_false'] at empty
      exact meets_fail fun _ placed =>
        ⟨placed.1, fun _ _ => applied_of_isEmpty empty _⟩
  exact restoring session ⟨kept, rfl⟩

/-! ### Changes -/

/-- What is reported of each requested setting is as before, as far as values
are compared. -/
def Restored (start : Session) (patch : Option Values) (session : Session) :
    Prop :=
  ∀ key, Requests patch start.document key →
    ∀ value, (reported start.compositor)[key]? = some value →
      ∃ actual, (reported session.compositor)[key]? = some actual ∧
        same key actual value = true

theorem restored_of_at {start session : Session} (patch : Option Values)
    (placed : At start.disk start.compositor session) :
    Restored start patch session := by
  intro key _ value found
  rw [placed.2]
  exact ⟨value, found, same_self (reported_valid found)⟩

/-- What a change leads to when it fails. -/
def Failed (start : Session) (patch : Option Values) (failure : Failure)
    (session : Session) : Prop :=
  session.disk = start.disk ∧
    ∀ text, failure = .error text → Restored start patch session

/-- What a change leads to when it succeeds. -/
def Changed (start : Session) (patch : Option Values) (session : Session) :
    Prop :=
  ∃ values next, Planned patch start.document (reported start.compositor)
    values next ∧ session.disk = some next ∧ Applied values session.compositor

theorem restored_of_applied {start session : Session} {patch : Option Values}
    {values : Values} {next : Document}
    (planned : Planned patch start.document (reported start.compositor)
      values next)
    (applied : Applied
      (values.filterMap fun key _ => (reported start.compositor)[key]?)
      session.compositor) : Restored start patch session := by
  intro key requests value found
  have shown : key ∈ reported start.compositor :=
    ExtTreeMap.mem_iff_isSome_getElem?.mpr (by rw [found]; rfl)
  apply applied
  obtain ⟨desired, among⟩ := Option.isSome_iff_exists.mp
    (ExtTreeMap.mem_iff_isSome_getElem?.mp (planned.covers key requests shown))
  rw [ExtTreeMap.getElem?_filterMap', among]
  exact found

/-- The end of a change: commit what is planned, or roll it back. -/
theorem meets_commit_or_restore (atomic : world.Atomic) {start : Session}
    {patch : Option Values} {values : Values} {next : Document}
    (planned : Planned patch start.document (reported start.compositor)
      values next) (generation : Nat) :
    Meets (At start.disk start.compositor)
      (do
        match ← caught (commit world values (reported start.compositor) next
            generation) with
        | .ok state => return state
        | .error failure =>
            restore world
              (values.filterMap fun key _ => (reported start.compositor)[key]?)
              generation failure)
      (fun _ => Changed start patch)
      (Failed start patch) := by
  have committing : Meets (At start.disk start.compositor)
      (caught (commit world values (reported start.compositor) next generation))
      (fun outcome session => match outcome with
        | .ok _ => Changed start patch session
        | .error _ => session.disk = start.disk)
      (Failed start patch) := by
    apply Meets.catching
    apply (meets_commit atomic values _ next generation).weaken
      (fun _ placed => placed)
    · exact fun _ _ reached => ⟨values, next, planned, reached⟩
    · rintro _ session ⟨⟨text, rfl⟩, kept⟩
      exact kept
  apply committing.bind
  intro outcome
  cases outcome with
  | ok state => exact meets_pure fun _ reached => reached
  | error failure =>
      apply (meets_restore _ generation failure).weaken (fun _ kept => kept)
      · exact fun _ _ never => never.elim
      · rintro _ session ⟨kept, rolledBack⟩
        exact ⟨kept, fun text same =>
          restored_of_applied planned (rolledBack text same)⟩

theorem meets_change (atomic : world.Atomic) (start : Session)
    (patch : Option Values) :
    Meets (At start.disk start.compositor) (change world patch)
      (fun _ => Changed start patch)
      (Failed start patch) := by
  have settled {Result : Type} {service : Service Result}
      {before : Session → Prop} {done : Result → Session → Prop}
      (placed : ∀ session, before session →
        At start.disk start.compositor session)
      (spec : Meets (At start.disk start.compositor) service done
        (Quiet start.disk start.compositor)) :
      Meets before service done
        (Failed start patch) :=
    spec.weaken placed (fun _ _ reached => reached)
      fun _ _ failed =>
        ⟨failed.2.1, fun _ _ => restored_of_at patch failed.2⟩
  rw [change]
  apply (settled (fun _ placed => placed) (meets_placed meets_checked)).bind
  intro _
  apply (settled (fun _ placed => placed) meets_load).bind
  intro document
  apply meets_of_fact fun _ reached => reached.2
  rintro rfl
  apply (settled (fun _ reached => reached.1) (meets_placed meets_checked)).bind
  intro _
  apply (settled (fun _ placed => placed) (meets_placed meets_checked)).bind
  intro _
  apply (settled (fun _ placed => placed) (meets_placed meets_ask)).bind
  rintro ⟨preparing, generation⟩
  apply (settled (fun _ placed => placed) (meets_guard generation)).bind
  intro _
  apply (settled (fun _ placed => placed) meets_values).bind
  intro current
  apply meets_of_fact fun _ reached => reached.2
  rintro rfl
  apply (settled (fun _ reached => reached.1) meets_checked).bind
  rintro ⟨values, next⟩
  apply meets_of_fact fun _ reached => reached.2
  intro found
  have planned := requested_planned found
  exact (meets_commit_or_restore atomic planned generation).weaken
    (fun _ reached => reached.1) (fun _ _ reached => reached)
    fun _ _ failed => failed

end Service

end BarDaemon.FocusSettings
