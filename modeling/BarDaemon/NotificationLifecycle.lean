import BarDaemon.NotificationSections

/-!
# Incarnations, routes and signals

An identifier is occupied from the request that allocates it until it leaves
the active map.  Over every run its incarnations are opened and closed in turn,
each closed by exactly one signal; the route of an active notification is the
one that its latest content brought; and a signal about an action is sent only
while the notification offers it.
-/

namespace BarDaemon.Notifications

open Std OrderedMaps TransitionRuns Relation

/-! ## What sections do to the active map -/

namespace EngineData

/-- The same notifications under the same keys, with the same routes. -/
structure Carried (before after : EngineData) : Prop where
  sameIds : ∀ id : Nat, (after.active[id]?).map ActiveNotification.id =
    (before.active[id]?).map ActiveNotification.id
  sameSize : after.active.size = before.active.size
  sameTargets : after.updateTargets = before.updateTargets

namespace Carried

theorem refl (data : EngineData) : Carried data data :=
  ⟨fun _ => rfl, rfl, rfl⟩

theorem of_map {before after : EngineData}
    {change : Nat → ActiveNotification → ActiveNotification}
    (mapped : after.active = before.active.map change)
    (keepsId : ∀ id item, (change id item).id = item.id)
    (sameTargets : after.updateTargets = before.updateTargets) :
    Carried before after := by
  refine ⟨?_, by rw [mapped, ExtTreeMap.size_map], sameTargets⟩
  intro id
  rw [mapped, ExtTreeMap.getElem?_map, Option.map_map]
  cases before.active[id]? with
  | none => rfl
  | some item => exact congrArg some (keepsId id item)

theorem of_same {before after : EngineData}
    (sameActive : after.active = before.active)
    (sameTargets : after.updateTargets = before.updateTargets) :
    Carried before after :=
  ⟨fun _ => by rw [sameActive], by rw [sameActive], sameTargets⟩

theorem contains_eq {before after : EngineData}
    (carried : Carried before after) (id : Nat) :
    after.active.contains id = before.active.contains id := by
  have same := congrArg Option.isSome (carried.sameIds id)
  simpa only [Option.isSome_map, contains_eq_isSome] using same

theorem wellKeyed {before after : EngineData} (carried : Carried before after)
    (wellKeyed : before.WellKeyed) : after.WellKeyed := by
  refine ⟨?_, carried.sameSize ▸ wellKeyed.bounded⟩
  intro id item found
  have same := carried.sameIds id
  rw [found, Option.map_some] at same
  obtain ⟨old, oldFound, sameId⟩ := Option.map_eq_some_iff.mp same.symm
  rw [← sameId, wellKeyed.keyed oldFound]

end Carried

@[simp]
theorem hush_id (data : EngineData) (item : ActiveNotification) (now : Nat) :
    (data.hush item now).id = item.id :=
  rfl

theorem advance_id (item : ActiveNotification) (now : Nat) :
    (item.advance now).1.id = item.id := by
  unfold ActiveNotification.advance
  simp only
  split <;> rfl

theorem advanceHeld_id (held : Bool) (item : ActiveNotification) (now : Nat) :
    (advanceHeld held item now).1.id = item.id := by
  unfold advanceHeld
  split
  · exact advance_id _ now
  · exact advance_id item now

theorem carried_observeSharing (data : EngineData)
    (observation : Option Bool) (now : Nat) :
    Carried data (data.observeSharing observation now) := by
  unfold observeSharing
  simp only
  split
  · exact Carried.of_map rfl (fun _ _ => rfl) rfl
  · exact Carried.of_same rfl rfl

theorem carried_applyAppPolicy (data : EngineData) (key : String)
    (policy : AppPolicy) (now : Nat) :
    Carried data (data.applyAppPolicy key policy now) := by
  unfold applyAppPolicy
  simp only
  split
  · refine Carried.of_map rfl (fun _ item => ?_) rfl
    split <;> rfl
  · exact Carried.of_same rfl rfl

theorem resume_id (monitor : String) (started now : Nat)
    (item : ActiveNotification) :
    (Decks.resume monitor started now item).id = item.id := by
  unfold Decks.resume
  split <;> rfl

theorem setReading_active (decks : Decks) (monitor : String) (reading : Bool)
    (now : Nat) (active : ExtTreeMap Nat ActiveNotification) :
    (decks.setReading monitor reading now active).2 = active ∨
      ∃ started, (decks.setReading monitor reading now active).2 =
        active.map fun _ item => Decks.resume monitor started now item := by
  unfold Decks.setReading
  split
  · exact .inl rfl
  · split
    · exact .inr ⟨_, rfl⟩
    · exact .inl rfl

theorem carried_setReading (data : EngineData) (monitor : String)
    (reading : Bool) (now : Nat) :
    Carried data (data.setReading monitor reading now) := by
  rcases setReading_active data.decks monitor reading now data.active with
    same | ⟨started, mapped⟩
  · exact Carried.of_same same rfl
  · exact Carried.of_map mapped
      (fun _ item => resume_id monitor started now item) rfl

/-- Ending leases changes popup deadlines only. -/
theorem expireDecks_map {Value : Type} (read : ActiveNotification → Value)
    (kept : ∀ monitor started now item,
      read (Decks.resume monitor started now item) = read item)
    (decks : Decks) (now : Nat) (active : ExtTreeMap Nat ActiveNotification)
    (id : Nat) :
    ((decks.expire now active).2[id]?).map read = (active[id]?).map read ∧
      (decks.expire now active).2.size = active.size := by
  have released : ∀ (monitors : List String)
      (state : Decks × ExtTreeMap Nat ActiveNotification),
      ((monitors.foldl (fun state monitor =>
          state.1.setReading monitor false now state.2) state).2[id]?).map
            read = (state.2[id]?).map read ∧
        (monitors.foldl (fun state monitor =>
          state.1.setReading monitor false now state.2) state).2.size =
          state.2.size := by
    intro monitors
    induction monitors with
    | nil => intro state; exact ⟨rfl, rfl⟩
    | cons monitor monitors ih =>
        intro state
        obtain ⟨same, sameSize⟩ :=
          ih (state.1.setReading monitor false now state.2)
        rw [List.foldl_cons, same, sameSize]
        rcases setReading_active state.1 monitor false now state.2 with
          unmoved | ⟨started, mapped⟩
        · rw [unmoved]
          exact ⟨rfl, rfl⟩
        · rw [mapped, ExtTreeMap.getElem?_map, Option.map_map,
            ExtTreeMap.size_map]
          refine ⟨?_, rfl⟩
          cases state.2[id]? with
          | none => rfl
          | some item => exact congrArg some (kept monitor started now item)
  exact released _ _

theorem carried_expire (data : EngineData) (now : Nat) :
    Carried data (data.expire now).1 := by
  refine ⟨fun id => ?_, ?_, rfl⟩
  · have decks := (expireDecks_map _ resume_id data.decks now data.active id).1
    simp only [expire, bumped, ExtTreeMap.getElem?_map, Option.map_map]
    rw [← decks]
    cases (data.decks.expire now data.active).2[id]? with
    | none => rfl
    | some item => exact congrArg some (advanceHeld_id _ item now)
  · simp only [expire, bumped, ExtTreeMap.size_map]
    exact (expireDecks_map _ resume_id data.decks now data.active 0).2

theorem carried_route (data : EngineData) (workspaces : Workspaces) :
    Carried data (data.route workspaces) := by
  refine Carried.of_map rfl (fun _ item => ?_) rfl
  split <;> rfl

/-- What inserting new content changes. -/
structure Upserted (data : EngineData) (id now : Nat)
    (result : EngineData × ActiveNotification × Option Nat) : Prop where
  storedId : result.2.1.id = id
  active : ∀ key : Nat, result.1.active[key]? =
    if key = id then some result.2.1
    else if result.2.2 = some key then none else data.active[key]?
  targets : ∀ key : Nat, result.1.updateTargets[key]? =
    if key = id ∨ result.2.2 = some key then none
    else data.updateTargets[key]?
  evicted : ∀ key, result.2.2 = some key →
    key ≠ id ∧ data.active.contains key = true ∧
      data.active.contains id = false
  bounded : result.1.active.size ≤ Engine.policy.maximumActive
  revised : result.1.revisions = data.revisions + 1
  samePolicies : result.1.appPolicies = data.appPolicies
  sameSharing : result.1.sharing = data.sharing
  hushed : data.suppressed result.2.1 now = true →
    result.2.1.toastVisible = false

theorem erase_getElem? {Value : Type} (entries : ExtTreeMap Nat Value)
    (id key : Nat) :
    (entries.erase id)[key]? = if key = id then none else entries[key]? := by
  rw [ExtTreeMap.getElem?_erase]
  by_cases same : key = id
  · simp [same]
  · simp [same, Ne.symm same]

theorem insert_getElem? {Value : Type} (entries : ExtTreeMap Nat Value)
    (id key : Nat) (value : Value) :
    (entries.insert id value)[key]? =
      if key = id then some value else entries[key]? := by
  rw [ExtTreeMap.getElem?_insert]
  by_cases same : key = id
  · simp [same]
  · simp [same, Ne.symm same]

/-- Placing an item on a table from which the identifier and the evicted
notification are gone. -/
theorem place_upserted {data base : EngineData} {id : Nat}
    {item : ActiveNotification} (sourceMonitor : String) (now : Nat)
    {evicted : Option Nat} (sameId : item.id = id)
    (baseActive : ∀ key : Nat, base.active[key]? =
      if key = id ∨ evicted = some key then none else data.active[key]?)
    (baseTargets : ∀ key : Nat, base.updateTargets[key]? =
      if key = id ∨ evicted = some key then none
      else data.updateTargets[key]?)
    (room : base.active.size < Engine.policy.maximumActive)
    (isEvicted : ∀ key, evicted = some key →
      key ≠ id ∧ data.active.contains key = true ∧
        data.active.contains id = false)
    (sameRevisions : base.revisions = data.revisions)
    (samePolicies : base.appPolicies = data.appPolicies)
    (sameSharing : base.sharing = data.sharing) :
    Upserted data id now
      ((base.place id item sourceMonitor now).1,
        (base.place id item sourceMonitor now).2, evicted) := by
  refine ⟨sameId, ?_, baseTargets, isEvicted,
    ExtTreeMap.size_insert_le.trans room, congrArg (· + 1) sameRevisions,
    samePolicies, sameSharing, ?_⟩
  · intro key
    simp only [place, bumped_active, insert_getElem?, baseActive]
    by_cases same : key = id <;> simp [same]
  · intro suppressed
    refine Engine.hush_hidden ?_
    rw [EngineData.suppressed, ← samePolicies, ← sameSharing] at suppressed
    exact suppressed

theorem upsert_upserted {data : EngineData} (wellKeyed : data.WellKeyed)
    (lookups : Lookups) (icons : IconRegistry) (id : Nat)
    (incoming : IncomingNotification) (sourceMonitor : String) (now : Nat) :
    Upserted data id now (upsert lookups icons data id incoming sourceMonitor
      now Engine.policy.maximumActive) := by
  have bounded := wellKeyed.bounded
  have positive : 0 < Engine.policy.maximumActive := by decide
  unfold upsert
  cases present : data.active[id]? with
  | some existing =>
      have isActive : data.active.contains id = true := by
        rw [contains_eq_isSome, present]
        rfl
      have existingId : existing.id = id := wellKeyed.keyed present
      have sameId : (existing.replaceFrom lookups icons incoming now).id =
          id := existingId
      refine place_upserted sourceMonitor now sameId ?_ ?_ ?_ (by simp)
        rfl rfl rfl
      · intro key
        simp [erase_getElem?]
      · intro key
        simp [erase_getElem?]
      · have smaller := size_erase_of_contains isActive
        rw [remove_active]
        omega
  | none =>
      have absent : data.active.contains id = false := by
        rw [contains_eq_isSome, present]
        rfl
      have erased : data.active.erase id = data.active := by
        apply ExtTreeMap.ext_getElem?
        intro key
        rw [erase_getElem?]
        split
        · rename_i same
          rw [same, present]
        · rfl
      simp only [remove_active, erased]
      by_cases full : Engine.policy.maximumActive ≤ data.active.size
      · obtain ⟨item, found, itemPresent⟩ :=
          Engine.exists_oldest wellKeyed full
        have itemActive : data.active.contains item.id = true := by
          rw [contains_eq_isSome, itemPresent]
          rfl
        simp only [full, if_true, found, Option.map_some]
        refine place_upserted sourceMonitor now rfl ?_ ?_ ?_ ?_ rfl rfl rfl
        · intro key
          rw [remove_active, erase_getElem?, remove_active, erase_getElem?]
          grind
        · intro key
          rw [remove_updateTargets, erase_getElem?, remove_updateTargets,
            erase_getElem?]
          grind
        · have smaller := size_erase_of_contains itemActive
          rw [remove_active, remove_active, erased]
          omega
        · rintro key same
          rw [← Option.some.inj same]
          refine ⟨?_, itemActive, absent⟩
          rintro rfl
          rw [itemPresent] at present
          cases present
      · simp only [full, if_false]
        refine place_upserted sourceMonitor now rfl ?_ ?_ ?_ (by simp) rfl
          rfl rfl
        · intro key
          simp [erase_getElem?]
        · intro key
          simp [erase_getElem?]
        · simp only [remove_active, erased]
          omega

end EngineData

/-! ## Incarnations -/

/-- The two ends of an incarnation. -/
inductive Phase
  | began
  | ended
  deriving DecidableEq, Repr

namespace Event

/-- The end of an incarnation of the identifier that an event marks. -/
def phase (id : Nat) : Event → Option Phase
  | .allocated other _ => if other = id then some .began else none
  | .signal (.closed other _) _ => if other = id then some .ended else none
  | _ => none

/-- New content of the identifier, with the route that it brings. -/
def arrival (id : Nat) : Event → Option (Option String)
  | .allocated other route => if other = id then some route else none
  | .replaced other => if other = id then some none else none
  | _ => none

/-- Events that neither mark an incarnation nor bring content. -/
def isQuiet : Event → Bool
  | .snoozed _ => true
  | .signal (.closed _ _) _ => false
  | .signal _ _ => true
  | .published _ _ => true
  | _ => false

theorem phase_of_isQuiet {event : Event} (quiet : event.isQuiet = true)
    (id : Nat) : event.phase id = none := by
  cases event with
  | allocated => cases quiet
  | replaced => cases quiet
  | snoozed => rfl
  | published => rfl
  | signal signal active => cases signal <;> first | rfl | cases quiet

theorem arrival_of_isQuiet {event : Event} (quiet : event.isQuiet = true)
    (id : Nat) : event.arrival id = none := by
  cases event with
  | allocated => cases quiet
  | replaced => cases quiet
  | snoozed => rfl
  | published => rfl
  | signal => rfl

end Event

/-- The incarnations of an identifier in a trace. -/
def phases (id : Nat) (trace : List Event) : List Phase :=
  trace.filterMap (Event.phase id)

/-- The route that the latest content of the identifier brought. -/
def latestRoute (id : Nat) (trace : List Event) : Option (Option String) :=
  (trace.filterMap (Event.arrival id)).getLast?

/-- Incarnations begin and end in turn; the last one is open exactly if the
identifier is occupied. -/
def Alternating (history : List Phase) (occupied : Bool) : Prop :=
  ∃ count, history =
    (List.replicate count [Phase.began, Phase.ended]).flatten ++
      if occupied then [Phase.began] else []

theorem Alternating.begin {history : List Phase}
    (alternating : Alternating history false) :
    Alternating (history ++ [.began]) true := by
  obtain ⟨count, rfl⟩ := alternating
  exact ⟨count, by simp⟩

theorem Alternating.finish {history : List Phase}
    (alternating : Alternating history true) :
    Alternating (history ++ [.ended]) false := by
  obtain ⟨count, rfl⟩ := alternating
  refine ⟨count + 1, ?_⟩
  rw [List.replicate_succ', List.flatten_append]
  simp

/-- What every reachable engine keeps about identifiers. -/
structure Registered (engine : Engine) : Prop where
  wellKeyed : engine.data.WellKeyed
  alternating : ∀ id, Alternating (phases id engine.trace)
    (engine.data.active.contains id)
  routed : ∀ {id : Nat}, engine.data.active.contains id = false →
    engine.data.updateTargets[id]? = none
  latest : ∀ {id : Nat}, engine.data.active.contains id = true →
    latestRoute id engine.trace = some engine.data.updateTargets[id]?

theorem phases_append (id : Nat) (first second : List Event) :
    phases id (first ++ second) = phases id first ++ phases id second :=
  List.filterMap_append

theorem latestRoute_append_none {id : Nat} (first : List Event)
    {second : List Event}
    (silent : second.filterMap (Event.arrival id) = []) :
    latestRoute id (first ++ second) = latestRoute id first := by
  simp [latestRoute, List.filterMap_append, silent]

namespace Registered

variable {before after : Engine}

/-- Sections that carry every notification and add only quiet events. -/
theorem of_carried (registered : Registered before)
    (carried : before.data.Carried after.data) {news : List Event}
    (grown : after.trace = before.trace ++ news)
    (quiet : ∀ event ∈ news, event.isQuiet = true) : Registered after := by
  have noPhases : ∀ id, phases id news = [] := by
    intro id
    apply List.filterMap_eq_nil_iff.mpr
    intro event member
    exact Event.phase_of_isQuiet (quiet event member) id
  have noArrivals : ∀ id, news.filterMap (Event.arrival id) = [] := by
    intro id
    apply List.filterMap_eq_nil_iff.mpr
    intro event member
    exact Event.arrival_of_isQuiet (quiet event member) id
  refine ⟨carried.wellKeyed registered.wellKeyed, ?_, ?_, ?_⟩
  · intro id
    rw [grown, phases_append, noPhases, List.append_nil,
      carried.contains_eq]
    exact registered.alternating id
  · intro id absent
    rw [carried.contains_eq] at absent
    rw [carried.sameTargets]
    exact registered.routed absent
  · intro id isActive
    rw [carried.contains_eq] at isActive
    rw [carried.sameTargets, grown,
      latestRoute_append_none _ (noArrivals id)]
    exact registered.latest isActive

theorem wellKeyed_erase {data : EngineData} (wellKeyed : data.WellKeyed)
    (id : Nat) : (data.remove id).WellKeyed := by
  refine ⟨?_, ExtTreeMap.size_erase_le.trans wellKeyed.bounded⟩
  intro key item found
  rw [EngineData.remove_active, EngineData.erase_getElem?] at found
  split at found
  · cases found
  · exact wellKeyed.keyed found

theorem contains_erase (active : ExtTreeMap Nat ActiveNotification)
    (id key : Nat) :
    (active.erase id).contains key =
      if key = id then false else active.contains key := by
  rw [contains_eq_isSome, EngineData.erase_getElem?]
  split
  · rfl
  · rw [contains_eq_isSome]

/-- One incarnation ends, with one close signal. -/
theorem retire (registered : Registered before) {id : Nat} (reason : Nat)
    (isActive : before.data.active.contains id = true) :
    Registered ((before.withData (before.data.remove id)).emit
      (.closed id reason)) := by
  refine ⟨wellKeyed_erase registered.wellKeyed id, ?_, ?_, ?_⟩
  · intro key
    have earlier := registered.alternating key
    simp only [Engine.emit_trace, Engine.emit_data, Engine.withData_data,
      Engine.withData_trace, EngineData.remove_active, contains_erase,
      phases_append]
    by_cases same : key = id
    · subst key
      rw [isActive] at earlier
      rw [if_pos rfl]
      simpa [phases, Event.phase] using earlier.finish
    · rw [if_neg same]
      simpa [phases, Event.phase, Ne.symm same] using earlier
  · intro key absent
    simp only [Engine.emit_data, Engine.withData_data,
      EngineData.remove_active, contains_erase,
      EngineData.remove_updateTargets, EngineData.erase_getElem?]
      at absent ⊢
    by_cases same : key = id
    · rw [if_pos same]
    · rw [if_neg same] at absent ⊢
      exact registered.routed absent
  · intro key stays
    simp only [Engine.emit_data, Engine.emit_trace, Engine.withData_data,
      Engine.withData_trace, EngineData.remove_active, contains_erase,
      EngineData.remove_updateTargets, EngineData.erase_getElem?]
      at stays ⊢
    by_cases same : key = id
    · rw [if_pos same] at stays
      cases stays
    · rw [if_neg same] at stays ⊢
      rw [latestRoute_append_none _ (by simp [Event.arrival])]
      exact registered.latest stays

/-- Removing what is not there changes nothing. -/
theorem forget (registered : Registered before) {id : Nat}
    (absent : before.data.active.contains id = false) :
    Registered (before.withData (before.data.remove id)) := by
  have sameActive : before.data.active.erase id = before.data.active := by
    apply ExtTreeMap.ext_getElem?
    intro key
    rw [EngineData.erase_getElem?]
    split
    · rename_i same
      rw [contains_eq_isSome, ← same] at absent
      exact (Option.not_isSome_iff_eq_none.mp (by simp [absent])).symm
    · rfl
  have sameTargets : before.data.updateTargets.erase id =
      before.data.updateTargets := by
    apply ExtTreeMap.ext_getElem?
    intro key
    rw [EngineData.erase_getElem?]
    split
    · rename_i same
      rw [same, registered.routed absent]
    · rfl
  refine registered.of_carried
    (EngineData.Carried.of_same sameActive sameTargets)
    (List.append_nil _).symm ?_
  intro event member
  cases member

/-- One close signal for each of the identifiers. -/
def closings (ids : List Nat) (reason : Nat)
    (active : ExtTreeMap Nat ActiveNotification) : List Event :=
  ids.map fun id => .signal (.closed id reason) active

theorem emit_closings (ids : List Nat) (engine : Engine) (reason : Nat) :
    ids.foldl (fun engine id => engine.emit (.closed id reason)) engine =
      { engine with trace :=
          engine.trace ++ closings ids reason engine.data.active } := by
  induction ids generalizing engine with
  | nil => simp [closings]
  | cons id ids ih =>
      rw [List.foldl_cons, ih]
      simp [Engine.emit, Engine.log, closings]

theorem phases_closings {ids : List Nat} (nodup : ids.Nodup) (reason : Nat)
    (active : ExtTreeMap Nat ActiveNotification) (id : Nat) :
    phases id (closings ids reason active) =
      if id ∈ ids then [Phase.ended] else [] := by
  induction ids with
  | nil => simp [phases, closings]
  | cons first ids ih =>
      obtain ⟨fresh, nodup⟩ := List.nodup_cons.mp nodup
      have rest := ih nodup
      simp only [phases, closings, List.map_cons, List.filterMap_cons,
        Event.phase, List.mem_cons] at rest ⊢
      by_cases same : first = id
      · subst first
        rw [rest]
        simp [fresh]
      · simp [same, Ne.symm same, rest]

theorem clearActive_eq (engine : Engine) :
    engine.clearActive.data.active = ∅ ∧
      engine.clearActive.data.updateTargets = ∅ ∧
      engine.clearActive.trace = engine.trace ++
        closings engine.data.active.keys CloseReason.dismissed ∅ := by
  unfold Engine.clearActive
  simp only [emit_closings]
  split <;> exact ⟨rfl, rfl, rfl⟩

theorem clear (registered : Registered before) :
    Registered before.clearActive := by
  obtain ⟨noneActive, noTargets, closed⟩ := clearActive_eq before
  refine ⟨⟨?_, ?_⟩, ?_, ?_, ?_⟩
  · intro id item found
    simp [noneActive] at found
  · simp [noneActive]
  · intro id
    have earlier := registered.alternating id
    have listed : id ∈ before.data.active.keys ↔
        before.data.active.contains id = true := by
      rw [ExtTreeMap.mem_keys, ExtTreeMap.mem_iff_contains]
    have gone : (∅ : ExtTreeMap Nat ActiveNotification).contains id = false := by
      simp
    rw [closed, phases_append, phases_closings (nodup_keys _), noneActive, gone]
    cases isActive : before.data.active.contains id with
    | true =>
        rw [isActive] at earlier
        rw [if_pos (listed.mpr isActive)]
        exact earlier.finish
    | false =>
        rw [isActive] at earlier
        rw [if_neg (by simp [listed, isActive]), List.append_nil]
        exact earlier
  · intro id _
    simp [noTargets]
  · intro id stays
    simp [noneActive] at stays

/-- Identifiers that a section leaves alone. -/
structure Untouched (before after : Engine) (news : List Event) (id : Nat) :
    Prop where
  sameContains : after.data.active.contains id =
    before.data.active.contains id
  sameTarget : after.data.updateTargets[id]? = before.data.updateTargets[id]?
  noPhases : phases id news = []
  noArrivals : news.filterMap (Event.arrival id) = []

/-- What a section has to show for one identifier. -/
structure Handled (before after : Engine) (news : List Event) (id : Nat) :
    Prop where
  alternating : Alternating (phases id before.trace)
      (before.data.active.contains id) →
    Alternating (phases id before.trace ++ phases id news)
      (after.data.active.contains id)
  routed : after.data.active.contains id = false →
    after.data.updateTargets[id]? = none
  latest : after.data.active.contains id = true →
    latestRoute id (before.trace ++ news) =
      some after.data.updateTargets[id]?

theorem of_handled (registered : Registered before)
    (wellKeyed : after.data.WellKeyed) {news : List Event}
    (grown : after.trace = before.trace ++ news)
    (handled : ∀ id, Untouched before after news id ∨
      Handled before after news id) : Registered after := by
  refine ⟨wellKeyed, ?_, ?_, ?_⟩
  · intro id
    rw [grown, phases_append]
    rcases handled id with untouched | handled
    · rw [untouched.noPhases, List.append_nil, untouched.sameContains]
      exact registered.alternating id
    · exact handled.alternating (registered.alternating id)
  · intro id absent
    rcases handled id with untouched | handled
    · rw [untouched.sameContains] at absent
      rw [untouched.sameTarget]
      exact registered.routed absent
    · exact handled.routed absent
  · intro id isActive
    rw [grown]
    rcases handled id with untouched | handled
    · rw [untouched.sameContains] at isActive
      rw [latestRoute_append_none _ untouched.noArrivals,
        untouched.sameTarget]
      exact registered.latest isActive
    · exact handled.latest isActive

theorem contains_insert (active : ExtTreeMap Nat ActiveNotification)
    (id key : Nat) (item : ActiveNotification) :
    (active.insert id item).contains key =
      if key = id then true else active.contains key := by
  rw [contains_eq_isSome, EngineData.insert_getElem?]
  split
  · rfl
  · rw [contains_eq_isSome]

theorem wellKeyed_insert {data : EngineData} (wellKeyed : data.WellKeyed)
    {id : Nat} {item : ActiveNotification} (sameId : item.id = id)
    (room : (data.active.insert id item).size ≤ Engine.policy.maximumActive) :
    EngineData.WellKeyed { data with active := data.active.insert id item } := by
  refine ⟨?_, room⟩
  intro key other found
  rw [EngineData.insert_getElem?] at found
  split at found
  · rename_i same
    rw [← Option.some.inj found, same, sameId]
  · exact wellKeyed.keyed found

theorem install (registered : Registered before) {id : Nat} (runId : String)
    {stored : ActiveNotification}
    (absent : before.data.active.contains id = false)
    (room : before.data.active.size < Engine.policy.maximumActive)
    (sameId : stored.id = id) :
    Registered (before.installUpdate id runId stored) := by
  have wellKeyed := wellKeyed_insert registered.wellKeyed sameId
    (ExtTreeMap.size_insert_le.trans room)
  refine registered.of_handled ⟨wellKeyed.keyed, wellKeyed.bounded⟩ rfl ?_
  intro key
  have contained : (before.installUpdate id runId
      stored).data.active.contains key =
        if key = id then true else before.data.active.contains key :=
    contains_insert _ _ _ _
  have target : (before.installUpdate id runId
      stored).data.updateTargets[key]? =
        if key = id then some runId else before.data.updateTargets[key]? :=
    EngineData.insert_getElem? _ _ _ _
  by_cases same : key = id
  · right
    subst key
    rw [if_pos rfl] at contained target
    refine ⟨?_, ?_, ?_⟩
    · intro earlier
      rw [absent] at earlier
      rw [contained]
      simpa [phases, Event.phase] using earlier.begin
    · intro gone
      rw [contained] at gone
      cases gone
    · intro _
      rw [target]
      simp [latestRoute, Event.arrival]
  · left
    rw [if_neg same] at contained target
    exact ⟨contained, target, by simp [phases, Event.phase, Ne.symm same],
      by simp [Event.arrival, Ne.symm same]⟩

/-- Events of an arrival, an eviction included. -/
def arrivalEvents (replaces : Bool) (id : Nat) (evicted : Option Nat)
    (active : ExtTreeMap Nat ActiveNotification) : List Event :=
  (if replaces then .replaced id else .allocated id none) ::
    evicted.toList.map fun oldest =>
      .signal (.closed oldest CloseReason.undefined) active

theorem phases_arrivalEvents (replaces : Bool) (id : Nat)
    (evicted : Option Nat) (active : ExtTreeMap Nat ActiveNotification)
    (key : Nat) :
    phases key (arrivalEvents replaces id evicted active) =
      (if key = id ∧ replaces = false then [Phase.began] else []) ++
        if evicted = some key then [Phase.ended] else [] := by
  have closed : phases key (evicted.toList.map fun oldest =>
      .signal (.closed oldest CloseReason.undefined) active) =
        if evicted = some key then [Phase.ended] else [] := by
    cases evicted with
    | none => rfl
    | some oldest =>
        by_cases same : oldest = key <;> simp [phases, Event.phase, same]
  have arrived : phases key
      [if replaces then .replaced id else .allocated id none] =
        if key = id ∧ replaces = false then [Phase.began] else [] := by
    cases replaces with
    | true => simp [phases, Event.phase]
    | false =>
        by_cases same : key = id
        · simp [phases, Event.phase, same]
        · simp [phases, Event.phase, same, Ne.symm same]
  rw [arrivalEvents, ← List.singleton_append, phases_append, closed, arrived]

theorem arrivals_arrivalEvents (replaces : Bool) (id : Nat)
    (evicted : Option Nat) (active : ExtTreeMap Nat ActiveNotification)
    (key : Nat) :
    (arrivalEvents replaces id evicted active).filterMap
        (Event.arrival key) = if key = id then [none] else [] := by
  have closed : (evicted.toList.map fun oldest =>
      Event.signal (.closed oldest CloseReason.undefined) active).filterMap
        (Event.arrival key) = [] := by
    cases evicted with
    | none => rfl
    | some oldest => rfl
  rw [arrivalEvents, List.filterMap_cons, closed]
  by_cases same : key = id
  · subst key
    cases replaces <;> simp [Event.arrival]
  · cases replaces <;> simp [Event.arrival, same, Ne.symm same]

theorem insertIncoming_eq (world : Surroundings) (engine : Engine)
    (replaces : Bool) (id : Nat) (incoming : IncomingNotification)
    (outside : Moment) (now : Nat) (writes : PendingWrites) :
    let upserted := EngineData.upsert world.lookups outside.icons engine.data
      id incoming (outside.workspaces.focusedMonitor.getD "") now
      Engine.policy.maximumActive
    let result :=
      (engine.insertIncoming world replaces id incoming outside now writes).1
    result.data = upserted.1 ∧ result.ticks = engine.ticks ∧
      result.trace = engine.trace ++
        arrivalEvents replaces id upserted.2.2 upserted.1.active := by
  unfold Engine.insertIncoming
  simp only
  cases (EngineData.upsert world.lookups outside.icons engine.data id incoming
    (outside.workspaces.focusedMonitor.getD "") now
    Engine.policy.maximumActive).2.2 with
  | none => exact ⟨rfl, rfl, rfl⟩
  | some oldest => exact ⟨rfl, rfl, by simp [arrivalEvents]⟩

theorem arrive (world : Surroundings) (registered : Registered before)
    {replaces : Bool} {id : Nat} (incoming : IncomingNotification)
    (outside : Moment) (now : Nat) (writes : PendingWrites)
    (agrees : replaces = before.data.active.contains id) :
    Registered (before.insertIncoming world replaces id incoming outside now
      writes).1 := by
  have upserted := EngineData.upsert_upserted registered.wellKeyed
    world.lookups outside.icons id incoming
    (outside.workspaces.focusedMonitor.getD "") now
  obtain ⟨sameData, -, grown⟩ := insertIncoming_eq world before replaces id
    incoming outside now writes
  generalize EngineData.upsert _ _ _ _ _ _ _ _ = result at *
  generalize (before.insertIncoming world replaces id incoming outside now
    writes).1 = after at *
  have wellKeyed : after.data.WellKeyed := by
    rw [sameData]
    refine ⟨?_, upserted.bounded⟩
    intro key item found
    rw [upserted.active] at found
    split at found
    · rename_i same
      rw [← Option.some.inj found, upserted.storedId, same]
    · split at found
      · cases found
      · exact registered.wellKeyed.keyed found
  refine registered.of_handled wellKeyed grown ?_
  intro key
  have contained : after.data.active.contains key =
      if key = id then true
      else if result.2.2 = some key then false
      else before.data.active.contains key := by
    rw [contains_eq_isSome, sameData, upserted.active]
    split
    · rfl
    · split
      · rfl
      · rw [contains_eq_isSome]
  have target := upserted.targets key
  rw [← sameData] at target
  have newPhases := phases_arrivalEvents replaces id result.2.2
    result.1.active key
  have newArrivals := arrivals_arrivalEvents replaces id result.2.2
    result.1.active key
  by_cases same : key = id
  · right
    subst key
    rw [if_pos rfl] at contained newArrivals
    rw [if_pos (.inl rfl)] at target
    have kept : result.2.2 ≠ some id :=
      fun evicts => (upserted.evicted id evicts).1 rfl
    refine ⟨?_, by simp [contained], ?_⟩
    · intro earlier
      rw [contained, newPhases, if_neg kept, List.append_nil]
      rw [← agrees] at earlier
      cases replaces with
      | true => simpa using earlier
      | false => simpa using earlier.begin
    · intro _
      simp [target, latestRoute, newArrivals]
  · rw [if_neg same] at contained newArrivals
    rw [if_neg (fun both => same both.1), List.nil_append] at newPhases
    by_cases evicts : result.2.2 = some key
    · right
      rw [if_pos evicts] at contained newPhases
      rw [if_pos (.inr evicts)] at target
      refine ⟨?_, fun _ => target, by simp [contained]⟩
      intro earlier
      rw [(upserted.evicted key evicts).2.1] at earlier
      rw [contained, newPhases]
      exact earlier.finish
    · left
      rw [if_neg evicts] at contained newPhases
      rw [if_neg (by simp [same, evicts])] at target
      exact ⟨contained, target, newPhases, newArrivals⟩

end Registered

end BarDaemon.Notifications
