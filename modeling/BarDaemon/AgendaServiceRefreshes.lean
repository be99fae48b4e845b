import BarDaemon.AgendaServiceRuns
import BarDaemon.OrderedMaps

/-!
# Refreshing the calendars

A refresh takes in what its sources give, all of it or nothing; a source that
fails keeps its events, and what is shown of a source agrees with them.
-/

namespace BarDaemon.AgendaService

open Agendas Attempt Calendars OrderedMaps Std

variable {lib : Libraries}

/-! ## What is offered -/

/-- The events of the last load of a source that has succeeded. -/
def loaded (sources : List CalendarSourceConfig)
    (load : CalendarSourceConfig → Except String (List ActivityEvent))
    (id : String) : Option (List ActivityEvent) :=
  ((sources.filter fun source => source.id == id).filterMap fun source =>
    (load source).toOption).getLast?

/-- What a refresh makes of the events of a source. -/
def carried (service : Service) (sources : List CalendarSourceConfig)
    (load : CalendarSourceConfig → Except String (List ActivityEvent))
    (id : String) : Option (List ActivityEvent) :=
  if id ∈ sources.map CalendarSourceConfig.id then
    (loaded sources load id).or service.eventsBySource[id]?
  else none

/-- What is shown of a source agrees with what there is of it. -/
structure Told (imports : Imports) (sources : List CalendarSourceConfig)
    (load : CalendarSourceConfig → Except String (List ActivityEvent))
    (id : String) (state : ActivitySourceState) : Prop where
  same : state.id = id
  count : state.itemCount = itemCount imports id
  error : state.available = state.error.isNone
  fresh : state.available = true → ∃ source ∈ sources, source.id = id ∧
    ∃ events, load source = .ok events ∧ imports[id]? = some events

section Offered

variable (sources : List CalendarSourceConfig)
  (load : CalendarSourceConfig → Except String (List ActivityEvent))
  (start : Refreshed)

/-- The sources one after the other. -/
def offer : Refreshed :=
  sources.foldl
    (fun refreshed source => refreshSource refreshed source (load source)) start

theorem offer_concat (source : CalendarSourceConfig) :
    offer (sources ++ [source]) load start =
      refreshSource (offer sources load start) source (load source) := by
  rw [offer, List.foldl_append]
  rfl

theorem refreshSource_other (refreshed : Refreshed)
    {source : CalendarSourceConfig}
    (loaded : Except String (List ActivityEvent)) {id : String}
    (other : source.id ≠ id) :
    (refreshSource refreshed source loaded).imports[id]? =
        refreshed.imports[id]? ∧
      (refreshSource refreshed source loaded).sourceStates[id]? =
        refreshed.sourceStates[id]? := by
  have states : (refreshSource refreshed source loaded).sourceStates[id]? =
      refreshed.sourceStates[id]? :=
    (getElem?_insert _ _ _ _).trans (if_neg other)
  cases loaded with
  | error error => exact ⟨rfl, states⟩
  | ok events => exact ⟨(getElem?_insert _ _ _ _).trans (if_neg other), states⟩

/-- The last load that has succeeded counts, and what was there before where
there is none. -/
theorem offer_imports (id : String) :
    (offer sources load start).imports[id]? =
      (loaded sources load id).or start.imports[id]? := by
  induction sources using List.reverseRecOn with
  | nil => rfl
  | append_singleton sources source ih =>
      rw [offer_concat]
      by_cases same : source.id = id
      · subst same
        cases given : load source with
        | error error =>
            have none_ : loaded (sources ++ [source]) load source.id =
                loaded sources load source.id := by
              simp [loaded, given, Except.toOption]
            rw [none_, ← ih]
            rfl
        | ok events =>
            have last : loaded (sources ++ [source]) load source.id =
                some events := by
              simp [loaded, given, Except.toOption]
            rw [last]
            exact (getElem?_insert _ _ _ _).trans (if_pos rfl)
      · have others : loaded (sources ++ [source]) load id =
            loaded sources load id := by
          simp [loaded, same]
        rw [others, (refreshSource_other _ _ same).1, ih]

/-- A source that is offered is shown as its last load has gone. -/
theorem offer_told {id : String}
    (present : id ∈ sources.map CalendarSourceConfig.id) :
    ∃ state, (offer sources load start).sourceStates[id]? = some state ∧
      Told (offer sources load start).imports sources load id state := by
  induction sources using List.reverseRecOn with
  | nil => cases present
  | append_singleton sources source ih =>
      rw [offer_concat]
      by_cases same : source.id = id
      · subst same
        refine ⟨_, (getElem?_insert _ _ _ _).trans (if_pos rfl), ?_⟩
        cases given : load source with
        | error error => exact ⟨rfl, rfl, rfl, nofun⟩
        | ok events =>
            refine ⟨rfl, rfl, rfl, fun _ => ⟨source, by simp, rfl, events, given,
              (getElem?_insert _ _ _ _).trans (if_pos rfl)⟩⟩
      · have before : id ∈ sources.map CalendarSourceConfig.id := by
          simpa [Ne.symm same] using present
        obtain ⟨state, shown, identity, count, error, fresh⟩ := ih before
        obtain ⟨imports, states⟩ :=
          refreshSource_other (offer sources load start) (load source) same
        refine ⟨state, states.trans shown, identity, ?_, error, ?_⟩
        · rw [count, itemCount, itemCount, imports]
        · intro available
          obtain ⟨earlier, member, named, events, given, kept⟩ :=
            fresh available
          exact ⟨earlier, List.mem_append_left _ member, named, events, given,
            imports.trans kept⟩

end Offered

theorem refreshSources_imports (service : Service)
    (sources : List CalendarSourceConfig)
    (load : CalendarSourceConfig → Except String (List ActivityEvent))
    (id : String) :
    (refreshSources service sources load).imports[id]? =
      carried service sources load id := by
  refine (offer_imports sources load _ id).trans ?_
  rw [ExtTreeMap.getElem?_filter', carried]
  by_cases present : id ∈ sources.map CalendarSourceConfig.id
  · rw [if_pos present]
    cases service.eventsBySource[id]? with
    | none => rfl
    | some events => rw [Option.filter_some, if_pos (List.contains_iff_mem.mpr present)]
  · have absent : loaded sources load id = none := by
      rw [loaded, List.getLast?_eq_none_iff, List.filterMap_eq_nil_iff]
      intro source member
      obtain ⟨listed, same⟩ := List.mem_filter.mp member
      exact absurd (List.mem_map.mpr ⟨source, listed, beq_iff_eq.mp same⟩) present
    rw [if_neg present, absent, Option.none_or]
    cases service.eventsBySource[id]? with
    | none => rfl
    | some events =>
        rw [Option.filter_some,
          if_neg fun listed => present (List.contains_iff_mem.mp listed)]

/-! ## What is taken in -/

/-- The imports have not been touched. -/
structure Untouched (before after : World) : Prop where
  events : after.service.eventsBySource = before.service.eventsBySource
  revision : after.service.importRevision = before.service.importRevision

instance : Std.Refl Untouched where
  refl _ := ⟨rfl, rfl⟩

instance : IsTrans World Untouched where
  trans _ _ _ before after :=
    ⟨after.events.trans before.events, after.revision.trans before.revision⟩

theorem untouched_call {Value : Type}
    (operation : Answer → Agendas.Store →
      Except String Value × Agendas.Store) :
    Within Untouched (call operation) := by
  intro world
  unfold call
  split
  · dsimp only
    split
    · exact ⟨rfl, rfl⟩
    · exact ⟨rfl, rfl⟩
    · exact ⟨rfl, rfl⟩
  · exact ⟨rfl, rfl⟩

theorem untouched_readService : Within Untouched readService :=
  within_read.bind fun _ => within_pure _

theorem untouched_changeService {update : Service → Service}
    (events : ∀ service, (update service).eventsBySource =
      service.eventsBySource)
    (revision : ∀ service, (update service).importRevision =
      service.importRevision) :
    Within Untouched (changeService update) :=
  within_change fun world => ⟨events world.service, revision world.service⟩

theorem untouched_openStore : Within Untouched (openStore lib) := by
  intro world
  unfold openStore
  split
  · exact ⟨rfl, rfl⟩
  · exact ⟨rfl, rfl⟩

theorem untouched_openAgenda : Within Untouched (openAgenda lib) := by
  refine untouched_openStore.bind fun _ => ?_
  refine (untouched_call _).catching.bind ?_
  rintro (error | snapshot)
  · exact (within_change fun _ => ⟨rfl, rfl⟩).bind fun _ => within_fail error
  · exact within_pure snapshot

theorem untouched_writableAgenda : Within Untouched (writableAgenda lib) := by
  refine untouched_readService.bind fun service => ?_
  cases service.worker with
  | missing =>
      refine untouched_openAgenda.catching.bind ?_
      rintro (error | snapshot)
      · refine Within.bind ?_ fun _ => within_fail _
        exact untouched_changeService (fun _ => rfl) fun _ => rfl
      · exact untouched_changeService (fun _ => rfl) fun _ => rfl
  | running => exact within_pure ()
  | closed => exact within_pure ()

/-- The imports are those of the world before. -/
def Holds (before world : World) : Prop :=
  Untouched before world

theorem meets_untouched {Value : Type} {attempt : Effect Value}
    (within : Within Untouched attempt) (before : World) :
    Meets (Holds before) attempt (fun _ => Holds before)
      (fun _ => Holds before) :=
  within.meets fun _ _ untouched holds => trans_of Untouched holds untouched

/-- The imports are the offered ones, under a revision of their own where they
have changed. -/
def Taken (before : World) (imports : Imports) (world : World) : Prop :=
  world.service.eventsBySource = imports ∧
    (Untouched before world ∨
      world.service.importRevision = before.service.importRevision + 1)

/-- Imports are taken in as they are, or left as they were. -/
theorem acceptCalendarImports_takes (before : World) (imports : Imports) :
    Meets (Holds before) (acceptCalendarImports lib imports)
      (fun _ => Taken before imports) (fun _ => Holds before) := by
  have reads : Meets (Holds before) readService
      (fun service world => Holds before world ∧ world.service = service)
      (fun _ => Holds before) :=
    fun _ holds => ⟨holds, rfl⟩
  apply reads.bind
  intro service
  apply meets_ite
  · intro same
    apply meets_pure
    rintro world ⟨holds, rfl⟩
    exact ⟨eq_of_beq same, .inl holds⟩
  · intro changed
    have needs : ∀ (text : String) (snapshot : Option Snapshot),
        Within Untouched (required text snapshot) := by
      intro text snapshot
      cases snapshot with
      | none => exact within_fail text
      | some snapshot => exact within_pure snapshot
    have begins : Meets (fun world => Holds before world ∧
          world.service = service)
        (required "Agenda store unavailable" service.snapshot)
        (fun _ => Holds before) (fun _ => Holds before) :=
      (meets_untouched (needs _ _) before).weaken (fun _ holds => holds.1)
        (fun _ _ holds => holds) fun _ _ holds => holds
    refine begins.bind fun snapshot => ?_
    refine (meets_untouched (within_lift _ _) before).bind fun _ => ?_
    refine (meets_untouched untouched_writableAgenda before).bind fun _ => ?_
    refine (meets_untouched (untouched_call _) before).bind fun revision => ?_
    refine (meets_untouched untouched_readService before).bind fun after => ?_
    refine (meets_untouched (needs _ _) before).bind fun copy => ?_
    apply meets_change
    intro world holds
    exact ⟨rfl, .inr (congrArg (· + 1) holds.revision)⟩

/-- What a refresh leaves of the imports and shows of its sources. -/
structure Renewed (before : World) (sources : List CalendarSourceConfig)
    (load : CalendarSourceConfig → Except String (List ActivityEvent))
    (after : Service) : Prop where
  imports : (after.eventsBySource = before.service.eventsBySource ∧
      after.importRevision = before.service.importRevision) ∨
    ((∀ id, after.eventsBySource[id]? =
        carried before.service sources load id) ∧
      after.importRevision = before.service.importRevision + 1)
  failing : ∀ id ∈ sources.map CalendarSourceConfig.id,
    (∀ source ∈ sources, source.id = id →
      ∃ error, load source = .error error) →
    after.eventsBySource[id]? = before.service.eventsBySource[id]?
  told : ∀ id ∈ sources.map CalendarSourceConfig.id,
    ∃ state, after.sourceStates[id]? = some state ∧
      Told after.eventsBySource sources load id state

theorem carried_of_fails {service : Service}
    {sources : List CalendarSourceConfig}
    {load : CalendarSourceConfig → Except String (List ActivityEvent)}
    {id : String} (present : id ∈ sources.map CalendarSourceConfig.id)
    (fails : ∀ source ∈ sources, source.id = id →
      ∃ error, load source = .error error) :
    carried service sources load id = service.eventsBySource[id]? := by
  have absent : loaded sources load id = none := by
    rw [loaded, List.getLast?_eq_none_iff, List.filterMap_eq_nil_iff]
    intro source member
    obtain ⟨listed, same⟩ := List.mem_filter.mp member
    obtain ⟨error, failed⟩ := fails source listed (beq_iff_eq.mp same)
    rw [failed]
    rfl
  rw [carried, if_pos present, absent, Option.none_or]

/-- A source whose offer has been taken in. -/
theorem renewed_of_taken {before : World} {service : Service}
    {sources : List CalendarSourceConfig}
    {load : CalendarSourceConfig → Except String (List ActivityEvent)}
    (same : service.eventsBySource = before.service.eventsBySource)
    {after : World}
    (taken : Taken before (refreshSources service sources load).imports
      after) :
    Renewed before sources load
      { after.service with
        calendarSources := sources
        sourceStates := (refreshSources service sources load).sourceStates } := by
  obtain ⟨imports, changed⟩ := taken
  have merged : ∀ id, after.service.eventsBySource[id]? =
      carried before.service sources load id := by
    intro id
    rw [imports, refreshSources_imports, carried, carried, same]
  refine ⟨?_, ?_, ?_⟩
  · rcases changed with untouched | revision
    · exact .inl ⟨untouched.events, untouched.revision⟩
    · exact .inr ⟨merged, revision⟩
  · intro id present fails
    exact (merged id).trans (carried_of_fails present fails)
  · intro id present
    rw [imports]
    exact offer_told sources load _ present

/-- A refusal is shown of every source, with the events that it keeps. -/
theorem renewed_of_holds {before : World} {service : Service}
    {sources : List CalendarSourceConfig}
    {load : CalendarSourceConfig → Except String (List ActivityEvent)}
    {after : World} (holds : Holds before after) (error : String) :
    Renewed before sources load
      { after.service with
        calendarSources := sources
        sourceStates := (refreshSources service sources load).sourceStates.map
          fun _ state => refused error after.service.eventsBySource state } := by
  refine ⟨.inl ⟨holds.events, holds.revision⟩, ?_, ?_⟩
  · intro id _ _
    rw [holds.events]
  · intro id present
    obtain ⟨state, shown, told⟩ := offer_told sources load
      ⟨service.eventsBySource.filter fun id _ =>
          (sources.map CalendarSourceConfig.id).contains id,
        service.sourceStates.filter fun id _ =>
          (sources.map CalendarSourceConfig.id).contains id⟩ present
    refine ⟨refused error after.service.eventsBySource state, ?_, told.same,
      ?_, rfl, nofun⟩
    · rw [ExtTreeMap.getElem?_map]
      exact congrArg (Option.map _) shown
    · rw [refused, told.same]

theorem meets_recoverStore_holds (before : World) :
    Meets (Holds before) (recoverStore lib) (fun _ => Holds before)
      (fun _ _ => False) := by
  have reads : Meets (Holds before) readService (fun _ => Holds before)
      (fun _ _ => False) :=
    fun _ holds => holds
  apply reads.bind
  intro service
  apply meets_ite
  · intro failed
    have tried : Meets (Holds before) ((writableAgenda lib).catching some)
        (fun _ => Holds before) (fun _ _ => False) :=
      Meets.catching (meets_untouched untouched_writableAgenda before)
    exact tried.bind fun _ => meets_pure fun _ holds => holds
  · exact fun _ => meets_pure fun _ holds => holds

/-- Whatever the sources give and the store does: a refresh takes in the merged
imports or leaves all as they were, a source whose loads all fail keeps its
events, and what is shown of a source is true of what there is. -/
theorem refresh_renews (lib : Libraries) (world : World)
    (sources : List CalendarSourceConfig)
    (load : CalendarSourceConfig → Except String (List ActivityEvent)) :
    Renewed world sources load
      (refresh lib (.ok sources) load world).2.service := by
  have renews : Meets (Holds world) (refresh lib (.ok sources) load)
      (fun _ after => Renewed world sources load after.service)
      (fun _ _ => False) := by
    rw [refresh.eq_def]
    apply (meets_recoverStore_holds world).bind
    intro recovered
    have reads : Meets (Holds world) readService
        (fun service other => Holds world other ∧
          service.eventsBySource = world.service.eventsBySource)
        (fun _ _ => False) :=
      fun _ holds => ⟨holds, holds.events⟩
    apply reads.bind
    intro service
    apply meets_and_fact
    intro same
    have offers : Meets (Holds world)
        ((acceptCalendarImports lib
          (refreshSources service sources load).imports).catching some)
        (handled (fun _ => Taken world
          (refreshSources service sources load).imports) fun _ => Holds world)
        (fun _ _ => False) :=
      Meets.catching (acceptCalendarImports_takes world _)
    apply offers.bind
    rintro (error | accepted)
    · exact meets_change fun _ holds => renewed_of_holds holds error
    · exact meets_change fun _ taken => renewed_of_taken same taken
  have reached := renews world (refl_of Untouched world)
  rcases result : refresh lib (.ok sources) load world with ⟨outcome, after⟩
  rw [result] at reached
  cases outcome with
  | ok done => exact reached
  | error error => exact reached.elim

/-! ## A run -/

def dentist : ActivityEvent :=
  { standUp with
    id := "home:dentist-7:1767261600000".toList
    sourceId := "home".toList
    calendarName := "home".toList
    title := "Dentist".toList }

/-- The other file can be read now. -/
def nextLoad (source : CalendarSourceConfig) :
    Except String (List ActivityEvent) :=
  if source.id = "work" then .error "read iCalendar file" else .ok [dentist]

/-- The refreshed world, where the events of one source are kept. -/
def refreshedService : Service :=
  (refresh sampleLibraries (.ok sampleSources) nextLoad readWorld).2.service

theorem refresh_renews_sample :
    Renewed readWorld sampleSources nextLoad refreshedService ∧
      refreshedService.eventsBySource["work"]? = some [standUp] ∧
      refreshedService.eventsBySource["home"]? = some [dentist] ∧
      refreshedService.importRevision = 2 ∧
      (refreshedService.sourceStates.toList.map fun entry =>
        (entry.1, entry.2.available, entry.2.itemCount)) =
          [("home", true, 1), ("work", false, 1)] :=
  ⟨refresh_renews sampleLibraries readWorld sampleSources nextLoad,
    by decide +kernel⟩

end BarDaemon.AgendaService
