import BarDaemon.CityCatalogRuns

/-!
# Histories of the saved cities

What holds of all the catalogs of a run together.
-/

namespace BarDaemon.Cities.Catalog

open CompactJson FallibleSteps Locations TransitionRuns

theorem cityId_injective {first second : Nat}
    (same : cityId first = cityId second) : first = second := by
  have lists := congrArg String.toList same
  simp only [cityId, String.toList_append, String.toList_ofList] at lists
  have digits := List.append_cancel_left lists
  rw [← @Nat.ofDigitChars_ten_toDigits first, digits,
    Nat.ofDigitChars_ten_toDigits]

variable {zones : Zones}

/-- What holds of every catalog of a run. -/
structure Kept (zones : Zones) (catalog : Catalog) : Prop where
  valid : Valid zones catalog
  counted : catalog.Counted
  fresh : ∀ city ∈ catalog.cities, ∀ number, city.id = cityId number →
    number < catalog.nextId

/-- What a later catalog of a run has to do with an earlier one. -/
structure Follows (earlier later : Catalog) : Prop where
  nextId : earlier.nextId ≤ later.nextId
  revision : earlier.revision ≤ later.revision
  same : earlier.revision = later.revision → earlier = later
  cities : ∀ city ∈ later.cities, city ∈ earlier.cities ∨
    ∃ number, earlier.nextId ≤ number ∧ city.id = cityId number

theorem follows_refl (catalog : Catalog) : Follows catalog catalog :=
  ⟨Nat.le_refl _, Nat.le_refl _, fun _ => rfl, fun _ among => .inl among⟩

theorem Follows.trans {first second third : Catalog}
    (early : Follows first second) (late : Follows second third) :
    Follows first third := by
  have firstRevision := early.revision
  have secondRevision := late.revision
  refine ⟨Nat.le_trans early.nextId late.nextId,
    Nat.le_trans firstRevision secondRevision, fun same => ?_,
    fun city among => ?_⟩
  · rw [early.same (by omega), late.same (by omega)]
  · rcases late.cities city among with kept | ⟨number, later, id⟩
    · exact early.cities city kept
    · exact .inr ⟨number, Nat.le_trans early.nextId later, id⟩

theorem Changes.follows {catalog next : Catalog}
    (changes : Changes zones catalog next) : Follows catalog next := by
  cases changes with
  | same => exact follows_refl catalog
  | added place fits valid =>
      refine ⟨Nat.le_succ _, Nat.le_succ _, fun same => ?_, fun city among => ?_⟩
      · exact absurd same (Nat.succ_ne_self _).symm
      · rcases List.mem_append.mp among with old | new
        · exact .inl old
        · obtain rfl := List.mem_singleton.mp new
          exact .inr ⟨catalog.nextId, Nat.le_refl _, rfl⟩
  | removed id fits valid =>
      refine ⟨Nat.le_refl _, Nat.le_succ _, fun same => ?_, fun city among => ?_⟩
      · exact absurd same (Nat.succ_ne_self _).symm
      · exact .inl (List.mem_filter.mp among).1

theorem Changes.kept {catalog next : Catalog} (kept : Kept zones catalog)
    (changes : Changes zones catalog next) : Kept zones next := by
  cases changes with
  | same => exact kept
  | added place fits valid =>
      refine ⟨valid, ⟨fits.2, fits.1⟩, fun city among number id => ?_⟩
      rcases List.mem_append.mp among with old | new
      · exact Nat.lt_succ_of_lt (kept.fresh city old number id)
      · obtain rfl := List.mem_singleton.mp new
        rw [cityId_injective id]
        exact Nat.lt_succ_self _
  | removed id fits valid =>
      exact ⟨valid, ⟨fits, kept.counted.nextId⟩, fun city among =>
        kept.fresh city (List.mem_filter.mp among).1⟩

/-! ## Runs -/

theorem kept_run {start : Catalog} (kept : Kept zones start)
    (actions : List Action) : Kept zones (run (step zones) start actions) := by
  have preserved : ∀ catalog action, Kept zones catalog → True →
      Kept zones (step zones catalog action) :=
    fun catalog action kept _ => (changes_step catalog action).kept kept
  have always : StepsMeet (step zones) (fun _ _ => True) start actions :=
    stepsMeet_of_forall (fun _ _ => trivial) _ actions
  exact invariant_run preserved kept always

theorem follows_run (start : Catalog) (actions : List Action) :
    Follows start (run (step zones) start actions) := by
  have always : StepsMeet (step zones) (fun _ _ => True) start actions :=
    stepsMeet_of_forall (fun _ _ => trivial) _ actions
  exact @relation_run Catalog Action (step zones) (fun _ _ => True)
    (fun _ => True) Follows follows_refl Follows.trans
    (fun _ _ _ _ => trivial)
    (fun catalog action _ _ => (changes_step catalog action).follows)
    start trivial actions always

/-- An identifier of an earlier city is that of the same city or of none. -/
theorem Kept.city_eq {earlier later : Catalog} (kept : Kept zones earlier)
    (follows : Follows earlier later) {city other : City}
    (among : city ∈ earlier.cities) (present : other ∈ later.cities)
    (same : other.id = city.id) : other = city := by
  rcases follows.cities other present with old | ⟨number, new, id⟩
  · exact List.inj_on_of_nodup_map kept.valid.distinct old among same
  · have low := kept.fresh city among number (same.symm.trans id)
    omega

/-- A city that is not there any more does not come back. -/
theorem Kept.absent {earlier middle later : Catalog} (kept : Kept zones earlier)
    (first : Follows earlier middle) (second : Follows middle later)
    {city : City} (among : city ∈ earlier.cities)
    (gone : city.id ∉ middle.cities.map City.id) :
    city.id ∉ later.cities.map City.id := by
  intro again
  obtain ⟨other, present, same⟩ := List.mem_map.mp again
  rcases second.cities other present with old | ⟨number, new, id⟩
  · exact gone (List.mem_map.mpr ⟨other, old, same⟩)
  · have low := kept.fresh city among number (same.symm.trans id)
    have grown := first.nextId
    omega

/-- What holds of every run from a catalog on. -/
structure RunsWell (host : Host) (again : Binary64 → Binary64)
    (start : Catalog) : Prop where
  loads : ∀ actions config,
    host.decode ((run (step host.zones) start actions).text host) =
      .ok ((run (step host.zones) start actions).reread again) →
    loadOrImport host
      (some ((run (step host.zones) start actions).text host)) config =
        .ok ((run (step host.zones) start actions).reread again,
          (run (step host.zones) start actions).text host)
  home : ∀ actions,
    ((run (step host.zones) start actions).cities.filter
      (·.id == homeId)).length = 1 ∧
    ∃ home ∈ (run (step host.zones) start actions).cities,
      home.id = homeId ∧ home.place.same homePlace = true
  distinct : ∀ actions,
    ((run (step host.zones) start actions).cities.map City.id).Nodup
  identity : ∀ first second,
    ∀ city ∈ (run (step host.zones) start first).cities,
    ∀ other ∈ (run (step host.zones) start (first ++ second)).cities,
      other.id = city.id → other = city
  not_reused : ∀ first second third,
    ∀ city ∈ (run (step host.zones) start first).cities,
      city.id ∉ (run (step host.zones) start (first ++ second)).cities.map
        City.id →
      city.id ∉ (run (step host.zones) start
        (first ++ second ++ third)).cities.map City.id
  revision : ∀ first second,
    (run (step host.zones) start first).revision =
      (run (step host.zones) start (first ++ second)).revision →
    run (step host.zones) start first =
      run (step host.zones) start (first ++ second)
  refused : ∀ actions action error,
    (run (step host.zones) start actions).act host.zones action =
      .error error →
    run (step host.zones) start (actions ++ [action]) =
      run (step host.zones) start actions

theorem runsWell {host : Host} {again : Binary64 → Binary64}
    (short : Short host) (rereads : Rereads again) {start : Catalog}
    (kept : Kept host.zones start) : RunsWell host again start where
  loads actions config decoded :=
    load_text short rereads (kept_run kept actions).valid
      (kept_run kept actions).counted decoded config
  home actions := by
    have valid := (kept_run kept actions).valid
    obtain ⟨home, among, id, place, _⟩ := valid.home
    exact ⟨valid.home_once, home, among, id, place⟩
  distinct actions := (kept_run kept actions).valid.distinct
  identity first second city among other present same := by
    rw [run_append] at present
    exact (kept_run kept first).city_eq (follows_run _ second) among present
      same
  not_reused first second third city among gone := by
    rw [run_append, run_append]
    rw [run_append] at gone
    exact (kept_run kept first).absent (follows_run _ second)
      (follows_run _ third) among gone
  revision first second same := by
    rw [run_append] at same ⊢
    exact (follows_run _ second).same same
  refused actions action error refusal := by
    rw [run_append, run_cons, run_nil, step, refusal]

end BarDaemon.Cities.Catalog
