import BarDaemon.CityCatalog
import Mathlib.Data.List.Nodup

/-!
# Runs of the saved cities

A catalog that was accepted stays acceptable, identifiers are never used again,
and what is saved is accepted when it is loaded.
-/

namespace BarDaemon.Cities

open CompactJson FallibleSteps Locations TransitionRuns

namespace Catalog

/-! ## Validity -/

/-- A city that is accepted by itself. -/
structure Fits (zones : Zones) (city : City) : Prop where
  place : city.place.validate zones = .ok ()
  id : byteLength city.id ≤ 240
  saved : city.id ≠ "current-location"

/-- A catalog that is accepted. -/
structure Valid (zones : Zones) (catalog : Catalog) : Prop where
  version : catalog.version = 1
  revision : 0 < catalog.revision
  nextId : 0 < catalog.nextId
  few : catalog.cities.length ≤ maxCities
  fits : ∀ city ∈ catalog.cities, Fits zones city
  distinct : (catalog.cities.map City.id).Nodup
  home : ∃ home ∈ catalog.cities, home.id = homeId ∧
    home.place.same homePlace = true ∧ home.weather = true ∧
      home.hasCoordinates = true

section Validation

variable {zones : Zones}

theorem checkCities_eq_ok_iff {ids : List String} {cities : List City} :
    checkCities zones ids cities = .ok () ↔
      (∀ city ∈ cities, Fits zones city) ∧ (cities.map City.id).Nodup ∧
        ∀ city ∈ cities, city.id ∉ ids := by
  induction cities generalizing ids with
  | nil => simp [checkCities]
  | cons city cities ih =>
      rw [checkCities, bind_eq_ok_iff]
      simp only [ensure_then_eq_ok_iff, ih, List.map_cons, List.nodup_cons,
        List.forall_mem_cons, Bool.and_eq_true, decide_eq_true_eq, bne_iff_ne,
        Bool.not_eq_true', List.contains_eq_mem, decide_eq_false_iff_not]
      constructor
      · rintro ⟨_, place, ⟨⟨short, saved⟩, fresh⟩, fits, distinct, apart⟩
        refine ⟨⟨⟨place, short, saved⟩, fits⟩, ⟨?_, distinct⟩, fresh, ?_⟩
        · intro among
          obtain ⟨other, present, same⟩ := List.mem_map.mp among
          exact apart other present (same ▸ List.mem_cons_self)
        · exact fun other among earlier =>
            apart other among (List.mem_cons_of_mem _ earlier)
      · rintro ⟨⟨first, fits⟩, ⟨absent, distinct⟩, fresh, apart⟩
        refine ⟨(), first.place, ⟨⟨first.id, first.saved⟩, fresh⟩, fits,
          distinct, fun other among same => ?_⟩
        rcases List.mem_cons.mp same with same | earlier
        · exact absent (List.mem_map.mpr ⟨other, among, same⟩)
        · exact apart other among earlier

/-- Of cities with distinct identifiers the first with one is the only one. -/
theorem find?_id {cities : List City} (distinct : (cities.map City.id).Nodup)
    {city : City} (among : city ∈ cities) :
    cities.find? (·.id == city.id) = some city := by
  cases found : cities.find? (·.id == city.id) with
  | none =>
      have absent := List.find?_eq_none.mp found city among
      simp at absent
  | some other =>
      have same : other.id = city.id := by
        simpa using List.find?_some found
      rw [List.inj_on_of_nodup_map distinct (List.mem_of_find?_eq_some found)
        among same]

theorem validate_eq_ok_iff {catalog : Catalog} :
    catalog.validate zones = .ok () ↔ Valid zones catalog := by
  rw [validate, ensure_then_eq_ok_iff, bind_eq_ok_iff]
  simp only [Bool.and_eq_true, beq_iff_eq, decide_eq_true_eq]
  constructor
  · rintro ⟨⟨⟨⟨version, revision⟩, nextId⟩, few⟩, _, checked, home⟩
    obtain ⟨fits, distinct, _⟩ := checkCities_eq_ok_iff.mp checked
    refine ⟨version, revision, nextId, few, fits, distinct, ?_⟩
    unfold checkHome at home
    split at home
    · cases home
    · rename_i city found
      have facts := ensure_eq_ok_iff.mp home
      simp only [Bool.and_eq_true] at facts
      exact ⟨city, List.mem_of_find?_eq_some found,
        by simpa using List.find?_some found, facts.1.1, facts.1.2, facts.2⟩
  · rintro ⟨version, revision, nextId, few, fits, distinct, home⟩
    refine ⟨⟨⟨⟨version, revision⟩, nextId⟩, few⟩, (),
      checkCities_eq_ok_iff.mpr ⟨fits, distinct, fun _ _ => List.not_mem_nil⟩,
      ?_⟩
    obtain ⟨city, among, id, place, weather, coordinates⟩ := home
    have found := find?_id distinct among
    rw [id] at found
    rw [checkHome, found]
    simp only [place, weather, coordinates, Bool.and_self]
    rfl

/-- Home is there exactly once. -/
theorem Valid.home_once {catalog : Catalog} (valid : Valid zones catalog) :
    (catalog.cities.filter (·.id == homeId)).length = 1 := by
  obtain ⟨home, among, id, _⟩ := valid.home
  have count : (catalog.cities.map City.id).count homeId = 1 :=
    List.count_eq_one_of_mem valid.distinct (List.mem_map.mpr ⟨home, among, id⟩)
  rw [← count, List.count, List.countP_map, List.countP_eq_length_filter]
  rfl

end Validation

/-! ## Places -/

/-- What is asked of a label. -/
def Label (text : String) : Prop :=
  byteLength text ≤ 240 ∧ hasControl text = false

theorem place_validate_eq_ok_iff {zones : Zones} {place : Place} :
    place.validate zones = .ok () ↔
      (∀ text ∈ [place.name, place.country, place.region], Label text) ∧
        (trim place.name).isEmpty = false ∧
        place.latitude.within (Binary64.ofNat 90).opposite (.ofNat 90) = true ∧
        place.longitude.within (Binary64.ofNat 180).opposite (.ofNat 180) =
          true ∧
        zones.known place.timezone = true := by
  rw [Place.validate, refusal_eq_ok_iff, refusal_eq_ok_iff, refusal_eq_ok_iff,
    refusal_eq_ok_iff]
  have labels : ¬([place.name, place.country, place.region].any fun text =>
      240 < byteLength text || hasControl text) = true ↔
        ∀ text ∈ [place.name, place.country, place.region], Label text := by
    rw [List.any_eq_true]
    push Not
    refine forall_congr' fun text => forall_congr' fun _ => ?_
    rw [Label, Ne, Bool.or_eq_true, not_or, decide_eq_true_eq, Nat.not_lt,
      Bool.not_eq_true]
  rw [labels, Bool.not_eq_true', Bool.not_eq_false, Bool.and_eq_true,
    Bool.not_eq_true, Bool.not_eq_true', Bool.not_eq_false]
  simp only [and_true, and_assoc]

/-! ## Numbers that are read back -/

/-- Numbers that are not zero are told apart by their positions. -/
theorem eq_of_position {first second : Binary64}
    (same : first.position = second.position) (shown : second.position ≠ 0) :
    first = second := by
  have low := first.bits.isLt
  have high := second.bits.isLt
  unfold Binary64.position Binary64.magnitude at same shown
  have bits : first.bits.val = second.bits.val := by
    split at same <;> split at same <;> omega
  cases first
  cases second
  exact congrArg Binary64.mk (Fin.ext bits)

/-- What reading a number gives after it was written: at most one number away,
and the same for short decimals. -/
structure Rereads (reread : Binary64 → Binary64) : Prop where
  number : ∀ value, value.isNaN = false → (reread value).isNaN = false
  near : ∀ value, value.isNaN = false →
    (reread value).position ≤ value.position + 1 ∧
      value.position ≤ (reread value).position + 1
  exact_bounds : ∀ bound ∈ [90, 180],
    reread (Binary64.ofNat bound) = .ofNat bound ∧
      reread (Binary64.ofNat bound).opposite = (Binary64.ofNat bound).opposite
  exact_home : reread homePlace.latitude = homePlace.latitude ∧
    reread homePlace.longitude = homePlace.longitude

theorem Rereads.within {reread : Binary64 → Binary64} (rereads : Rereads reread)
    {bound : Nat} (known : bound ∈ [90, 180]) {value : Binary64}
    (inside : value.within (Binary64.ofNat bound).opposite (.ofNat bound) =
      true) :
    (reread value).within (Binary64.ofNat bound).opposite (.ofNat bound) =
      true := by
  have ends : (Binary64.ofNat bound).position ≠ 0 ∧
      (Binary64.ofNat bound).opposite.position ≠ 0 := by
    have all : ∀ bound ∈ [90, 180], (Binary64.ofNat bound).position ≠ 0 ∧
        (Binary64.ofNat bound).opposite.position ≠ 0 := by
      decide +kernel
    exact all bound known
  obtain ⟨high, low⟩ := rereads.exact_bounds bound known
  simp only [Binary64.within, Binary64.atMost, Bool.and_eq_true,
    Bool.not_eq_true', decide_eq_true_eq] at inside ⊢
  obtain ⟨⟨⟨lowNumber, number⟩, above⟩, ⟨_, highNumber⟩, below⟩ := inside
  have kept := rereads.number value number
  obtain ⟨up, down⟩ := rereads.near value number
  refine ⟨⟨⟨lowNumber, kept⟩, ?_⟩, ⟨kept, highNumber⟩, ?_⟩
  · by_cases edge : value.position = (Binary64.ofNat bound).opposite.position
    · rw [eq_of_position edge ends.2, low]
    · omega
  · by_cases edge : value.position = (Binary64.ofNat bound).position
    · rw [eq_of_position edge ends.1, high]
    · omega

def rereadPlace (reread : Binary64 → Binary64) (place : Place) : Place :=
  { place with
    latitude := reread place.latitude
    longitude := reread place.longitude }

def rereadCity (reread : Binary64 → Binary64) (city : City) : City :=
  { city with place := rereadPlace reread city.place }

/-- The catalog that is read from the file of another. -/
def reread (reread : Binary64 → Binary64) (catalog : Catalog) : Catalog :=
  { catalog with cities := catalog.cities.map (rereadCity reread) }

section Reread

variable {zones : Zones} {again : Binary64 → Binary64}
  (rereads : Rereads again)

include rereads

theorem validate_rereadPlace {place : Place}
    (valid : place.validate zones = .ok ()) :
    (rereadPlace again place).validate zones = .ok () := by
  obtain ⟨labels, name, latitude, longitude, known⟩ :=
    place_validate_eq_ok_iff.mp valid
  exact place_validate_eq_ok_iff.mpr ⟨labels, name,
    rereads.within (by decide) latitude, rereads.within (by decide) longitude,
    known⟩

/-- A place that is Home is read back as it is. -/
theorem rereadPlace_home {place : Place}
    (home : place.same homePlace = true) :
    (rereadPlace again place).same homePlace = true := by
  have shown : homePlace.latitude.position ≠ 0 ∧
      homePlace.longitude.position ≠ 0 := by
    decide +kernel
  simp only [Place.same, Bool.and_eq_true] at home ⊢
  obtain ⟨⟨labels, latitude⟩, longitude⟩ := home
  simp only [Binary64.equals, Bool.and_eq_true, beq_iff_eq] at latitude longitude
  have sameLatitude := eq_of_position latitude.2 shown.1
  have sameLongitude := eq_of_position longitude.2 shown.2
  refine ⟨⟨labels, ?_⟩, ?_⟩
  · rw [rereadPlace, sameLatitude, rereads.exact_home.1]
    exact @Binary64.equals_self homePlace.latitude (by decide +kernel)
  · rw [rereadPlace, sameLongitude, rereads.exact_home.2]
    exact @Binary64.equals_self homePlace.longitude (by decide +kernel)

/-- What was accepted is accepted when it is read back. -/
theorem Valid.readBack {catalog : Catalog} (valid : Valid zones catalog) :
    Valid zones (catalog.reread again) := by
  refine ⟨valid.version, valid.revision, valid.nextId, ?_, ?_, ?_, ?_⟩
  · rw [Catalog.reread, List.length_map]
    exact valid.few
  · intro city among
    obtain ⟨saved, present, rfl⟩ := List.mem_map.mp among
    have fits := valid.fits saved present
    exact ⟨validate_rereadPlace rereads fits.place, fits.id, fits.saved⟩
  · rw [Catalog.reread, List.map_map]
    exact valid.distinct
  · obtain ⟨home, among, id, place, weather, coordinates⟩ := valid.home
    exact ⟨rereadCity again home, List.mem_map_of_mem among, id,
      rereadPlace_home rereads place, weather, coordinates⟩

end Reread

/-! ## Sizes -/

/-- Zone names and numbers are short. -/
structure Short (host : Host) : Prop where
  zone : ∀ zone, host.zones.known zone = true → byteLength zone ≤ 64
  number : ∀ value, width (host.number value) ≤ 32

theorem width_quoted_le {value : String} {bytes : Nat}
    (short : byteLength value ≤ bytes) :
    width (Json.quoted value) ≤ 6 * bytes + 2 := by
  have size := Json.size_str_le value
  rw [Json.size_eq] at size
  have chars : (Json.str value).chars = Json.quoted value := by
    rw [Json.chars]
  rw [chars] at size
  omega

theorem width_cityText_le {host : Host} (short : Short host) {city : City}
    (fits : Fits host.zones city) : width (cityText host city) ≤ 6800 := by
  obtain ⟨labels, _, _, _, known⟩ := place_validate_eq_ok_iff.mp fits.place
  have id := width_quoted_le fits.id
  have name := width_quoted_le (labels city.place.name (by simp)).1
  have country := width_quoted_le (labels city.place.country (by simp)).1
  have region := width_quoted_le (labels city.place.region (by simp)).1
  have zone := width_quoted_le (short.zone _ known)
  have latitude := short.number city.place.latitude
  have longitude := short.number city.place.longitude
  have coordinates := Json.size_bool_le city.hasCoordinates
  have weather := Json.size_bool_le city.weather
  rw [Json.size_eq] at coordinates weather
  unfold cityText
  simp only [width_append]
  have literals : width "    \x7b\n      \"id\": ".toList +
      width ",\n      \"place\": \x7b\n        \"name\": ".toList +
      width ",\n        \"country\": ".toList +
      width ",\n        \"region\": ".toList +
      width ",\n        \"timezone\": ".toList +
      width ",\n        \"latitude\": ".toList +
      width ",\n        \"longitude\": ".toList +
      width "\n      \x7d,\n      \"has_coordinates\": ".toList +
      width ",\n      \"weather\": ".toList + width "\n    \x7d".toList = 221 := by
    decide +kernel
  omega

theorem width_citiesText_le {host : Host} (short : Short host)
    {cities : List City} (fits : ∀ city ∈ cities, Fits host.zones city) :
    width (citiesText host cities) ≤ 6802 * cities.length := by
  induction cities with
  | nil => exact Nat.zero_le _
  | cons city cities ih =>
      have first := width_cityText_le short (fits city List.mem_cons_self)
      cases cities with
      | nil =>
          rw [citiesText, List.length_singleton]
          omega
      | cons next cities =>
          have rest := ih fun other among =>
            fits other (List.mem_cons_of_mem city among)
          have comma : width ",\n".toList = 2 := by decide
          have joined : citiesText host (city :: next :: cities) =
              cityText host city ++ ",\n".toList ++
                citiesText host (next :: cities) :=
            rfl
          rw [joined, width_append, width_append, comma, List.length_cons]
          omega

/-- The counters of a catalog are 64 bits wide. -/
structure Counted (catalog : Catalog) : Prop where
  revision : catalog.revision ≤ u64Max
  nextId : catalog.nextId ≤ u64Max

/-- What is saved is not longer than what is loaded. -/
theorem width_text_le {host : Host} (short : Short host) {catalog : Catalog}
    (valid : Valid host.zones catalog) (counted : catalog.Counted) :
    width (catalog.text host) ≤ 256 * 1024 := by
  have cities := width_citiesText_le short valid.fits
  have few := valid.few
  unfold maxCities at few
  have digits {number : Nat} (fits : number ≤ u64Max) :
      width (Nat.toDigits 10 number) ≤ 20 :=
    Json.width_toDigits_le (by decide) (Nat.lt_of_le_of_lt fits (by decide))
  have version : width (Nat.toDigits 10 catalog.version) ≤ 20 :=
    digits (by rw [valid.version]; decide)
  have revision := digits counted.revision
  have nextId := digits counted.nextId
  unfold text
  simp only [width_append]
  have literals : width "\x7b\n  \"version\": ".toList +
      width ",\n  \"revision\": ".toList + width ",\n  \"next_id\": ".toList +
      width ",\n  \"cities\": [\n".toList + width "\n  ]\n\x7d".toList = 68 := by
    decide +kernel
  omega


/-- What a run has saved is loaded, as it is read back. -/
theorem load_text {host : Host} {again : Binary64 → Binary64}
    (short : Short host) (rereads : Rereads again) {catalog : Catalog}
    (valid : Valid host.zones catalog) (counted : catalog.Counted)
    (decoded : host.decode (catalog.text host) = .ok (catalog.reread again))
    (config : ActivityConfig) :
    loadOrImport host (some (catalog.text host)) config =
      .ok (catalog.reread again, catalog.text host) := by
  have fits := width_text_le short valid counted
  have accepted := validate_eq_ok_iff.mpr (valid.readBack rereads)
  have read : stored host (some (catalog.text host)) config =
      .ok (catalog.reread again) :=
    ensure_then_eq_ok_iff.mpr ⟨decide_eq_true fits, decoded⟩
  rw [loadOrImport, read, ok_bind, accepted, ok_bind]
  rfl

/-! ## Steps -/

section Steps

variable {zones : Zones}

theorem exhausted_eq_ok_iff {message : String} {counter : Option Nat}
    {number : Nat} :
    exhausted message counter = .ok number ↔ counter = some number := by
  cases counter with
  | none => simp [exhausted]
  | some value => simp [exhausted]

theorem checkedAdd_eq_some_iff {first second sum : Nat} :
    checkedAdd first second = some sum ↔
      sum = first + second ∧ sum ≤ u64Max := by
  unfold checkedAdd
  split
  · rw [Option.some.injEq]
    omega
  · simp only [reduceCtorEq, false_iff]
    omega

/-- What an accepted call does: nothing, one city more, or one identifier
less. -/
inductive Changes (zones : Zones) (catalog : Catalog) : Catalog → Prop
  | same : Changes zones catalog catalog
  | added (place : Place)
      (fits : catalog.nextId + 1 ≤ u64Max ∧ catalog.revision + 1 ≤ u64Max)
      (valid : Valid zones { catalog with
        nextId := catalog.nextId + 1
        revision := catalog.revision + 1
        cities := catalog.cities ++
          [⟨cityId catalog.nextId, place, true, true⟩] }) :
      Changes zones catalog { catalog with
        nextId := catalog.nextId + 1
        revision := catalog.revision + 1
        cities := catalog.cities ++ [⟨cityId catalog.nextId, place, true, true⟩] }
  | removed (id : String) (fits : catalog.revision + 1 ≤ u64Max)
      (valid : Valid zones { catalog with
        revision := catalog.revision + 1
        cities := catalog.cities.filter (·.id != id) }) :
      Changes zones catalog { catalog with
        revision := catalog.revision + 1
        cities := catalog.cities.filter (·.id != id) }

theorem changes_add {catalog next : Catalog} {place : Place} {revision : Nat}
    {id : String} (added : catalog.add zones place revision = .ok (next, id)) :
    Changes zones catalog next := by
  obtain ⟨_, rest⟩ := ensure_then_eq_ok_iff.mp added
  obtain ⟨_, _, rest⟩ := bind_eq_ok_iff.mp rest
  split at rest
  · cases rest
    exact .same
  · obtain ⟨_, rest⟩ := ensure_then_eq_ok_iff.mp rest
    obtain ⟨nextId, advanced, rest⟩ := bind_eq_ok_iff.mp rest
    obtain ⟨counter, revised, rest⟩ := bind_eq_ok_iff.mp rest
    obtain ⟨_, valid, done⟩ := bind_eq_ok_iff.mp rest
    obtain ⟨rfl, idFits⟩ :=
      checkedAdd_eq_some_iff.mp (exhausted_eq_ok_iff.mp advanced)
    obtain ⟨rfl, revisionFits⟩ :=
      checkedAdd_eq_some_iff.mp (exhausted_eq_ok_iff.mp revised)
    cases done
    exact .added place ⟨idFits, revisionFits⟩ (validate_eq_ok_iff.mp valid)

theorem changes_remove {catalog next : Catalog} {id : String} {revision : Nat}
    (removed : catalog.remove zones id revision = .ok next) :
    Changes zones catalog next := by
  obtain ⟨_, rest⟩ := ensure_then_eq_ok_iff.mp removed
  obtain ⟨_, rest⟩ := ensure_then_eq_ok_iff.mp rest
  obtain ⟨_, rest⟩ := ensure_then_eq_ok_iff.mp rest
  obtain ⟨counter, revised, rest⟩ := bind_eq_ok_iff.mp rest
  obtain ⟨_, valid, done⟩ := bind_eq_ok_iff.mp rest
  obtain ⟨rfl, fits⟩ :=
    checkedAdd_eq_some_iff.mp (exhausted_eq_ok_iff.mp revised)
  cases done
  exact .removed id fits (validate_eq_ok_iff.mp valid)

theorem changes_step (catalog : Catalog) (action : Action) :
    Changes zones catalog (catalog.step zones action) := by
  unfold step
  cases result : catalog.act zones action with
  | error _ => exact .same
  | ok next =>
      cases action with
      | add place revision =>
          obtain ⟨⟨other, id⟩, added, rfl⟩ := map_eq_ok_iff.mp result
          exact changes_add added
      | remove id revision => exact changes_remove result

end Steps

end Catalog

end BarDaemon.Cities
