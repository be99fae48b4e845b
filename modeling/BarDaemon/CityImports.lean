import BarDaemon.CityCatalogHistory
import Mathlib.Data.List.Dedup

/-!
# What can be imported

The configurations whose cities make a catalog that is accepted.
-/

namespace BarDaemon.Cities

open CompactJson FallibleSteps Locations TransitionRuns

/-! ## Clocks -/

theorem mem_newClocks {zones : List String} {clocks : List WorldClock}
    (sorted : clocks.Pairwise fun first second => clockOrder first second = true)
    {clock : WorldClock} :
    clock ∈ newClocks zones clocks ↔ clock ∈ clocks ∧ clock.timezone ∉ zones ∧
      ∀ other ∈ clocks, other.timezone = clock.timezone →
        clock.label ≤ other.label := by
  induction clocks generalizing zones with
  | nil => simp [newClocks]
  | cons head clocks ih =>
      obtain ⟨least, sorted⟩ := List.pairwise_cons.mp sorted
      have label {other : WorldClock} (among : other ∈ clocks)
          (same : other.timezone = head.timezone) :
          head.label ≤ other.label := by
        have ordered := least other among
        simp only [clockOrder, same, Bool.or_eq_true, Bool.and_eq_true,
          decide_eq_true_eq, beq_self_eq_true, true_and] at ordered
        rcases ordered with less | ordered
        · exact absurd less (String.lt_irrefl _)
        · exact ordered
      unfold newClocks
      split
      · rename_i seen
        have present : head.timezone ∈ zones := by simpa using seen
        rw [ih sorted]
        constructor
        · rintro ⟨among, absent, minimal⟩
          refine ⟨List.mem_cons_of_mem _ among, absent, fun other present' same => ?_⟩
          rcases List.mem_cons.mp present' with rfl | later
          · exact absurd (same ▸ present) absent
          · exact minimal other later same
        · rintro ⟨among, absent, minimal⟩
          rcases List.mem_cons.mp among with rfl | later
          · exact absurd present absent
          · exact ⟨later, absent, fun other there =>
              minimal other (List.mem_cons_of_mem _ there)⟩
      · rename_i unseen
        have absentHead : head.timezone ∉ zones := by simpa using unseen
        rw [List.mem_cons, ih sorted]
        constructor
        · rintro (rfl | ⟨among, absent, minimal⟩)
          · refine ⟨List.mem_cons_self, absentHead, fun other there same => ?_⟩
            rcases List.mem_cons.mp there with rfl | later
            · exact String.le_refl _
            · exact label later same
          · obtain ⟨different, absent⟩ :=
              List.ne_and_not_mem_of_not_mem_cons absent
            refine ⟨List.mem_cons_of_mem _ among, absent,
              fun other there same => ?_⟩
            rcases List.mem_cons.mp there with rfl | later
            · exact absurd same.symm different
            · exact minimal other later same
        · rintro ⟨among, absent, minimal⟩
          rcases List.mem_cons.mp among with rfl | later
          · exact .inl rfl
          · by_cases same : clock.timezone = head.timezone
            · have labels : clock.label = head.label :=
                String.le_antisymm (minimal head List.mem_cons_self same.symm)
                  (label later same)
              cases clock
              cases head
              simp only at same labels
              exact .inl (by rw [same, labels])
            · exact .inr ⟨later, List.not_mem_cons_of_ne_of_not_mem same absent,
                fun other there => minimal other (List.mem_cons_of_mem _ there)⟩

theorem mem_newClocks_zones {zones : List String} {clocks : List WorldClock}
    {zone : String} :
    zone ∈ (newClocks zones clocks).map WorldClock.timezone ↔
      zone ∈ clocks.map WorldClock.timezone ∧ zone ∉ zones := by
  induction clocks generalizing zones with
  | nil => simp [newClocks]
  | cons head clocks ih =>
      unfold newClocks
      split
      · rename_i seen
        have present : head.timezone ∈ zones := by simpa using seen
        rw [ih, List.map_cons, List.mem_cons]
        constructor
        · rintro ⟨among, absent⟩
          exact ⟨.inr among, absent⟩
        · rintro ⟨rfl | among, absent⟩
          · exact absurd present absent
          · exact ⟨among, absent⟩
      · rename_i unseen
        have absentHead : head.timezone ∉ zones := by simpa using unseen
        simp only [List.map_cons, List.mem_cons, ih, not_or]
        constructor
        · rintro (rfl | ⟨among, _, absent⟩)
          · exact ⟨.inl rfl, absentHead⟩
          · exact ⟨.inr among, absent⟩
        · rintro ⟨among, absent⟩
          by_cases same : zone = head.timezone
          · exact .inl same
          · exact .inr ⟨among.resolve_left same, same, absent⟩

theorem nodup_newClocks {zones : List String} {clocks : List WorldClock} :
    ((newClocks zones clocks).map WorldClock.timezone).Nodup := by
  induction clocks generalizing zones with
  | nil => exact List.nodup_nil
  | cons head clocks ih =>
      unfold newClocks
      split
      · exact ih
      · rw [List.map_cons, List.nodup_cons, mem_newClocks_zones]
        exact ⟨fun among => among.2 List.mem_cons_self, ih⟩

/-- As many clocks are new as there are zones that are new. -/
theorem length_newClocks {zones : List String} {clocks : List WorldClock} :
    (newClocks zones clocks).length =
      ((clocks.map WorldClock.timezone).filter (· ∉ zones)).dedup.length := by
  have same : ((newClocks zones clocks).map WorldClock.timezone).Perm
      ((clocks.map WorldClock.timezone).filter (· ∉ zones)).dedup := by
    rw [List.perm_ext_iff_of_nodup nodup_newClocks (List.nodup_dedup _)]
    intro zone
    rw [mem_newClocks_zones, List.mem_dedup, List.mem_filter,
      decide_eq_true_eq]
  rw [← same.length_eq, List.length_map]

/-! ## Configurations -/

/-- What the configuration checks of a weather location by itself. -/
structure Checked (weather : Weather) : Prop where
  latitude : weather.latitude.within (Binary64.ofNat 90).opposite (.ofNat 90) =
    true
  longitude : weather.longitude.within (Binary64.ofNat 180).opposite
    (.ofNat 180) = true
  location : (trim weather.location).isEmpty = false

theorem checked_of_validateLocations {ids : List String}
    {locations : List Weather}
    (valid : ActivityConfig.validateLocations ids locations = .ok ()) :
    (∀ weather ∈ locations, Checked weather) ∧
      (locations.map Weather.id).Nodup ∧
        ∀ weather ∈ locations, weather.id ∉ ids := by
  induction locations generalizing ids with
  | nil => simp
  | cons weather locations ih =>
      unfold ActivityConfig.validateLocations at valid
      obtain ⟨latitude, valid⟩ := ensure_then_eq_ok_iff.mp valid
      obtain ⟨longitude, valid⟩ := ensure_then_eq_ok_iff.mp valid
      obtain ⟨_, valid⟩ := ensure_then_eq_ok_iff.mp valid
      obtain ⟨fresh, valid⟩ := ensure_then_eq_ok_iff.mp valid
      obtain ⟨location, valid⟩ := ensure_then_eq_ok_iff.mp valid
      obtain ⟨_, valid⟩ := ensure_then_eq_ok_iff.mp valid
      obtain ⟨checked, distinct, apart⟩ := ih valid
      rw [List.map_cons, List.nodup_cons, List.forall_mem_cons,
        List.forall_mem_cons]
      refine ⟨⟨⟨latitude, longitude, by simpa using location⟩, checked⟩,
        ⟨fun among => ?_, distinct⟩, by simpa using fresh,
        fun other among earlier =>
          apart other among (List.mem_cons_of_mem _ earlier)⟩
      obtain ⟨other, present, same⟩ := List.mem_map.mp among
      exact apart other present (same ▸ List.mem_cons_self)

theorem known_of_validateWorldClocks {zones : Zones} {clocks : List WorldClock}
    (valid : ActivityConfig.validateWorldClocks zones clocks = .ok ()) :
    ∀ clock ∈ clocks, zones.known clock.timezone = true := by
  induction clocks with
  | nil => exact fun _ absent => nomatch absent
  | cons clock clocks ih =>
      obtain ⟨known, valid⟩ := ensure_then_eq_ok_iff.mp valid
      exact List.forall_mem_cons.mpr ⟨known, ih valid⟩

/-- What an accepted configuration is known to have. -/
structure Configured (host : Host) (config : ActivityConfig) : Prop where
  weather : ∀ weather ∈ imported host config, Checked weather
  distinct : ((imported host config).map Weather.id).Nodup
  clocks : ∀ clock ∈ config.worldClocks, host.zones.known clock.timezone = true

theorem configured_of_validate {host : Host} {config : ActivityConfig}
    (valid : config.validate host.zones = .ok ()) : Configured host config := by
  obtain ⟨_, _, valid⟩ := bind_eq_ok_iff.mp valid
  obtain ⟨_, clocks, valid⟩ := bind_eq_ok_iff.mp valid
  obtain ⟨_, locations, _⟩ := bind_eq_ok_iff.mp valid
  obtain ⟨checked, distinct, _⟩ := checked_of_validateLocations locations
  exact ⟨fun weather among => checked weather (List.mem_filter.mp among).1,
    (List.filter_sublist.map Weather.id).nodup distinct,
    known_of_validateWorldClocks clocks⟩

/-! ## Identifiers -/

theorem byteLength_append (first second : String) :
    byteLength (first ++ second) = byteLength first + byteLength second :=
  String.utf8ByteSize_append

theorem append_injective {start first second : String}
    (same : start ++ first = start ++ second) : first = second := by
  have lists := congrArg String.toList same
  rw [String.toList_append, String.toList_append] at lists
  exact String.toList_injective (List.append_cancel_left lists)

/-- Texts that begin otherwise are others. -/
theorem append_ne {start first other second : String}
    (different : start.toList.head? ≠ other.toList.head?)
    (shown : start.toList ≠ [] ∧ other.toList ≠ []) :
    start ++ first ≠ other ++ second := by
  intro same
  have heads := congrArg (fun text => text.toList.head?) same
  simp only [String.toList_append, List.head?_append_of_ne_nil _ shown.1,
    List.head?_append_of_ne_nil _ shown.2] at heads
  exact different heads

theorem weatherId_start (id : String) :
    ∃ rest, weatherId id = "weather:" ++ rest := by
  unfold weatherId
  split
  · exact ⟨"imported-home", rfl⟩
  · exact ⟨id, rfl⟩

/-- Only "home" and "imported-home" can be given one identifier. -/
theorem weatherId_eq_iff {first second : String} :
    weatherId first = weatherId second ↔ first = second ∨
      (first = "home" ∧ second = "imported-home") ∨
        (first = "imported-home" ∧ second = "home") := by
  have rewritten : "weather:imported-home" = "weather:" ++ "imported-home" :=
    rfl
  unfold weatherId
  by_cases one : first = "home"
  · by_cases two : second = "home"
    · simp [one, two]
    · rw [if_pos one, if_neg two, rewritten]
      constructor
      · exact fun same => .inr (.inl ⟨one, (append_injective same).symm⟩)
      · rintro (same | ⟨_, rfl⟩ | ⟨_, same⟩)
        · exact absurd (same.symm.trans one) two
        · rfl
        · exact absurd same two
  · by_cases two : second = "home"
    · rw [if_neg one, if_pos two, rewritten]
      constructor
      · exact fun same => .inr (.inr ⟨append_injective same, two⟩)
      · rintro (same | ⟨same, _⟩ | ⟨rfl, _⟩)
        · exact absurd (same.trans two) one
        · exact absurd same one
        · rfl
    · rw [if_neg one, if_neg two]
      constructor
      · exact fun same => .inl (append_injective same)
      · rintro (rfl | ⟨same, _⟩ | ⟨_, same⟩)
        · rfl
        · exact absurd same one
        · exact absurd same two

theorem weatherId_ne_home (id : String) : weatherId id ≠ homeId := by
  have whole : homeId = "weather:" ++ "home" := rfl
  unfold weatherId
  split
  · decide
  · rename_i other
    rw [whole]
    exact fun same => other (append_injective same)

theorem byteLength_weatherId (id : String) :
    byteLength (weatherId id) ≤ 240 ↔ byteLength id ≤ 232 := by
  unfold weatherId
  split
  · rename_i home
    rw [home]
    decide
  · have start : byteLength "weather:" = 8 := by decide
    rw [byteLength_append, start]
    omega

/-! ## Importable configurations -/

/-- The zones of Home and of the weather locations. -/
def cityZones (host : Host) (config : ActivityConfig) : List String :=
  homePlace.timezone :: (imported host config).map (weatherZone host)

/-- The clock of a new zone, with the first label of those of its zone. -/
def Counts (host : Host) (config : ActivityConfig) (clock : WorldClock) : Prop :=
  clock.timezone ∉ cityZones host config ∧ ∀ other ∈ config.worldClocks,
    other.timezone = clock.timezone → clock.label ≤ other.label

/-- How many zones only clocks have. -/
def clockZones (host : Host) (config : ActivityConfig) : Nat :=
  ((config.worldClocks.map WorldClock.timezone).filter
    (· ∉ cityZones host config)).dedup.length

/-- A configuration within the limits of the store. -/
structure Importable (host : Host) (config : ActivityConfig) : Prop where
  zone : ∀ weather ∈ imported host config,
    host.zones.known (weatherZone host weather) = true
  location : ∀ weather ∈ imported host config, Catalog.Label weather.location
  id : ∀ weather ∈ imported host config, byteLength weather.id ≤ 232
  apart : ¬((∃ weather ∈ imported host config, weather.id = "home") ∧
    ∃ weather ∈ imported host config, weather.id = "imported-home")
  clocks : ∀ clock ∈ config.worldClocks, Counts host config clock →
    Catalog.Label (clockName clock) ∧ (trim (clockName clock)).isEmpty = false
  few : 1 + (imported host config).length + clockZones host config ≤
    Catalog.maxCities

section Seed

variable {host : Host} {config : ActivityConfig}

/-- The clocks that are imported. -/
def importedClocks (host : Host) (config : ActivityConfig) : List WorldClock :=
  newClocks (cityZones host config) (config.worldClocks.mergeSort clockOrder)

theorem seed_cities : (Catalog.seed host config).cities =
    homeCity :: (imported host config).map (weatherCity host) ++
      (importedClocks host config).map clockCity := by
  rw [Catalog.seed, importedClocks, cityZones]
  simp only [List.map_cons, List.map_map]
  rfl

theorem clockOrder_trans (first second third : WorldClock)
    (early : clockOrder first second = true)
    (late : clockOrder second third = true) :
    clockOrder first third = true := by
  simp only [clockOrder, Bool.or_eq_true, Bool.and_eq_true, decide_eq_true_eq,
    beq_iff_eq] at early late ⊢
  rcases early with less | ⟨same, label⟩
  · rcases late with more | ⟨equal, _⟩
    · exact .inl (String.lt_trans less more)
    · exact .inl (equal ▸ less)
  · rcases late with more | ⟨equal, other⟩
    · exact .inl (same ▸ more)
    · exact .inr ⟨same.trans equal, String.le_trans label other⟩

theorem clockOrder_total (first second : WorldClock) :
    (clockOrder first second || clockOrder second first) = true := by
  simp only [clockOrder, Bool.or_eq_true, Bool.and_eq_true, decide_eq_true_eq,
    beq_iff_eq]
  by_cases less : first.timezone < second.timezone
  · exact .inl (.inl less)
  · by_cases more : second.timezone < first.timezone
    · exact .inr (.inl more)
    · have same : first.timezone = second.timezone :=
        String.le_antisymm more less
      rcases String.le_total first.label second.label with label | label
      · exact .inl (.inr ⟨same, label⟩)
      · exact .inr (.inr ⟨same.symm, label⟩)

theorem mem_importedClocks {clock : WorldClock} :
    clock ∈ importedClocks host config ↔
      clock ∈ config.worldClocks ∧ Counts host config clock := by
  have sorted := List.pairwise_mergeSort clockOrder_trans clockOrder_total
    config.worldClocks
  rw [importedClocks, mem_newClocks sorted, Counts]
  simp only [List.mem_mergeSort]

theorem length_importedClocks :
    (importedClocks host config).length = clockZones host config := by
  have same := (List.mergeSort_perm config.worldClocks clockOrder).map
    WorldClock.timezone
  rw [importedClocks, length_newClocks, clockZones]
  exact ((same.filter _).dedup).length_eq

theorem label_empty : Catalog.Label "" := by
  unfold Catalog.Label
  decide

theorem fits_weatherCity_iff {weather : Weather} (checked : Checked weather) :
    Catalog.Fits host.zones (weatherCity host weather) ↔
      host.zones.known (weatherZone host weather) = true ∧
        Catalog.Label weather.location ∧ byteLength weather.id ≤ 232 := by
  constructor
  · rintro ⟨place, id, _⟩
    obtain ⟨labels, _, _, _, known⟩ := Catalog.place_validate_eq_ok_iff.mp place
    exact ⟨known, labels _ List.mem_cons_self, (byteLength_weatherId _).mp id⟩
  · rintro ⟨known, label, id⟩
    refine ⟨Catalog.place_validate_eq_ok_iff.mpr ⟨?_, checked.location,
      checked.latitude, checked.longitude, known⟩,
      (byteLength_weatherId _).mpr id, ?_⟩
    · intro text among
      simp only [List.mem_cons, List.not_mem_nil, or_false] at among
      rcases among with rfl | rfl | rfl
      · exact label
      · exact label_empty
      · exact label_empty
    · obtain ⟨rest, start⟩ := weatherId_start weather.id
      intro same
      have current : "weather:" ++ rest = "current-location" ++ "" :=
        start.symm.trans same
      exact append_ne (by decide) (by decide) current

theorem fits_clockCity_iff (short : Catalog.Short host) {clock : WorldClock}
    (known : host.zones.known clock.timezone = true) :
    Catalog.Fits host.zones (clockCity clock) ↔
      Catalog.Label (clockName clock) ∧
        (trim (clockName clock)).isEmpty = false := by
  constructor
  · rintro ⟨place, _, _⟩
    obtain ⟨labels, name, _⟩ := Catalog.place_validate_eq_ok_iff.mp place
    exact ⟨labels _ List.mem_cons_self, name⟩
  · rintro ⟨label, name⟩
    refine ⟨Catalog.place_validate_eq_ok_iff.mpr ⟨?_, name, ?_, ?_, known⟩, ?_,
      ?_⟩
    · intro text among
      simp only [List.mem_cons, List.not_mem_nil, or_false] at among
      rcases among with rfl | rfl | rfl
      · exact label
      · exact label_empty
      · exact label_empty
    · have zero : (Binary64.ofBits 0).within (Binary64.ofNat 90).opposite
          (.ofNat 90) = true := by decide +kernel
      exact zero
    · have zero : (Binary64.ofBits 0).within (Binary64.ofNat 180).opposite
          (.ofNat 180) = true := by decide +kernel
      exact zero
    · have zone := short.zone _ known
      have start : byteLength "clock:" = 6 := by decide
      rw [clockCity, byteLength_append, start]
      omega
    · intro same
      have lists := congrArg (fun text => text.toList[1]?) same
      rw [clockCity] at lists
      simp only [String.toList_append] at lists
      rw [List.getElem?_append_left (by decide)] at lists
      exact absurd lists (by decide)

theorem nodup_weatherIds_iff (configured : Configured host config) :
    ((imported host config).map fun weather => weatherId weather.id).Nodup ↔
      ¬((∃ weather ∈ imported host config, weather.id = "home") ∧
        ∃ weather ∈ imported host config, weather.id = "imported-home") := by
  constructor
  · rintro distinct ⟨⟨home, amongHome, homeNamed⟩, other, amongOther, named⟩
    have same : weatherId home.id = weatherId other.id :=
      weatherId_eq_iff.mpr (.inr (.inl ⟨homeNamed, named⟩))
    have equal := List.inj_on_of_nodup_map distinct amongHome amongOther same
    rw [equal, named] at homeNamed
    exact absurd homeNamed (by decide)
  · intro apart
    refine List.Nodup.map_on ?_ configured.distinct.of_map
    intro first amongFirst second amongSecond same
    rcases weatherId_eq_iff.mp same with equal | ⟨home, named⟩ | ⟨named, home⟩
    · exact List.inj_on_of_nodup_map configured.distinct amongFirst amongSecond
        equal
    · exact absurd ⟨⟨first, amongFirst, home⟩, second, amongSecond, named⟩ apart
    · exact absurd ⟨⟨second, amongSecond, home⟩, first, amongFirst, named⟩ apart

theorem nodup_clockIds :
    ((importedClocks host config).map fun clock =>
      "clock:" ++ clock.timezone).Nodup := by
  have zones : ((importedClocks host config).map WorldClock.timezone).Nodup :=
    nodup_newClocks
  have ids := zones.map (f := ("clock:" ++ ·))
    fun _ _ same => append_injective same
  rw [List.map_map] at ids
  exact ids

theorem nodup_seed_iff (configured : Configured host config) :
    ((Catalog.seed host config).cities.map City.id).Nodup ↔
      ¬((∃ weather ∈ imported host config, weather.id = "home") ∧
        ∃ weather ∈ imported host config, weather.id = "imported-home") := by
  have ids : (Catalog.seed host config).cities.map City.id =
      homeId :: ((imported host config).map fun weather =>
        weatherId weather.id) ++ (importedClocks host config).map fun clock =>
          "clock:" ++ clock.timezone := by
    rw [seed_cities, List.map_append, List.map_cons, List.map_map, List.map_map]
    rfl
  rw [ids, List.nodup_append, List.nodup_cons,
    ← nodup_weatherIds_iff configured]
  constructor
  · exact fun parts => parts.1.2
  · intro distinct
    refine ⟨⟨?_, distinct⟩, nodup_clockIds, ?_⟩
    · intro among
      obtain ⟨weather, _, same⟩ := List.mem_map.mp among
      exact weatherId_ne_home _ same
    · intro first amongFirst second amongSecond same
      obtain ⟨clock, _, rfl⟩ := List.mem_map.mp amongSecond
      have start : ∃ rest, first = "weather:" ++ rest := by
        rcases List.mem_cons.mp amongFirst with rfl | listed
        · exact ⟨"home", rfl⟩
        · obtain ⟨weather, _, rfl⟩ := List.mem_map.mp listed
          exact weatherId_start weather.id
      obtain ⟨rest, begins⟩ := start
      exact append_ne (by decide) (by decide) (begins.symm.trans same)

theorem fits_homeCity (knowsHome : host.zones.known homePlace.timezone = true) :
    Catalog.Fits host.zones homeCity := by
  have fixed : (∀ text ∈ [homePlace.name, homePlace.country, homePlace.region],
        byteLength text ≤ 240 ∧ hasControl text = false) ∧
      (trim homePlace.name).isEmpty = false ∧
      homePlace.latitude.within (Binary64.ofNat 90).opposite (.ofNat 90) =
        true ∧
      homePlace.longitude.within (Binary64.ofNat 180).opposite (.ofNat 180) =
        true := by
    decide +kernel
  obtain ⟨labels, name, latitude, longitude⟩ := fixed
  exact ⟨Catalog.place_validate_eq_ok_iff.mpr
    ⟨labels, name, latitude, longitude, knowsHome⟩, by decide, by decide⟩

/-- The imported catalog is accepted exactly when the configuration is within
the limits of the store. -/
theorem valid_seed_iff (short : Catalog.Short host)
    (knowsHome : host.zones.known homePlace.timezone = true)
    (configured : Configured host config) :
    Catalog.Valid host.zones (Catalog.seed host config) ↔
      Importable host config := by
  have amount : (Catalog.seed host config).cities.length =
      1 + (imported host config).length + clockZones host config := by
    rw [seed_cities, List.length_append, List.length_cons, List.length_map,
      List.length_map, length_importedClocks]
    omega
  have mem_weather {weather : Weather} (among : weather ∈ imported host config) :
      weatherCity host weather ∈ (Catalog.seed host config).cities := by
    rw [seed_cities]
    exact List.mem_append_left _ (List.mem_cons_of_mem _
      (List.mem_map_of_mem among))
  have mem_clock {clock : WorldClock}
      (among : clock ∈ importedClocks host config) :
      clockCity clock ∈ (Catalog.seed host config).cities := by
    rw [seed_cities]
    exact List.mem_append_right _ (List.mem_map_of_mem among)
  constructor
  · intro valid
    have weatherFits {weather : Weather}
        (among : weather ∈ imported host config) :=
      (fits_weatherCity_iff (configured.weather weather among)).mp
        (valid.fits _ (mem_weather among))
    refine ⟨fun _ among => (weatherFits among).1,
      fun _ among => (weatherFits among).2.1,
      fun _ among => (weatherFits among).2.2,
      (nodup_seed_iff configured).mp valid.distinct, ?_, ?_⟩
    · intro clock among counts
      exact (fits_clockCity_iff short (configured.clocks clock among)).mp
        (valid.fits _ (mem_clock (mem_importedClocks.mpr ⟨among, counts⟩)))
    · rw [← amount]
      exact valid.few
  · intro importable
    refine ⟨rfl, Nat.one_pos, Nat.one_pos, ?_, ?_,
      (nodup_seed_iff configured).mpr importable.apart, homeCity, ?_, rfl,
      by decide +kernel, rfl, rfl⟩
    · rw [amount]
      exact importable.few
    · intro city among
      rw [seed_cities] at among
      rcases List.mem_append.mp among with listed | clocks
      · rcases List.mem_cons.mp listed with rfl | mapped
        · exact fits_homeCity knowsHome
        · obtain ⟨weather, saved, rfl⟩ := List.mem_map.mp mapped
          exact (fits_weatherCity_iff (configured.weather weather saved)).mpr
            ⟨importable.zone weather saved, importable.location weather saved,
              importable.id weather saved⟩
      · obtain ⟨clock, saved, rfl⟩ := List.mem_map.mp clocks
        obtain ⟨present, counts⟩ := mem_importedClocks.mp saved
        exact (fits_clockCity_iff short (configured.clocks clock present)).mpr
          (importable.clocks clock present counts)
    · rw [seed_cities]
      exact List.mem_append_left _ List.mem_cons_self

/-- No imported city has an identifier that an added one may get. -/
theorem seed_not_cityId {city : City}
    (among : city ∈ (Catalog.seed host config).cities) (number : Nat) :
    city.id ≠ Catalog.cityId number := by
  rw [seed_cities] at among
  rcases List.mem_append.mp among with listed | clocks
  · have start : ∃ rest, city.id = "weather:" ++ rest := by
      rcases List.mem_cons.mp listed with rfl | mapped
      · exact ⟨"home", rfl⟩
      · obtain ⟨weather, _, rfl⟩ := List.mem_map.mp mapped
        exact weatherId_start weather.id
    obtain ⟨rest, begins⟩ := start
    rw [begins, Catalog.cityId]
    exact append_ne (by decide) (by decide)
  · obtain ⟨clock, _, rfl⟩ := List.mem_map.mp clocks
    intro same
    have lists := congrArg (fun text => text.toList[1]?) same
    rw [clockCity, Catalog.cityId] at lists
    simp only [String.toList_append] at lists
    rw [List.getElem?_append_left (by decide),
      List.getElem?_append_left (by decide)] at lists
    exact absurd lists (by decide)

theorem loadOrImport_none :
    (∃ start file, Catalog.loadOrImport host none config = .ok (start, file)) ↔
      Catalog.Valid host.zones (Catalog.seed host config) := by
  rw [← Catalog.validate_eq_ok_iff]
  constructor
  · rintro ⟨start, file, loaded⟩
    obtain ⟨value, read, rest⟩ := bind_eq_ok_iff.mp loaded
    cases read
    obtain ⟨_, valid, _⟩ := bind_eq_ok_iff.mp rest
    exact valid
  · intro valid
    exact ⟨_, _, bind_eq_ok_iff.mpr ⟨_, rfl, bind_eq_ok_iff.mpr ⟨(), valid, rfl⟩⟩⟩

theorem kept_seed (valid : Catalog.Valid host.zones (Catalog.seed host config)) :
    Catalog.Kept host.zones (Catalog.seed host config) :=
  have one : 1 ≤ u64Max := by decide
  ⟨valid, ⟨one, one⟩, fun _ among number same =>
    absurd same (seed_not_cityId among number)⟩

end Seed

/-! ## The city store -/

/-- A store is created from an accepted configuration, and every run from it
goes well, exactly when the configuration is within the limits of the store. -/
theorem store_created_iff {host : Host} {again : Binary64 → Binary64}
    (short : Catalog.Short host) (rereads : Catalog.Rereads again)
    (knowsHome : host.zones.known homePlace.timezone = true)
    {config : ActivityConfig} (valid : config.validate host.zones = .ok ()) :
    (∃ start file, Catalog.loadOrImport host none config = .ok (start, file) ∧
      file = start.text host ∧ Catalog.RunsWell host again start) ↔
        Importable host config := by
  rw [← valid_seed_iff short knowsHome (configured_of_validate valid)]
  constructor
  · rintro ⟨start, file, loaded, _⟩
    exact loadOrImport_none.mp ⟨start, file, loaded⟩
  · intro accepted
    refine ⟨Catalog.seed host config, (Catalog.seed host config).text host, ?_,
      rfl, Catalog.runsWell short rereads (kept_seed accepted)⟩
    exact bind_eq_ok_iff.mpr ⟨_, rfl, bind_eq_ok_iff.mpr
      ⟨(), Catalog.validate_eq_ok_iff.mpr accepted, rfl⟩⟩

/-! ## A configuration that only one validator accepts -/

def europe : Zones where
  canonical zone := some zone
  known zone := zone == "Europe/Amsterdam"
  locate _ := none
  decides _ _ _ _ := .error (.stop "")

def oneZone : Host where
  zones := europe
  finder _ _ := "Europe/Amsterdam"
  number value :=
    if value = homePlace.latitude then "52.3676".toList
    else if value = homePlace.longitude then "4.9041".toList
    else if value = .ofNat 52 then "52.0".toList
    else "5.0".toList
  decode _ := .error "expected value"

/-- A weather location with a zone that is no IANA name. -/
def utrecht (timezone : String) : ActivityConfig where
  calendarSources := []
  worldClocks := []
  weatherLocations := []
  weather := some ⟨"", "Utrecht", false, .ofNat 52, .ofNat 5, timezone⟩

/-- The configuration accepts the zone, the store refuses the whole import. -/
theorem unknown_zone_disables_store :
    (utrecht "Utrecht").validate oneZone.zones = .ok () ∧
      (∀ start file, Catalog.loadOrImport oneZone none (utrecht "Utrecht") ≠
        .ok (start, file)) ∧
      Catalog.loadOrImport oneZone none (utrecht "Utrecht") =
        .error "invalid place timezone" := by
  have refused : Catalog.loadOrImport oneZone none (utrecht "Utrecht") =
      .error "invalid place timezone" := by
    have cities : (Catalog.seed oneZone (utrecht "Utrecht")).cities =
        [homeCity, weatherCity oneZone
          ⟨"home", "Utrecht", true, .ofNat 52, .ofNat 5, "Utrecht"⟩] := by
      have clocks : importedClocks oneZone (utrecht "Utrecht") = [] := by
        rw [importedClocks, utrecht, List.mergeSort_nil]
        rfl
      rw [seed_cities, clocks]
      decide +kernel
    have checked : (Catalog.seed oneZone (utrecht "Utrecht")).validate europe =
        .error "invalid place timezone" := by
      unfold Catalog.validate
      rw [cities]
      decide +kernel
    have unfolded : Catalog.loadOrImport oneZone none (utrecht "Utrecht") =
        ((Catalog.seed oneZone (utrecht "Utrecht")).validate europe >>=
          fun _ => .ok (Catalog.seed oneZone (utrecht "Utrecht"),
            (Catalog.seed oneZone (utrecht "Utrecht")).text oneZone)) :=
      rfl
    rw [unfolded, checked]
    rfl
  refine ⟨by decide +kernel, fun start file loaded => ?_, refused⟩
  rw [refused] at loaded
  cases loaded

/-- The import, and what a run makes of it by removing and adding its city. -/
def sampleCatalogs : List Catalog :=
  let start := Catalog.seed oneZone (utrecht "Europe/Amsterdam")
  let place : Place :=
    ⟨"Utrecht", "", "", "Europe/Amsterdam", .ofNat 52, .ofNat 5⟩
  let removed := start.step europe (.remove (weatherId "home") start.revision)
  [start, removed, removed.step europe (.add place removed.revision)]

/-- A reader of the files that the sample writes. -/
def readingZone : Host :=
  { oneZone with
    decode := fun text =>
      ((sampleCatalogs.find? fun catalog =>
        catalog.text oneZone == text).map .ok).getD (.error "expected value") }

theorem short_readingZone : Catalog.Short readingZone where
  zone zone known := by
    rw [eq_of_beq known]
    decide
  number value := by
    have small : ∀ text ∈ ["52.3676".toList, "4.9041".toList, "52.0".toList,
        "5.0".toList], width text ≤ 32 := by
      decide
    apply small
    unfold readingZone oneZone
    dsimp only
    split_ifs <;> simp

theorem rereads_id : Catalog.Rereads id where
  number _ number := number
  near _ _ := ⟨Int.le_add_one (Int.le_refl _), Int.le_add_one (Int.le_refl _)⟩
  exact_bounds _ _ := ⟨rfl, rfl⟩
  exact_home := ⟨rfl, rfl⟩

theorem importable_utrecht :
    Importable readingZone (utrecht "Europe/Amsterdam") := by
  have listed : imported readingZone (utrecht "Europe/Amsterdam") =
      [⟨"home", "Utrecht", true, .ofNat 52, .ofNat 5, "Europe/Amsterdam"⟩] := by
    decide +kernel
  have noClocks : clockZones readingZone (utrecht "Europe/Amsterdam") = 0 := rfl
  refine ⟨?_, ?_, ?_, ?_, (fun _ absent => nomatch absent), ?_⟩
  · rw [listed]
    exact List.forall_mem_singleton.mpr (by decide)
  · rw [listed]
    exact List.forall_mem_singleton.mpr ⟨by decide, by decide⟩
  · rw [listed]
    exact List.forall_mem_singleton.mpr (by decide)
  · rw [listed]
    rintro ⟨_, weather, among, named⟩
    rw [List.mem_singleton.mp among] at named
    exact absurd named (by decide)
  · rw [listed, noClocks]
    decide

/-- A store that is created, from which every run goes well. -/
theorem store_created_sample :
    ∃ start file,
      Catalog.loadOrImport readingZone none (utrecht "Europe/Amsterdam") =
        .ok (start, file) ∧ file = start.text readingZone ∧
          Catalog.RunsWell readingZone id start :=
  (store_created_iff short_readingZone rereads_id rfl (by decide +kernel)).mpr
    importable_utrecht

end BarDaemon.Cities
