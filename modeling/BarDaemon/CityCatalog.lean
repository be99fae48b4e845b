import BarDaemon.CharacterLists
import BarDaemon.CompactJsonSizes
import BarDaemon.FallibleSteps
import BarDaemon.LocationAuthority
import BarDaemon.TransitionRuns

/-!
# The saved cities

Cities are imported once from the activity configuration, then kept in a file
of their own. The configuration and the catalog are validated apart.
-/

namespace BarDaemon.Cities

open CompactJson FallibleSteps Locations

/-! ## Configuration -/

structure CalendarSource where
  id : String
  kind : String
  path : String
deriving DecidableEq, Repr

structure WorldClock where
  timezone : String
  label : String
deriving DecidableEq, Repr

/-- `WeatherConfig` -/
structure Weather where
  id : String
  location : String
  home : Bool
  latitude : Binary64
  longitude : Binary64
  timezone : String
deriving DecidableEq, Repr

structure ActivityConfig where
  calendarSources : List CalendarSource
  worldClocks : List WorldClock
  weatherLocations : List Weather
  weather : Option Weather
deriving DecidableEq, Repr

def nonEmpty (value label : String) : Except String Unit :=
  ensure (!(trim value).isEmpty) (label ++ " cannot be empty")

def coordinate (value low high : Binary64) (label range : String) :
    Except String Unit :=
  ensure (value.within low high) ("weather " ++ label ++ " must be between " ++
    range)

namespace ActivityConfig

def configuredWeatherLocations (config : ActivityConfig) : List Weather :=
  if config.weatherLocations.isEmpty then
    config.weather.toList.map fun weather =>
      { weather with
        id := if (trim weather.id).isEmpty then "home" else weather.id
        home := true }
  else config.weatherLocations

def validateCalendarSources : List String → List CalendarSource →
    Except String Unit
  | _, [] => .ok ()
  | ids, source :: sources => do
      nonEmpty source.id "calendar source id"
      ensure (!ids.contains source.id)
        ("duplicate calendar source id " ++ source.id)
      ensure (!source.path.isEmpty)
        ("calendar source " ++ source.id ++ " path cannot be empty")
      nonEmpty source.kind ("calendar source " ++ source.id ++ " kind")
      validateCalendarSources (source.id :: ids) sources

variable (zones : Zones)

def validateWorldClocks : List WorldClock → Except String Unit
  | [] => .ok ()
  | clock :: clocks => do
      ensure (zones.known clock.timezone)
        ("parse world-clock timezone " ++ clock.timezone)
      validateWorldClocks clocks

def validateLocations : List String → List Weather → Except String Unit
  | _, [] => .ok ()
  | ids, weather :: locations => do
      coordinate weather.latitude (Binary64.ofNat 90).opposite (.ofNat 90)
        "latitude" "-90 and 90"
      coordinate weather.longitude (Binary64.ofNat 180).opposite (.ofNat 180)
        "longitude" "-180 and 180"
      nonEmpty weather.id "weather location id"
      ensure (!ids.contains weather.id)
        ("duplicate weather location id " ++ weather.id)
      nonEmpty weather.location "weather location"
      nonEmpty weather.timezone "weather timezone"
      validateLocations (weather.id :: ids) locations

def validateWeather (locations : List Weather) : Except String Unit := do
  validateLocations [] locations
  ensure ((locations.countP (·.home)) ≤ 1)
    "only one weather location can be marked as home"

def validate (config : ActivityConfig) : Except String Unit := do
  validateCalendarSources [] config.calendarSources
  validateWorldClocks zones config.worldClocks
  validateWeather config.configuredWeatherLocations

end ActivityConfig

/-! ## Places -/

def homePlace : Place where
  name := "Amsterdam"
  country := "Netherlands"
  region := "North Holland"
  timezone := "Europe/Amsterdam"
  latitude := .ofBits 0x404A2F0D844D013B
  longitude := .ofBits 0x40139DCC63F14120

/-- `str::eq_ignore_ascii_case` -/
def eqIgnoreAsciiCase (left right : String) : Bool :=
  left.toList.map Char.toLower == right.toList.map Char.toLower

def sameZone (zones : Zones) (left right : String) : Bool :=
  zones.known left && zones.known right &&
    match zones.canonical left, zones.canonical right with
    | some first, some second => first == second
    | _, _ => false

/-- 0.05 -/
def near : Binary64 :=
  .ofBits 0x3FA999999999999A

def samePlace (zones : Zones) (left right : Place) : Bool :=
  eqIgnoreAsciiCase left.name right.name &&
    sameZone zones left.timezone right.timezone &&
    (left.latitude.distance right.latitude).below near &&
    (left.longitude.distance right.longitude).below near

/-! ## Catalog -/

/-- `HOME` -/
def homeId : String :=
  "weather:home"

structure City where
  id : String
  place : Place
  hasCoordinates : Bool
  weather : Bool
deriving DecidableEq, Repr

structure Catalog where
  version : Nat
  revision : Nat
  nextId : Nat
  cities : List City
deriving DecidableEq, Repr

/-- What is not of this repository. -/
structure Host where
  zones : Zones
  /-- The timezone at a longitude and a latitude. -/
  finder : Binary64 → Binary64 → String
  /-- The text of a number in JSON. -/
  number : Binary64 → List Char
  /-- `serde_json::from_slice`, at the catalog. -/
  decode : List Char → Except String Catalog

section Import

variable (host : Host)

def weatherZone (weather : Weather) : String :=
  if weather.timezone = "auto" then
    host.finder weather.longitude weather.latitude
  else weather.timezone

def weatherPlace (weather : Weather) : Place where
  name := weather.location
  country := ""
  region := ""
  timezone := weatherZone host weather
  latitude := weather.latitude
  longitude := weather.longitude

def weatherId (id : String) : String :=
  if id = "home" then "weather:imported-home" else "weather:" ++ id

def weatherCity (weather : Weather) : City where
  id := weatherId weather.id
  place := weatherPlace host weather
  hasCoordinates := true
  weather := true

def homeCity : City where
  id := homeId
  place := homePlace
  hasCoordinates := true
  weather := true

/-- The weather locations that are not at Home. -/
def imported (config : ActivityConfig) : List Weather :=
  config.configuredWeatherLocations.filter fun weather =>
    !samePlace host.zones (weatherPlace host weather) homePlace

def clockName (clock : WorldClock) : String :=
  if clock.label.isEmpty then
    String.ofList (((CharacterLists.split '/' clock.timezone.toList).getLast?.getD
      []).map fun char => if char = '_' then ' ' else char)
  else clock.label

def clockCity (clock : WorldClock) : City where
  id := "clock:" ++ clock.timezone
  place := ⟨clockName clock, "", "", clock.timezone, .ofBits 0, .ofBits 0⟩
  hasCoordinates := false
  weather := false

def clockOrder (first second : WorldClock) : Bool :=
  first.timezone < second.timezone ||
    (first.timezone == second.timezone && first.label ≤ second.label)

/-- The first clock of each zone that is not there yet. -/
def newClocks : List String → List WorldClock → List WorldClock
  | _, [] => []
  | zones, clock :: clocks =>
      if zones.contains clock.timezone then newClocks zones clocks
      else clock :: newClocks (clock.timezone :: zones) clocks

def Catalog.seed (config : ActivityConfig) : Catalog :=
  let cities := homeCity :: (imported host config).map (weatherCity host)
  let clocks := newClocks (cities.map (·.place.timezone))
    (config.worldClocks.mergeSort clockOrder)
  { version := 1
    revision := 1
    nextId := 1
    cities := cities ++ clocks.map clockCity }

end Import

namespace Catalog

def maxCities : Nat := 32

section Validation

variable (zones : Zones)

def checkCities : List String → List City → Except String Unit
  | _, [] => .ok ()
  | ids, city :: cities => do
      city.place.validate zones
      ensure (byteLength city.id ≤ 240 && city.id != "current-location" &&
        !ids.contains city.id) "invalid city identity"
      checkCities (city.id :: ids) cities

def checkHome (cities : List City) : Except String Unit :=
  match cities.find? (·.id == homeId) with
  | none => .error "Home missing"
  | some home =>
      ensure (home.place.same homePlace && home.weather && home.hasCoordinates)
        "Amsterdam Home is protected"

def validate (catalog : Catalog) : Except String Unit := do
  ensure (catalog.version == 1 && 0 < catalog.revision && 0 < catalog.nextId &&
    catalog.cities.length ≤ maxCities) "unsupported or oversized city store"
  checkCities zones [] catalog.cities
  checkHome catalog.cities

def exhausted (message : String) : Option Nat → Except String Nat
  | some number => .ok number
  | none => .error message

def cityId (number : Nat) : String :=
  "city:" ++ String.ofList (Nat.toDigits 10 number)

def add (catalog : Catalog) (place : Place) (revision : Nat) :
    Except String (Catalog × String) := do
  ensure (revision == catalog.revision)
    "City list changed; refresh before saving"
  place.validate zones
  match catalog.cities.find? fun city =>
      city.hasCoordinates && samePlace zones city.place place with
  | some existing => return (catalog, existing.id)
  | none => do
      ensure (catalog.cities.length < maxCities)
        "At most 32 saved cities (including Home) are supported"
      let id := cityId catalog.nextId
      let nextId ← exhausted "city ID exhausted" (checkedAdd catalog.nextId 1)
      let revision ← exhausted "city revision exhausted"
        (checkedAdd catalog.revision 1)
      let next := { catalog with
        nextId := nextId
        revision := revision
        cities := catalog.cities ++ [⟨id, place, true, true⟩] }
      next.validate zones
      return (next, id)

def remove (catalog : Catalog) (id : String) (revision : Nat) :
    Except String Catalog := do
  ensure (id != homeId && id != "current-location")
    "Home and Current location cannot be removed"
  ensure (revision == catalog.revision)
    "City list changed; refresh before removing"
  ensure (catalog.cities.any (·.id == id)) "City no longer exists"
  let revision ← exhausted "city revision exhausted"
    (checkedAdd catalog.revision 1)
  let next := { catalog with
    cities := catalog.cities.filter (·.id != id)
    revision := revision }
  next.validate zones
  return next

end Validation

/-! ## File -/

section Files

variable (host : Host)

def cityText (city : City) : List Char :=
  "    \x7b\n      \"id\": ".toList ++ Json.quoted city.id ++
    ",\n      \"place\": \x7b\n        \"name\": ".toList ++
    Json.quoted city.place.name ++ ",\n        \"country\": ".toList ++
    Json.quoted city.place.country ++ ",\n        \"region\": ".toList ++
    Json.quoted city.place.region ++ ",\n        \"timezone\": ".toList ++
    Json.quoted city.place.timezone ++ ",\n        \"latitude\": ".toList ++
    host.number city.place.latitude ++ ",\n        \"longitude\": ".toList ++
    host.number city.place.longitude ++
    "\n      \x7d,\n      \"has_coordinates\": ".toList ++
    (Json.bool city.hasCoordinates).chars ++ ",\n      \"weather\": ".toList ++
    (Json.bool city.weather).chars ++ "\n    \x7d".toList

def citiesText : List City → List Char
  | [] => []
  | [city] => cityText host city
  | city :: cities =>
      cityText host city ++ ",\n".toList ++ citiesText cities

/-- `to_vec_pretty`, of a catalog that has cities. -/
def text (catalog : Catalog) : List Char :=
  "\x7b\n  \"version\": ".toList ++ Nat.toDigits 10 catalog.version ++
    ",\n  \"revision\": ".toList ++ Nat.toDigits 10 catalog.revision ++
    ",\n  \"next_id\": ".toList ++ Nat.toDigits 10 catalog.nextId ++
    ",\n  \"cities\": [\n".toList ++ citiesText host catalog.cities ++
    "\n  ]\n\x7d".toList

/-- What the file holds, or else what is imported. -/
def stored (file : Option (List Char)) (config : ActivityConfig) :
    Except String Catalog :=
  match file with
  | some bytes => do
      ensure (width bytes ≤ 256 * 1024) "city store exceeds its bound"
      host.decode bytes
  | none => .ok (seed host config)

/-- The catalog that is loaded, and what the file holds then. -/
def loadOrImport (file : Option (List Char)) (config : ActivityConfig) :
    Except String (Catalog × List Char) := do
  let value ← stored host file config
  value.validate host.zones
  return (value, file.getD (value.text host))

end Files

/-! ## Runs -/

inductive Action
  | add (place : Place) (revision : Nat)
  | remove (id : String) (revision : Nat)
deriving DecidableEq, Repr

variable (zones : Zones)

def act (catalog : Catalog) : Action → Except String Catalog
  | .add place revision => (catalog.add zones place revision).map Prod.fst
  | .remove id revision => catalog.remove zones id revision

/-- A call that is refused leaves the catalog as it was. -/
def step (catalog : Catalog) (action : Action) : Catalog :=
  match catalog.act zones action with
  | .ok next => next
  | .error _ => catalog

end Catalog

end BarDaemon.Cities
