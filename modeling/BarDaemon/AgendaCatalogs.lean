import BarDaemon.AgendaRecords
import BarDaemon.NaiveDates
import Mathlib.Data.List.SplitOn

/-!
# The agenda catalog

The records in their order, which days they belong to, and the pages and day
markers that are read from them.
-/

namespace BarDaemon.Agendas

open CompactJson FallibleSteps NaiveDate

/-! ## Projection -/

/-- What is known of the time zone. -/
structure Zone where
  /-- `from_local_datetime(..).earliest()`, for a second of a day. -/
  earliest : NaiveDate → Nat → Option I64
  /-- `timestamp_millis_opt(..).single()`, its date. -/
  localDate : I64 → Option NaiveDate

structure Projection where
  today : NaiveDate
  zone : Zone

inductive Membership
  | civil (first last : NaiveDate)
  | timed (start stop : I64)
  | instant (start : I64)
deriving DecidableEq, Repr

/-- Whether a day is among those of a membership, with its bounds. -/
def Membership.includes (day : NaiveDate) (bounds : Option (I64 × I64)) :
    Membership → Bool
  | .civil first last => !day.before first && !last.before day
  | .timed start stop => bounds.any fun (first, last) =>
      first.val < last.val && start.val < stop.val && start.val < last.val &&
        first.val < stop.val
  | .instant start => bounds.any fun (first, last) =>
      first.val ≤ start.val && start.val < last.val

namespace Projection

variable (p : Projection)

/-- The first instant of a day, or of one of the two days after it. -/
def midnight (day : NaiveDate) : Option I64 :=
  (List.range 3).findSome? fun offset =>
    (day.addDays? offset).bind fun day =>
      (List.range 86400).findSome? (p.zone.earliest day)

def bounds (day : NaiveDate) : Option (I64 × I64) :=
  match p.midnight day, day.succ?.bind p.midnight with
  | some first, some last => some (first, last)
  | _, _ => none

def storedDates (schedule : Schedule) : Option NaiveDate × Option NaiveDate :=
  match schedule.mode with
  | .date => (schedule.startDate.bind fun text => (date text).toOption,
      schedule.endDate.bind fun text => (date text).toOption)
  | .timed => (schedule.startUnixMs.bind p.zone.localDate,
      schedule.endUnixMs.bind p.zone.localDate)

def civilRange (startDate endDate : Option NaiveDate) :
    Option (NaiveDate × NaiveDate) :=
  match startDate, endDate with
  | some first, some last =>
      if !last.before first then some (first, last) else none
  | none, some last =>
      if !last.before p.today then some (p.today, last) else none
  | some first, none =>
      if !p.today.before first then some (first, p.today) else none
  | none, none => none

def timedRange (schedule : Schedule) (startDate endDate : Option NaiveDate) :
    Option (I64 × I64) :=
  match schedule.startUnixMs, schedule.endUnixMs with
  | some start, some stop =>
      if start.val ≤ stop.val then some (start, stop) else none
  | none, some stop =>
      if endDate.any fun day => !day.before p.today then
        (p.midnight p.today).map fun start => (start, stop)
      else none
  | some start, none =>
      if startDate.any fun day => !p.today.before day then
        ((p.today.addDays? 1).bind p.midnight).map fun stop => (start, stop)
      else none
  | none, none => none

def membership (schedule : Schedule) : Option Membership :=
  let (startDate, endDate) := p.storedDates schedule
  match schedule.mode with
  | .date => (p.civilRange startDate endDate).map fun (first, last) =>
      .civil first last
  | .timed =>
      match p.timedRange schedule startDate endDate with
      | none => none
      | some (start, stop) =>
          if start = stop ∧ schedule.startUnixMs.isSome ∧
              schedule.endUnixMs.isSome then
            some (.instant start)
          else if start.val < stop.val then some (.timed start stop)
          else none

def includes (schedule : Schedule) (day : NaiveDate) : Bool :=
  (p.membership schedule).any (·.includes day (p.bounds day))

end Projection

/-! ## Catalog -/

/-- `i64::saturating_neg` -/
def saturatingNeg (value : Int) : Int :=
  min (-value) i64Max

/-- The place of an item in the catalog, before its identifier. -/
def order (p : Projection) (item : Record) : Nat × Int :=
  let (start, stop) := p.storedDates item.schedule
  let (startKey, endKey) :=
    match item.schedule.mode with
    | .date => (start.bind p.midnight,
        (stop.bind NaiveDate.succ?).bind p.midnight)
    | .timed => (item.schedule.startUnixMs, item.schedule.endUnixMs)
  if p.includes item.schedule p.today then
    (0, ((startKey.or (p.midnight p.today)).map Subtype.val).getD 0)
  else
    match start.or stop with
    | some day =>
        if p.today.before day then
          (1, ((startKey.or endKey).map Subtype.val).getD 0)
        else (2, saturatingNeg
          (((endKey.or startKey).map Subtype.val).getD 0))
    | none => (3, 0)

/-- `str::to_lowercase` is a parameter. -/
def searchText (lowercase : String → String) (item : Record) : String :=
  let event := match item.event with
    | some event => " " ++ event.location ++ " " ++ " ".intercalate event.people ++
        " " ++ event.status
    | none => ""
  let steps := match item.task with
    | some task => String.join (task.checklist.map fun step => " " ++ step.text)
    | none => ""
  let links := String.join
    (item.links.map fun link => " " ++ link.label ++ " " ++ link.url)
  lowercase (item.title ++ " " ++ item.notes ++ event ++ steps ++ links)

structure Catalog where
  items : List Record
  search : List String
  membership : List (Option Membership)

/-- `Catalog::new`; both sorts are stable. -/
def Catalog.new (lowercase : String → String) (items : List Record)
    (p : Projection) : Catalog :=
  let items := (items.mergeSort fun first second =>
    decide (first.id ≤ second.id)).mergeSort fun first second =>
      let left := order p first
      let right := order p second
      left.1 < right.1 || (left.1 == right.1 && left.2 ≤ right.2)
  { items
    search := items.map (searchText lowercase)
    membership := items.map fun item => p.membership item.schedule }

def Catalog.onDay (catalog : Catalog) (day : NaiveDate)
    (bounds : Option (I64 × I64)) : List Record :=
  ((catalog.items.zip catalog.membership).filter fun (_, membership) =>
    membership.any (·.includes day bounds)).map Prod.fst

/-! ## Lists -/

structure SourceDiagnostics where
  failingSourceCount : Nat
  sourceError : Option String
deriving DecidableEq, Repr

structure ListRequest where
  query : String
  day : Option String
  cursor : Option String
  limit : Option Nat
deriving DecidableEq, Repr

structure ListResult where
  diagnostics : SourceDiagnostics
  items : List Summary
  nextCursor : Option String
  catalogRevision : U64
  today : String
  timezone : String
deriving DecidableEq, Repr

/-- What a cursor belongs to. -/
structure Fence where
  query : String
  day : Option String
  today : String
  timezone : String
  revision : U64
  imports : String
deriving DecidableEq, Repr

structure Cursor where
  fence : Fence
  offset : Nat
deriving DecidableEq, Repr

def Fence.toJson (fence : Fence) : Json :=
  .obj [("query", .str fence.query), ("day", optionalText fence.day),
    ("today", .str fence.today), ("timezone", .str fence.timezone),
    ("revision", .nat fence.revision), ("imports", .str fence.imports)]

def Cursor.toJson (cursor : Cursor) : Json :=
  .obj [("fence", cursor.fence.toJson), ("offset", .nat cursor.offset)]

/-- The parts of a text between blanks. -/
def splitWhitespace (text : String) : List (List Char) :=
  (text.toList.splitOnP isWhitespace).filter (!·.isEmpty)

/-- A text contains every word of a query. -/
def searched (query text : String) : Bool :=
  (splitWhitespace query).all fun token => contains text (String.ofList token)

def pageBudget : Nat :=
  2 * 1024 * 1024 - 128 * 1024

/-- The summaries that fit a page after some bytes. -/
def takeFitting : Nat → List Record → List Summary
  | _, [] => []
  | bytes, item :: items =>
      let summary := Summary.ofRecord item
      let length := summary.toJson.size + 1
      if pageBudget < bytes + length then []
      else summary :: takeFitting (bytes + length) items

def dayOf : Option String → Except String (Option NaiveDate)
  | none => .ok none
  | some text => (date text).map some

section Lists

variable (lowercase : String → String)
  (readCursor : String → Except String Cursor)

def offsetOf (fence : Fence) : Option String → Except String Nat
  | none => .ok 0
  | some text => do
      ensure (byteLength text ≤ 65536) "cursor too long"
      let cursor ← readCursor text
      ensure (cursor.fence = fence) "stale agenda cursor; restart query"
      return cursor.offset

def Catalog.candidates (catalog : Catalog) (query : String)
    (day : Option NaiveDate) (bounds : Option (I64 × I64)) : List Record :=
  (((catalog.items.zip catalog.search).zip catalog.membership).filter
    fun ((_, text), membership) =>
      (day.all fun day => membership.any (·.includes day bounds)) &&
        searched query text).map fun entry => entry.1.1

def list (catalog : Catalog) (revision : U64) (imports : String)
    (p : Projection) (timezone : String) (request : ListRequest) :
    Except String ListResult := do
  ensure (byteLength request.query ≤ 4096) "query too long"
  let limit := request.limit.getD 100
  ensure (1 ≤ limit && limit ≤ 100) "limit must be 1..100"
  let day ← dayOf request.day
  let query := lowercase (trim request.query)
  let fence : Fence :=
    ⟨query, request.day, p.today.text, timezone, revision, imports⟩
  let offset ← offsetOf readCursor fence request.cursor
  let candidates := catalog.candidates query day (day.bind p.bounds)
  ensure (offset ≤ candidates.length) "invalid cursor offset"
  let summaries := takeFitting 0 ((candidates.drop offset).take limit)
  let stop := offset + summaries.length
  ensure (offset < stop || offset == candidates.length)
    "agenda summary exceeds transport budget"
  return {
    diagnostics := ⟨0, none⟩
    items := summaries
    nextCursor :=
      if stop < candidates.length then
        some (Cursor.mk fence stop).toJson.render
      else none
    catalogRevision := revision
    today := p.today.text
    timezone }

end Lists

/-! ## Markers -/

structure MarkersRequest where
  fromDate : String
  toDate : String
deriving DecidableEq, Repr

structure Marker where
  date : String
  event : Bool
  task : Bool
deriving DecidableEq, Repr

structure MarkersResult where
  diagnostics : SourceDiagnostics
  days : List Marker
  catalogRevision : U64
  today : String
  timezone : String
deriving DecidableEq, Repr

/-- Mark the kinds of some items, until both are marked. -/
def mark : Marker → List Record → Marker
  | marker, [] => marker
  | marker, item :: items =>
      let marker := match item.kind with
        | .event => { marker with event := true }
        | .task => { marker with task := true }
      if marker.event && marker.task then marker else mark marker items

/-- Days in a row. -/
def daysFrom : Nat → NaiveDate → List NaiveDate
  | 0, _ => []
  | count + 1, day =>
      day :: match day.succ? with
        | some next => daysFrom count next
        | none => []

def markers (catalog : Catalog) (revision : U64) (p : Projection)
    (timezone : String) (request : MarkersRequest) :
    Except String MarkersResult := do
  let first ← date request.fromDate
  let last ← date request.toDate
  let length := last.dayNumber - first.dayNumber + 1
  ensure (1 ≤ length && length ≤ 370)
    "marker range must be 1..370 inclusive days"
  return {
    diagnostics := ⟨0, none⟩
    days := (daysFrom length.toNat first).map fun day =>
      mark ⟨day.text, false, false⟩ (catalog.onDay day (p.bounds day))
    catalogRevision := revision
    today := p.today.text
    timezone }

end BarDaemon.Agendas
