import BarDaemon.CharacterLists
import BarDaemon.CompactJson
import BarDaemon.FallibleSteps
import BarDaemon.MachineIntegers
import BarDaemon.NaiveDates
import BarDaemon.UnicodeText

/-!
# The history of update runs

The retained runs are searched by words and by local days, and shown in pages
whose cursors are fenced by a hash.
-/

namespace BarDaemon.UpdateHistory

open CompactJson FallibleSteps CharacterLists

/-- What is not of this repository. -/
structure Host where
  /-- `str::to_lowercase` -/
  lowercase : String → String
  /-- `NaiveDate::parse_from_str`, for `%Y-%m-%d` -/
  readDate : String → Option NaiveDate
  validRunId : String → Bool
  /-- The text of a value that is formatted as `{:?}`. -/
  debug : String → String

/-- `DateTime<Local>`, with the dates of its time zone. -/
structure Moment where
  today : NaiveDate
  /-- The local date of some seconds since the epoch, where there is one. -/
  dateOf : Nat → Option NaiveDate

/-! ## Search -/

inductive Day
  | on (date : NaiveDate)
  | since (date : NaiveDate)
  | before (date : NaiveDate)
deriving DecidableEq, Repr

/-- Ten bytes that begin with four digits and have two hyphens. -/
def isIso (value : String) : Bool :=
  let bytes := value.toUTF8.data.toList
  byteLength value == 10 &&
    (bytes.take 4).all (fun byte => 48 ≤ byte && byte ≤ 57) &&
    bytes[4]? == some 45 && bytes[7]? == some 45

namespace Day

variable (host : Host)

def dateOf (value : String) (today : NaiveDate) : Except String NaiveDate :=
  if value = "today" then .ok today
  else if value = "yesterday" then
    match today.pred? with
    | some day => .ok day
    | none => .error "Yesterday is outside the supported calendar"
  else if isIso value then
    match host.readDate value with
    | some day => .ok day
    | none => .error
        ("Invalid history date " ++ host.debug value ++ "; use YYYY-MM-DD")
  else .error "Use YYYY-MM-DD, today or yesterday for date searches"

/-- The day that a word asks for, when it asks for one. -/
def parse (word : String) (today : NaiveDate) : Except String (Option Day) :=
  let (kind, value) :=
    match splitOnce ':' word.toList with
    | some (kind, value) => (String.ofList kind, String.ofList value)
    | none => ("", word)
  let bareDate := kind == "" &&
    (["today", "yesterday"].contains value || isIso value)
  if !bareDate && !(["on", "since", "before"].contains kind) then .ok none
  else do
    let date ← dateOf host value today
    return some (if kind = "since" then .since date
      else if kind = "before" then .before date else .on date)

def matchesDate (date : NaiveDate) : Day → Bool
  | .on day => date = day
  | .since day => !date.before day
  | .before day => date.before day

end Day

structure Search where
  words : List String
  days : List Day
deriving DecidableEq, Repr

/-- `str::split_whitespace` -/
def splitWhitespace (text : String) : List String :=
  ((text.toList.splitOnP isWhitespace).filter (!·.isEmpty)).map String.ofList

namespace Search

def ofWords (host : Host) (today : NaiveDate) :
    List String → Except String Search
  | [] => .ok ⟨[], []⟩
  | word :: words => do
      let day ← Day.parse host word today
      let search ← ofWords host today words
      return match day with
        | some day => { search with days := day :: search.days }
        | none => { search with words := word :: search.words }

def parse (host : Host) (text : String) (today : NaiveDate) :
    Except String Search :=
  ofWords host today (splitWhitespace (host.lowercase text))

variable (search : Search)

/-- Every day that is asked for is that of a start. -/
def onDays (moment : Moment) (startedAt : Nat) : Bool :=
  search.days.isEmpty || (moment.dateOf startedAt).any fun date =>
    search.days.all (·.matchesDate date)

def inText (text : String) : Bool :=
  search.words.all (contains text)

/-- `matches_with` -/
def matchesWith (moment : Moment) (startedAt : Nat) (text : String) : Bool :=
  search.onDays moment startedAt && search.inText text

end Search

/-! ## Entries -/

structure RunIssue where
  component : Option Nat
  failedAt : Nat
  recoveredAt : Option Nat
  recoveredRunId : Option String
deriving DecidableEq, Repr

def RunIssue.toJson (issue : RunIssue) : Json :=
  .obj [("component", .ofOption .nat issue.component),
    ("failed_at", .nat issue.failedAt),
    ("recovered_at", .ofOption .nat issue.recoveredAt),
    ("recovered_run_id", .ofOption .str issue.recoveredRunId)]

/-- What is read of a `RunRecord`. -/
structure RecordView (Record : Type) where
  id : Record → String
  lane : Record → String
  operation : Record → String
  error : Record → Option String
  startedAt : Record → Nat
  /-- The text of its components. -/
  components : Record → String
  /-- Its members, which are those of an entry too. -/
  members : Record → List (String × Json)

structure Entry (Record : Type) where
  record : Record
  outcome : String
  title : String
  failedStage : Option String
  deployed : Option Bool
  issues : List RunIssue

structure Catalog (Record : Type) where
  entries : List (Entry Record)
  available : Bool
  errors : List String

structure Query where
  query : String
  cursor : Option String
  runId : Option String
  limit : Option Nat
  lane : Option String
  outcome : Option String
  anchorIds : List String
deriving DecidableEq, Repr

section Records

variable {Record : Type} (host : Host) (view : RecordView Record)

namespace Entry

def isProblem (entry : Entry Record) : Bool :=
  ["failed", "partial", "blocked", "interrupted"].contains entry.outcome

def id (entry : Entry Record) : String :=
  view.id entry.record

def toJson (entry : Entry Record) : Json :=
  .obj (view.members entry.record ++
    [("outcome", .str entry.outcome), ("title", .str entry.title),
      ("failed_stage", .ofOption .str entry.failedStage),
      ("deployed", .ofOption .bool entry.deployed),
      ("issues", .arr (entry.issues.map RunIssue.toJson))])

/-- The text that words are looked for in. -/
def searchText (entry : Entry Record) : String :=
  host.lowercase (" ".intercalate [entry.outcome, entry.title,
    view.lane entry.record, view.operation entry.record,
    view.id entry.record, (view.error entry.record).getD "",
    view.components entry.record])

end Entry

/-! ## Queries -/

namespace Query

variable (query : Query)

def outcomes : List String :=
  ["problems", "running", "failed", "partial", "blocked", "interrupted",
    "activated", "staged", "ready", "queued", "current", "available",
    "skipped", "approved", "completed"]

def validate : Except String Nat := do
  let limit := query.limit.getD 50
  ensure (byteLength query.query ≤ 512 && 1 ≤ limit && limit ≤ 100)
    "Invalid update history query"
  ensure (query.runId.all host.validRunId) "Invalid run identity"
  ensure (query.lane.all ["system", "ai-tools", "ai-tools-stale"].contains)
    "Invalid history lane filter"
  ensure (query.outcome.all outcomes.contains) "Invalid history outcome filter"
  ensure (query.anchorIds.length ≤ 2 && query.anchorIds.all host.validRunId)
    "Invalid history anchors"
  return limit

/-- The filters besides the days. -/
def passes (search : Search) (entry : Entry Record) : Bool :=
  query.lane.all (· == view.lane entry.record) &&
    query.outcome.all (fun outcome =>
      if outcome = "problems" then entry.isProblem
      else outcome == entry.outcome) &&
    search.inText (entry.searchText host view)

/-- `matches`: a selected run overrides the filters. -/
def matchesEntry (search : Search) (moment : Moment) (entry : Entry Record) :
    Bool :=
  match query.runId with
  | some id => view.id entry.record == id
  | none =>
      query.lane.all (· == view.lane entry.record) &&
        query.outcome.all (fun outcome =>
          if outcome = "problems" then entry.isProblem
          else outcome == entry.outcome) &&
        search.matchesWith moment (view.startedAt entry.record)
          (entry.searchText host view)

def staleCursor : String :=
  "Update history changed; refresh before continuing"

/-- The digits of a number after those before it. -/
def parseDigits : Nat → List Char → Except String Nat
  | value, [] => .ok value
  | value, char :: chars =>
      if !char.isDigit then .error "invalid digit found in string"
      else if u64Max < 10 * value + (char.toNat - '0'.toNat) then
        .error "number too large to fit in target type"
      else parseDigits (10 * value + (char.toNat - '0'.toNat)) chars

/-- `parse::<usize>` -/
def parseUsize (text : List Char) : Except String Nat :=
  match text with
  | [] => .error "cannot parse integer from empty string"
  | ['+'] => .error "invalid digit found in string"
  | '+' :: digits => parseDigits 0 digits
  | digits => parseDigits 0 digits

def offset (revision : String) : Except String Nat :=
  match query.cursor with
  | none => .ok 0
  | some cursor => do
      ensure (byteLength cursor < 100) "Invalid history cursor"
      match splitOnce ':' cursor.toList with
      | none => .error "Invalid history cursor"
      | some (rev, offset) => do
          ensure (String.ofList rev == revision) staleCursor
          parseUsize offset

end Query

/-! ## Pages -/

/-- What is hashed. -/
structure Fence where
  entries : Json
  query : String
  runId : Option String
  lane : Option String
  outcome : Option String
  anchorIds : List String
  search : Search

/-- `{:x}` in so many digits. -/
def hexText : Nat → Nat → List Char
  | 0, _ => []
  | width + 1, number =>
      hexText width (number / 16) ++ [Json.hexDigit (number % 16)]

structure PreparedQuery where
  query : Query
  search : Search
  limit : Nat
  now : Moment

def Query.prepare (query : Query) (now : Moment) :
    Except String PreparedQuery := do
  let limit ← query.validate host
  let search ← Search.parse host query.query now.today
  return ⟨query, search, limit, now⟩

/-- The end of a page, after the entries and bytes that are on it. -/
def grow (offset : Nat) : Nat → Nat → List (Entry Record) → Nat
  | stop, _, [] => stop
  | stop, bytes, entry :: entries =>
      let size := (entry.toJson view).size
      if offset < stop && 128 * 1024 < bytes + size then stop
      else grow offset (stop + 1) (bytes + size) entries

/-- The first entry is always on the page. -/
def pageEnd (entries : List (Entry Record)) (offset limit : Nat) :
    Except String Nat := do
  ensure (offset ≤ entries.length) "Invalid history offset"
  return grow view offset offset 0 ((entries.drop offset).take limit)

structure Page (Record : Type) where
  available : Bool
  revision : String
  total : Nat
  retainThrough : Nat
  entries : List (Entry Record)
  cursor : Option String
  error : Option String

namespace PreparedQuery

variable (digest : Fence → U64) (prepared : PreparedQuery)
  (catalog : Catalog Record)

def fence : Fence where
  entries := .arr (catalog.entries.map (·.toJson view))
  query := prepared.query.query
  runId := prepared.query.runId
  lane := prepared.query.lane
  outcome := prepared.query.outcome
  anchorIds := prepared.query.anchorIds
  search := prepared.search

def revision : String :=
  String.ofList (hexText 16 (digest (prepared.fence view catalog)).val)

def matching : List (Entry Record) :=
  catalog.entries.filter
    (prepared.query.matchesEntry host view prepared.search prepared.now)

def retainThrough (entries : List (Entry Record)) : Nat :=
  ((entries.zipIdx.filter fun (entry, _) =>
      prepared.query.anchorIds.contains (entry.id view)).map
        fun (_, index) => index + 1).max?.getD 0

def page : Except String (Page Record) := do
  let revision := prepared.revision view digest catalog
  let offset ← prepared.query.offset revision
  let matching := prepared.matching host view catalog
  let stop ← pageEnd view matching offset prepared.limit
  return {
    available := catalog.available
    revision := revision
    total := matching.length
    retainThrough := prepared.retainThrough view matching
    entries := (matching.drop offset).take (stop - offset)
    cursor := if stop < matching.length then
        some (revision ++ ":" ++ String.ofList (Nat.toDigits 10 stop))
      else none
    error := if catalog.errors.isEmpty then none
      else some ("\n".intercalate catalog.errors) }

end PreparedQuery

/-- `page_at`: a request at a moment. -/
def request (digest : Fence → U64) (query : Query) (now : Moment)
    (catalog : Catalog Record) : Except String (Page Record) := do
  let prepared ← query.prepare host now
  prepared.page host view digest catalog

/-- The pages of a query from one of its cursors on, when so many requests are
enough. -/
def follow (digest : Fence → U64) (query : Query) (catalog : Catalog Record)
    (moments : Nat → Moment) :
    Nat → Nat → Option String → Except String (Option (List (Page Record)))
  | 0, _, _ => .ok none
  | requests + 1, asked, cursor => do
      let page ← request host view digest { query with cursor } (moments asked)
        catalog
      match page.cursor with
      | none => return some [page]
      | some cursor => do
          let rest ← follow digest query catalog moments requests (asked + 1)
            (some cursor)
          return rest.map (page :: ·)

end Records

end BarDaemon.UpdateHistory
