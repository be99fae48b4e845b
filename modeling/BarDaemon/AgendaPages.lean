import BarDaemon.AgendaCursors
import BarDaemon.NaiveDateSuccession

/-!
# Pages of the agenda

The pages of a query show every record that it wants once, and the markers of a
day are those of its unfiltered pages.
-/

namespace BarDaemon.Agendas

open CompactJson FallibleSteps NaiveDate

/-! ## Candidates -/

theorem zip_map {Item Value : Type} (items : List Item) (value : Item → Value)
    (keeps : Item × Value → Bool) :
    ((items.zip (items.map value)).filter keeps).map Prod.fst =
      items.filter fun item => keeps (item, value item) := by
  induction items with
  | nil => rfl
  | cons item items ih =>
      simp only [List.map_cons, List.zip_cons_cons, List.filter_cons]
      split
      · rw [List.map_cons, ih]
      · exact ih

theorem zip_maps {Item First Second : Type} (items : List Item)
    (first : Item → First) (second : Item → Second)
    (keeps : (Item × First) × Second → Bool) :
    (((items.zip (items.map first)).zip (items.map second)).filter keeps).map
        (fun entry => entry.1.1) =
      items.filter fun item => keeps ((item, first item), second item) := by
  induction items with
  | nil => rfl
  | cons item items ih =>
      simp only [List.map_cons, List.zip_cons_cons, List.filter_cons]
      split
      · rw [List.map_cons, ih]
      · exact ih

section Wanted

variable (lowercase : String → String) (built p : Projection)

/-- A record is of a day, as its catalog was projected. -/
def includesDay (day : NaiveDate) (item : Record) : Bool :=
  (built.membership item.schedule).any (·.includes day (p.bounds day))

/-- A record that a query for a day asks for. -/
def wanted (query : String) (day : Option NaiveDate) (item : Record) : Bool :=
  (day.all fun day => includesDay built p day item) &&
    searched query (searchText lowercase item)

/-- The texts and the memberships are those of the items. -/
structure Catalog.Built (catalog : Catalog) : Prop where
  search : catalog.search = catalog.items.map (searchText lowercase)
  membership : catalog.membership =
    catalog.items.map fun item => built.membership item.schedule

theorem Catalog.new_built (items : List Record) :
    (Catalog.new lowercase items built).Built lowercase built :=
  ⟨rfl, rfl⟩

theorem Catalog.new_perm (items : List Record) :
    (Catalog.new lowercase items built).items.Perm items :=
  (List.mergeSort_perm _ _).trans (List.mergeSort_perm _ _)

variable {lowercase built}

theorem Catalog.Built.candidates_eq {catalog : Catalog}
    (made : catalog.Built lowercase built) (query : String)
    (day : Option NaiveDate) :
    catalog.candidates query day (day.bind p.bounds) =
      catalog.items.filter (wanted lowercase built p query day) := by
  rw [Catalog.candidates, made.search, made.membership, zip_maps]
  apply List.filter_congr
  intro item _
  rw [wanted]
  dsimp only
  cases day with
  | none => rw [Option.all_none, Option.all_none]
  | some day =>
      rw [Option.all_some, Option.all_some, Option.bind_some, includesDay]

theorem Catalog.Built.onDay_eq {catalog : Catalog}
    (made : catalog.Built lowercase built) (day : NaiveDate) :
    catalog.onDay day (p.bounds day) =
      catalog.items.filter (includesDay built p day) := by
  rw [Catalog.onDay, made.membership, zip_map]
  rfl

end Wanted

/-! ## Pages -/

theorem takeFitting_eq_take (bytes : Nat) (items : List Record) :
    ∃ count ≤ items.length,
      takeFitting bytes items = (items.take count).map Summary.ofRecord := by
  induction items generalizing bytes with
  | nil => exact ⟨0, Nat.le_refl 0, rfl⟩
  | cons item items ih =>
      rw [takeFitting]
      split
      · exact ⟨0, Nat.zero_le _, rfl⟩
      · obtain ⟨count, short, taken⟩ :=
          ih (bytes + ((Summary.ofRecord item).toJson.size + 1))
        refine ⟨count + 1, Nat.succ_le_succ short, ?_⟩
        rw [taken]
        rfl

/-- The first of some accepted records fits its page. -/
theorem takeFitting_ne_nil {calendar : Calendar} {items : List Record}
    (accepted : ∀ item ∈ items, item.Accepted calendar) (more : items ≠ []) :
    takeFitting 0 items ≠ [] := by
  cases items with
  | nil => exact absurd rfl more
  | cons item items =>
      have small := (accepted item List.mem_cons_self).small.size_summary_le
      have budget : pageBudget = 1966080 := rfl
      rw [takeFitting]
      rw [if_neg (by omega)]
      exact List.cons_ne_nil _ _

/-- What a list checks of a request. -/
structure ListRequest.Valid (request : ListRequest) (day : Option NaiveDate) :
    Prop where
  query : byteLength request.query ≤ 4096
  limit : 1 ≤ request.limit.getD 100 ∧ request.limit.getD 100 ≤ 100
  day : dayOf request.day = .ok day

section Pages

variable (lowercase : String → String)
  (readCursor : String → Except String Cursor) (catalog : Catalog)
  (revision : U64) (imports : String) (p : Projection) (timezone : String)

def fenceOf (request : ListRequest) : Fence :=
  ⟨lowercase (trim request.query), request.day, p.today.text, timezone,
    revision, imports⟩

/-- The summaries of the pages from a request on, by their next cursors. -/
inductive Pages : ListRequest → List Summary → Prop
  | last {request result} :
      list lowercase readCursor catalog revision imports p timezone request =
        .ok result →
      result.nextCursor = none → Pages request result.items
  | next {request result cursor later} :
      list lowercase readCursor catalog revision imports p timezone request =
        .ok result →
      result.nextCursor = some cursor →
      Pages { request with cursor := some cursor } later →
      Pages request (result.items ++ later)

end Pages

section Walks

variable {lowercase : String → String}
  {readCursor : String → Except String Cursor} {calendar : Calendar}
  {catalog : Catalog} {built p : Projection} {revision : U64}
  {imports timezone : String} {request : ListRequest} {day : Option NaiveDate}

/-- The records that the pages of a request show. -/
def Shows (lowercase : String → String) (built p : Projection)
    (catalog : Catalog) (request : ListRequest) (day : Option NaiveDate) :
    List Record :=
  catalog.items.filter
    (wanted lowercase built p (lowercase (trim request.query)) day)

/-- A page from an offset on. -/
def pageFrom (lowercase : String → String) (revision : U64) (imports : String)
    (p : Projection) (timezone : String) (request : ListRequest)
    (records : List Record) (offset : Nat) : ListResult :=
  let summaries :=
    takeFitting 0 ((records.drop offset).take (request.limit.getD 100))
  { diagnostics := ⟨0, none⟩
    items := summaries
    nextCursor :=
      if offset + summaries.length < records.length then
        some (Cursor.mk (fenceOf lowercase revision imports p timezone request)
          (offset + summaries.length)).toJson.render
      else none
    catalogRevision := revision
    today := p.today.text
    timezone }

/-- What a page shows of some records, from an offset on. -/
structure Page (lowercase : String → String) (revision : U64) (imports : String)
    (p : Projection) (timezone : String) (request : ListRequest)
    (records : List Record) (offset count : Nat) (result : ListResult) :
    Prop where
  items : result.items =
    ((records.drop offset).take count).map Summary.ofRecord
  within : offset + count ≤ records.length
  progress : offset < records.length → 0 < count
  nextCursor : result.nextCursor =
    if offset + count < records.length then
      some (Cursor.mk (fenceOf lowercase revision imports p timezone request)
        (offset + count)).toJson.render
    else none

theorem pageFrom_page {records : List Record}
    (accepted : ∀ item ∈ records, item.Accepted calendar)
    (valid : request.Valid day) {offset : Nat} (within : offset ≤ records.length) :
    ∃ count, Page lowercase revision imports p timezone request records offset
      count (pageFrom lowercase revision imports p timezone request records
        offset) ∧
      (pageFrom lowercase revision imports p timezone request records
        offset).items.length = count := by
  have least := valid.limit.1
  obtain ⟨count, short, taken⟩ := takeFitting_eq_take 0
    ((records.drop offset).take (request.limit.getD 100))
  rw [List.length_take, List.length_drop] at short
  rw [List.take_take, Nat.min_eq_left (short.trans (Nat.min_le_left _ _))] at taken
  have length : (pageFrom lowercase revision imports p timezone request records
      offset).items.length = count := by
    apply (congrArg List.length taken).trans
    rw [List.length_map, List.length_take, List.length_drop]
    omega
  refine ⟨count, ⟨taken, by omega, ?_, ?_⟩, length⟩
  · intro more
    rw [← length]
    apply List.length_pos_iff.mpr
    apply takeFitting_ne_nil
    · intro item among
      exact accepted item (List.mem_of_mem_drop (List.mem_of_mem_take among))
    · apply List.length_pos_iff.mp
      rw [List.length_take, List.length_drop]
      omega
  · rw [← length]
    rfl

theorem shows_accepted (accepted : ∀ item ∈ catalog.items, item.Accepted calendar) :
    ∀ item ∈ Shows lowercase built p catalog request day,
      item.Accepted calendar :=
  fun item among => accepted item (List.mem_filter.mp among).1

/-- A list from an offset on is a page, and never fails. -/
theorem list_page (made : catalog.Built lowercase built)
    (accepted : ∀ item ∈ catalog.items, item.Accepted calendar)
    (valid : request.Valid day) {offset : Nat}
    (read : offsetOf readCursor
      (fenceOf lowercase revision imports p timezone request) request.cursor =
        .ok offset)
    (within : offset ≤ (Shows lowercase built p catalog request day).length) :
    ∃ result count,
      list lowercase readCursor catalog revision imports p timezone request =
        .ok result ∧
      Page lowercase revision imports p timezone request
        (Shows lowercase built p catalog request day) offset count result := by
  obtain ⟨least, most⟩ := valid.limit
  have limits : (decide (1 ≤ request.limit.getD 100) &&
      decide (request.limit.getD 100 ≤ 100)) = true := by
    rw [decide_eq_true least, decide_eq_true most]
    rfl
  have records := made.candidates_eq p (lowercase (trim request.query)) day
  change _ = Shows lowercase built p catalog request day at records
  obtain ⟨count, page, length⟩ := @pageFrom_page lowercase calendar p revision
    imports timezone request day _ (shows_accepted accepted) valid offset within
  have fits : (decide (offset < offset + (pageFrom lowercase revision imports
      p timezone request (Shows lowercase built p catalog request day)
      offset).items.length) ||
      offset == (Shows lowercase built p catalog request day).length) = true := by
    rw [length, Bool.or_eq_true, decide_eq_true_iff, beq_iff_eq]
    have progress := page.progress
    omega
  refine ⟨_, count, ?_, page⟩
  apply ensure_then_eq_ok_iff.mpr ⟨decide_eq_true valid.query, _⟩
  apply ensure_then_eq_ok_iff.mpr ⟨limits, _⟩
  apply bind_eq_ok_iff.mpr ⟨day, valid.day, _⟩
  apply bind_eq_ok_iff.mpr ⟨offset, read, _⟩
  rw [records]
  apply ensure_then_eq_ok_iff.mpr ⟨decide_eq_true within, _⟩
  exact ensure_then_eq_ok_iff.mpr ⟨fits, rfl⟩

/-- The next request shows the same records. -/
theorem shows_next (cursor : Option String) :
    Shows lowercase built p catalog { request with cursor } day =
      Shows lowercase built p catalog request day :=
  rfl

theorem fenceOf_small (lowers : Lowers lowercase) (valid : request.Valid day)
    (zoneFits : byteLength timezone ≤ 128) (importsFit : byteLength imports ≤ 64) :
    (fenceOf lowercase revision imports p timezone request).Small := by
  have query := lowers.size_le (trim request.query)
  have trimmed := byteLength_trim_le request.query
  have short := valid.query
  constructor
  · change (Json.str (lowercase (trim request.query))).size ≤ _
    omega
  · intro text same
    have read := valid.day
    rw [show request.day = some text from same, dayOf] at read
    cases found : date text with
    | error error =>
        rw [found] at read
        cases read
    | ok day =>
        rw [← text_of_date found]
        exact byteLength_text_le day
  · exact byteLength_text_le p.today
  · exact zoneFits
  · exact importsFit

theorem offsetOf_cursor (reads : ReadsBack readCursor) {fence : Fence}
    (small : fence.Small) {offset : Nat} (fits : offset ≤ u64Max) :
    offsetOf readCursor fence (some (Cursor.mk fence offset).toJson.render) =
      .ok offset := by
  have short := small.byteLength_cursor_le fits
  apply ensure_then_eq_ok_iff.mpr ⟨decide_eq_true short, _⟩
  apply bind_eq_ok_iff.mpr ⟨⟨fence, offset⟩, reads ⟨fence, offset⟩ fits, _⟩
  exact ensure_then_eq_ok_iff.mpr ⟨decide_eq_true rfl, rfl⟩

variable (lowers : Lowers lowercase) (reads : ReadsBack readCursor)
  (fits : catalog.items.length ≤ u64Max)
  (zoneFits : byteLength timezone ≤ 128) (importsFit : byteLength imports ≤ 64)

include lowers reads fits zoneFits importsFit

theorem read_next (valid : request.Valid day) {offset : Nat}
    (within : offset ≤ (Shows lowercase built p catalog request day).length) :
    offsetOf readCursor (fenceOf lowercase revision imports p timezone request)
      (some (Cursor.mk (fenceOf lowercase revision imports p timezone request)
        offset).toJson.render) = .ok offset := by
  have total : (Shows lowercase built p catalog request day).length ≤ u64Max :=
    (List.length_filter_le _ _).trans fits
  exact offsetOf_cursor reads (fenceOf_small lowers valid zoneFits importsFit)
    (within.trans total)

variable (made : catalog.Built lowercase built)
  (accepted : ∀ item ∈ catalog.items, item.Accepted calendar)

include made accepted

theorem pages_from (valid : request.Valid day) {offset : Nat}
    (read : offsetOf readCursor
      (fenceOf lowercase revision imports p timezone request) request.cursor =
        .ok offset)
    (within : offset ≤ (Shows lowercase built p catalog request day).length) :
    Pages lowercase readCursor catalog revision imports p timezone request
      (((Shows lowercase built p catalog request day).drop offset).map
        Summary.ofRecord) := by
  induction left : (Shows lowercase built p catalog request day).length - offset
    using Nat.strongRecOn generalizing request offset with
  | ind left ih =>
      obtain ⟨result, count, listed, page⟩ :=
        list_page made accepted valid read within
      have cursor := page.nextCursor
      have items := page.items
      by_cases more : offset + count <
          (Shows lowercase built p catalog request day).length
      · have progress := page.progress (by omega)
        rw [if_pos more] at cursor
        have onwards := @ih _ (by rw [shows_next]; omega) { request with
            cursor := some (Cursor.mk (fenceOf lowercase revision imports p
              timezone request) (offset + count)).toJson.render }
          ⟨valid.query, valid.limit, valid.day⟩ (offset + count)
          (read_next lowers reads fits zoneFits importsFit valid
            more.le) more.le rfl
        have pages := Pages.next listed cursor onwards
        rw [← List.take_append_drop count (List.drop offset _), List.map_append,
          ← items, List.drop_drop]
        exact pages
      · have pages := Pages.last listed (cursor.trans (if_neg more))
        rw [items, List.take_of_length_le (by rw [List.length_drop]; omega)] at pages
        exact pages

theorem pages_shown (valid : request.Valid day) {offset : Nat}
    (read : offsetOf readCursor
      (fenceOf lowercase revision imports p timezone request) request.cursor =
        .ok offset)
    (within : offset ≤ (Shows lowercase built p catalog request day).length)
    {summaries : List Summary}
    (pages : Pages lowercase readCursor catalog revision imports p timezone
      request summaries) :
    summaries = ((Shows lowercase built p catalog request day).drop offset).map
      Summary.ofRecord := by
  induction pages generalizing offset with
  | last listed last =>
      obtain ⟨result, count, found, page⟩ :=
        list_page made accepted valid read within
      cases found.symm.trans listed
      have cursor := page.nextCursor.symm.trans last
      rw [page.items, List.take_of_length_le]
      rw [List.length_drop]
      split at cursor
      · cases cursor
      · omega
  | next listed next _ ih =>
      obtain ⟨result, count, found, page⟩ :=
        list_page made accepted valid read within
      cases found.symm.trans listed
      have cursor := page.nextCursor.symm.trans next
      split at cursor
      · rename_i more
        obtain rfl := Option.some.inj cursor
        have onwards := ih ⟨valid.query, valid.limit, valid.day⟩
          (read_next lowers reads fits zoneFits importsFit valid
            more.le) more.le
        rw [onwards, shows_next, page.items, ← List.map_append, ← List.drop_drop,
          List.take_append_drop]
      · cases cursor

end Walks

/-! ## Markers -/

/-- A marker tells the kinds of some items. -/
structure Marker.Tells (marker : Marker) (date : String) (items : List Record) :
    Prop where
  date : marker.date = date
  event : marker.event = true ↔ ∃ item ∈ items, item.kind = .event
  task : marker.task = true ↔ ∃ item ∈ items, item.kind = .task

theorem Marker.Tells.append_of_both {marker : Marker} {date : String}
    {seen items : List Record} (tells : marker.Tells date seen)
    (both : (marker.event && marker.task) = true) :
    marker.Tells date (seen ++ items) := by
  obtain ⟨event, task⟩ := Bool.and_eq_true_iff.mp both
  obtain ⟨first, isFirst, firstKind⟩ := tells.event.mp event
  obtain ⟨second, isSecond, secondKind⟩ := tells.task.mp task
  constructor
  · exact tells.date
  · exact iff_of_true event ⟨first, List.mem_append_left _ isFirst, firstKind⟩
  · exact iff_of_true task ⟨second, List.mem_append_left _ isSecond, secondKind⟩

theorem mark_tells {marker : Marker} {date : String} {seen : List Record}
    (tells : marker.Tells date seen) (items : List Record) :
    (mark marker items).Tells date (seen ++ items) := by
  induction items generalizing marker seen with
  | nil =>
      rw [List.append_nil]
      exact tells
  | cons item items ih =>
      have marked {next : Marker}
          (isEvent : item.kind = .event → next = { marker with event := true })
          (isTask : item.kind = .task → next = { marker with task := true }) :
          next.Tells date (seen ++ [item]) := by
        obtain ⟨date, event, task⟩ := tells
        cases kind : item.kind with
        | event =>
            rw [isEvent kind]
            exact ⟨date, by simp [kind], by simp [kind, task]⟩
        | task =>
            rw [isTask kind]
            exact ⟨date, by simp [kind, event], by simp [kind]⟩
      rw [mark, ← List.singleton_append, ← List.append_assoc]
      split_ifs with both
      · exact (marked (fun kind => by rw [kind])
          fun kind => by rw [kind]).append_of_both both
      · exact ih (marked (fun kind => by rw [kind]) fun kind => by rw [kind])

theorem mem_daysFrom {first last : NaiveDate} {days count : Nat}
    (reached : first.addDays? days = some last) (within : days < count) :
    last ∈ daysFrom count first := by
  induction days generalizing first count with
  | zero =>
      cases reached
      cases count with
      | zero => exact absurd within (Nat.lt_irrefl 0)
      | succ count => exact List.mem_cons_self
  | succ days ih =>
      obtain ⟨next, found, reached⟩ := Option.bind_eq_some_iff.mp reached
      cases count with
      | zero => exact absurd within (Nat.not_lt_zero _)
      | succ count =>
          rw [daysFrom, found]
          exact List.mem_cons_of_mem _ (ih reached (Nat.lt_of_succ_lt_succ within))

section Marks

variable {catalog : Catalog} {lowercase : String → String}
  {built p : Projection} {revision : U64} {timezone : String}
  {request : MarkersRequest} {result : MarkersResult}

/-- Each marker is of a day, and tells the kinds of the records of that day. -/
theorem markers_tell (made : catalog.Built lowercase built)
    (marked : markers catalog revision p timezone request = .ok result) :
    ∀ marker ∈ result.days, ∃ day : NaiveDate, marker.Tells day.text
      (catalog.items.filter (includesDay built p day)) := by
  obtain ⟨first, _, marked⟩ := bind_eq_ok_iff.mp marked
  obtain ⟨last, _, marked⟩ := bind_eq_ok_iff.mp marked
  obtain ⟨_, marked⟩ := ensure_then_eq_ok_iff.mp marked
  obtain rfl := Except.ok.inj marked
  intro marker among
  obtain ⟨day, _, rfl⟩ := List.mem_map.mp among
  have unmarked : (⟨day.text, false, false⟩ : Marker).Tells day.text [] := by
    constructor <;> simp
  refine ⟨day, ?_⟩
  rw [← made.onDay_eq]
  exact mark_tells unmarked _

/-- Each day of the range has a marker. -/
theorem markers_cover
    (marked : markers catalog revision p timezone request = .ok result)
    {first last day : NaiveDate} (from_ : date request.fromDate = .ok first)
    (to_ : date request.toDate = .ok last) (after : day.before first = false)
    (before : last.before day = false) :
    ∃ marker ∈ result.days, marker.date = day.text := by
  obtain ⟨_, same, marked⟩ := bind_eq_ok_iff.mp marked
  cases from_.symm.trans same
  obtain ⟨_, same, marked⟩ := bind_eq_ok_iff.mp marked
  cases to_.symm.trans same
  obtain ⟨_, marked⟩ := ensure_then_eq_ok_iff.mp marked
  obtain rfl := Except.ok.inj marked
  obtain ⟨days, reached⟩ := addDays?_of_not_before after
  obtain ⟨more, onwards⟩ := addDays?_of_not_before before
  have start := dayNumber_addDays reached
  have stop := dayNumber_addDays onwards
  have among := @mem_daysFrom _ _ _
    (last.dayNumber - first.dayNumber + 1).toNat reached (by omega)
  refine ⟨_, List.mem_map_of_mem among, ?_⟩
  have unmarked : (⟨day.text, false, false⟩ : Marker).Tells day.text [] := by
    constructor <;> simp
  exact (mark_tells unmarked _).date

end Marks

/-! ### One record -/

def lowerAscii (text : String) : String :=
  String.ofList (text.toList.map Char.toLower)

theorem lowers_lowerAscii : Lowers lowerAscii := by
  intro text
  refine ⟨text.toList.map fun char => [char.toLower], ?_, ?_⟩
  · rw [lowerAscii, String.toList_ofList]
    induction text.toList with
    | nil => rfl
    | cons char chars ih => rw [List.map_cons, ih]; rfl
  · induction text.toList with
    | nil => exact .nil
    | cons char chars ih => exact .cons ⟨Nat.le_add_left 1 2, fun _ => rfl⟩ ih

/-- A calendar that knows one day and one zone. -/
def smallCalendar : Calendar where
  parsesDate := (· == "2026-03-01")
  knowsZone := (· == "UTC")
  isInstant := fun instant => instant.val == 0

def meeting : Record where
  id := "a"
  kind := .event
  sourceId := "local"
  sourceUid := none
  revision := ⟨1, one_le_u64Max⟩
  title := "Meeting"
  notes := ""
  links := []
  schedule := ⟨.date, some "2026-03-01", some "2026-03-01", none, none, none⟩
  createdUnixMs := ⟨0, zero_i64⟩
  modifiedUnixMs := ⟨0, zero_i64⟩
  capabilities := ⟨true, true, false⟩
  event := some ⟨"", [], ""⟩
  task := none

theorem meeting_accepted : meeting.Accepted smallCalendar := by
  refine ⟨⟨1, by decide⟩, ?_⟩
  decide +kernel

/-- A zone that never leaves the first of March. -/
def march : Projection where
  today := ⟨2026, 3, 1, year_2026_valid, march_valid, by decide⟩
  zone := ⟨fun _ _ => some ⟨0, zero_i64⟩, fun _ => none⟩

/-! ## The catalog as it is listed -/

theorem trim_empty : trim "" = "" :=
  rfl

theorem searched_empty (text : String) : searched "" text = true :=
  rfl

/-- From the first page on, the pages of a query show the records that it wants,
each once and in the order of the catalog, and a day is marked with a kind when
its unfiltered pages show one. -/
theorem pages_show_wanted (lowercase : String → String)
    (readCursor : String → Except String Cursor) (calendar : Calendar)
    (items : List Record) (built p : Projection) (revision : U64)
    (imports timezone : String) (lowers : Lowers lowercase)
    (reads : ReadsBack readCursor)
    (accepted : ∀ item ∈ items, item.Accepted calendar)
    (fits : items.length ≤ u64Max) (zoneFits : byteLength timezone ≤ 128)
    (importsFit : byteLength imports ≤ 64) :
    let catalog := Catalog.new lowercase items built
    catalog.items.Perm items ∧
    (∀ query day limit, byteLength query ≤ 4096 →
      ∀ date, dayOf day = .ok date → 1 ≤ limit.getD 100 → limit.getD 100 ≤ 100 →
      ∀ summaries, Pages lowercase readCursor catalog revision imports p timezone
          ⟨query, day, none, limit⟩ summaries ↔
        summaries = (catalog.items.filter (wanted lowercase built p
          (lowercase (trim query)) date)).map Summary.ofRecord) ∧
    ∀ request result,
      markers catalog revision p timezone request = .ok result →
      (∀ first last day, date request.fromDate = .ok first →
        date request.toDate = .ok last → day.before first = false →
        last.before day = false →
        ∃ marker ∈ result.days, marker.date = day.text) ∧
      ∀ marker ∈ result.days, ∀ limit, 1 ≤ limit.getD 100 →
        limit.getD 100 ≤ 100 → ∀ summaries,
        Pages lowercase readCursor catalog revision imports p timezone
          ⟨"", some marker.date, none, limit⟩ summaries →
        (marker.event = true ↔ ∃ item ∈ summaries, item.kind = .event) ∧
        (marker.task = true ↔ ∃ item ∈ summaries, item.kind = .task) := by
  have made := Catalog.new_built lowercase built items
  have perm := Catalog.new_perm lowercase built items
  intro catalog
  have each : ∀ item ∈ catalog.items, item.Accepted calendar :=
    fun item among => accepted item (perm.mem_iff.mp among)
  have count : catalog.items.length ≤ u64Max := by
    rw [perm.length_eq]
    exact fits
  have shown : ∀ request date, ListRequest.Valid request date →
      request.cursor = none → ∀ summaries,
      Pages lowercase readCursor catalog revision imports p timezone request
          summaries ↔
        summaries = (Shows lowercase built p catalog request date).map
          Summary.ofRecord := by
    intro request date valid start summaries
    have read : offsetOf readCursor
        (fenceOf lowercase revision imports p timezone request)
        request.cursor = .ok 0 := by
      rw [start]
      rfl
    constructor
    · exact fun pages => pages_shown lowers reads count zoneFits importsFit made
        each valid read (Nat.zero_le _) pages
    · rintro rfl
      exact pages_from lowers reads count zoneFits importsFit made each valid
        read (Nat.zero_le _)
  refine ⟨perm, ?_, ?_⟩
  · intro query day limit short date read least most summaries
    exact shown ⟨query, day, none, limit⟩ date ⟨short, ⟨least, most⟩, read⟩ rfl
      summaries
  · intro request result marked
    constructor
    · intro first last day from_ to_ after before
      exact markers_cover marked from_ to_ after before
    · intro marker among limit least most summaries pages
      obtain ⟨day, tells⟩ := markers_tell made marked marker among
      have valid : ListRequest.Valid ⟨"", some marker.date, none, limit⟩
          (some day) := by
        constructor
        · exact Nat.zero_le _
        · exact ⟨least, most⟩
        · rw [tells.date, dayOf, date_text]
          rfl
      have all := (shown _ _ valid rfl summaries).mp pages
      have unfiltered : Shows lowercase built p catalog
          ⟨"", some marker.date, none, limit⟩ (some day) =
          catalog.items.filter (includesDay built p day) := by
        apply List.filter_congr
        intro item _
        rw [wanted, trim_empty, lowers.empty, searched_empty, Bool.and_true,
          Option.all_some]
      rw [all, unfiltered]
      simp only [List.mem_map, exists_exists_and_eq_and]
      exact ⟨tells.event, tells.task⟩

theorem pages_show_meeting :
    Pages lowerAscii readCompact (Catalog.new lowerAscii [meeting] march)
      ⟨1, by decide⟩ "" march "UTC" ⟨"MEET", none, none, none⟩
      [Summary.ofRecord meeting] := by
  have shown := (pages_show_wanted lowerAscii readCompact smallCalendar [meeting]
    march march ⟨1, by decide⟩ "" "UTC" lowers_lowerAscii readsBack_readCompact
    (List.forall_mem_singleton.mpr meeting_accepted) (by decide) (by decide)
    (by decide)).2.1 "MEET" none none (by decide) none rfl (by decide) (by decide)
    [Summary.ofRecord meeting]
  apply shown.mpr
  have items : (Catalog.new lowerAscii [meeting] march).items = [meeting] := by
    dsimp only [Catalog.new]
    rw [List.mergeSort_singleton, List.mergeSort_singleton]
  have kept : wanted lowerAscii march march (lowerAscii (trim "MEET")) none
      meeting = true := by
    decide +kernel
  rw [items, List.filter_cons, if_pos kept]
  rfl

end BarDaemon.Agendas
