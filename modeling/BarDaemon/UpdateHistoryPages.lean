import BarDaemon.UpdateHistory

/-!
# The pages of the history

Following the cursors shows every entry that matches once, and a fence that is
the same finds the same entries unless the local time zone judges them
otherwise.
-/

namespace BarDaemon.UpdateHistory

open CompactJson FallibleSteps CharacterLists

/-! ## Revisions -/

theorem hexDigit_injective {first second : Nat} (firstSmall : first < 16)
    (secondSmall : second < 16)
    (same : Json.hexDigit first = Json.hexDigit second) : first = second := by
  have all : ∀ first < 16, ∀ second < 16,
      Json.hexDigit first = Json.hexDigit second → first = second := by
    decide
  exact all first firstSmall second secondSmall same

@[simp]
theorem length_hexText (width number : Nat) :
    (hexText width number).length = width := by
  induction width generalizing number with
  | zero => rfl
  | succ width ih => rw [hexText, List.length_append, ih, List.length_singleton]

/-- Numbers that fit are told apart by their digits. -/
theorem hexText_injective {width first second : Nat}
    (firstFits : first < 16 ^ width) (secondFits : second < 16 ^ width)
    (same : hexText width first = hexText width second) : first = second := by
  induction width generalizing first second with
  | zero =>
      rw [Nat.pow_zero] at firstFits secondFits
      omega
  | succ width ih =>
      rw [Nat.pow_succ] at firstFits secondFits
      obtain ⟨high, low⟩ := List.append_inj' same rfl
      have quotient := ih (Nat.div_lt_of_lt_mul (by omega))
        (Nat.div_lt_of_lt_mul (by omega)) high
      have remainder := hexDigit_injective (Nat.mod_lt first (by decide))
        (Nat.mod_lt second (by decide)) (List.cons.inj low).1
      omega

theorem mem_hexText {width number : Nat} {char : Char}
    (among : char ∈ hexText width number) :
    char ≠ ':' ∧ char.toNat < 128 := by
  induction width generalizing number with
  | zero => cases among
  | succ width ih =>
      rcases List.mem_append.mp among with earlier | last
      · exact ih earlier
      · obtain rfl := List.mem_singleton.mp last
        have all : ∀ nibble < 16, Json.hexDigit nibble ≠ ':' ∧
            (Json.hexDigit nibble).toNat < 128 := by
          decide
        exact all _ (Nat.mod_lt number (by decide))

/-! ## Offsets -/

theorem start_le_ofDigitChars (digits : List Char) (start : Nat) :
    start ≤ Nat.ofDigitChars 10 digits start := by
  induction digits generalizing start with
  | nil => exact Nat.le_refl start
  | cons char chars ih =>
      have rest := ih (10 * start + (char.toNat - '0'.toNat))
      rw [Nat.ofDigitChars_cons]
      omega

namespace Query

theorem parseDigits_digits {digits : List Char} {start : Nat}
    (all : ∀ char ∈ digits, char.isDigit = true)
    (fits : Nat.ofDigitChars 10 digits start ≤ u64Max) :
    parseDigits start digits = .ok (Nat.ofDigitChars 10 digits start) := by
  induction digits generalizing start with
  | nil => rfl
  | cons char chars ih =>
      rw [Nat.ofDigitChars_cons] at fits ⊢
      have within := Nat.le_trans (start_le_ofDigitChars chars _) fits
      have digit := all char List.mem_cons_self
      rw [parseDigits, digit, if_neg (by decide), if_neg (by omega)]
      exact ih (fun other among => all other (List.mem_cons_of_mem _ among)) fits

theorem parseUsize_toDigits {number : Nat} (fits : number ≤ u64Max) :
    parseUsize (Nat.toDigits 10 number) = .ok number := by
  have all : ∀ char ∈ Nat.toDigits 10 number, char.isDigit = true :=
    fun char among => Nat.isDigit_of_mem_toDigits (by decide) (by decide) among
  have value := @Nat.ofDigitChars_ten_toDigits number
  have whole := @parseDigits_digits _ 0 all (by rw [value]; exact fits)
  rw [value] at whole
  unfold parseUsize
  split
  · rename_i empty
    exact absurd empty Nat.toDigits_ne_nil
  · rename_i plus
    exact absurd (all '+' (by rw [plus]; exact List.mem_cons_self)) (by decide)
  · rename_i digits plus
    exact absurd (all '+' (by rw [plus]; exact List.mem_cons_self)) (by decide)
  · exact whole

/-- A cursor is read back under the revision that it was written under. -/
theorem offset_cursor (query : Query) (number : Nat) {stop : Nat}
    (fits : stop ≤ u64Max) :
    { query with
      cursor := some (String.ofList (hexText 16 number) ++ ":" ++
        String.ofList (Nat.toDigits 10 stop)) }.offset
          (String.ofList (hexText 16 number)) = .ok stop := by
  have text : String.ofList (hexText 16 number) ++ ":" ++
      String.ofList (Nat.toDigits 10 stop) =
        String.ofList (hexText 16 number ++ ':' :: Nat.toDigits 10 stop) := by
    rw [String.append_assoc, ← String.ofList_append, ← String.ofList_append]
    rfl
  have ascii : ∀ char ∈ hexText 16 number ++ ':' :: Nat.toDigits 10 stop,
      char.toNat < 128 := by
    intro char among
    rcases List.mem_append.mp among with revision | offset
    · exact (mem_hexText revision).2
    · rcases List.mem_cons.mp offset with rfl | digit
      · decide
      · have nine : '9'.toNat = 57 := rfl
        have bounds := Nat.isDigit_of_mem_toDigits (by decide) (by decide) digit
        rw [Char.isDigit_iff_toNat, nine] at bounds
        omega
  have digits : (Nat.toDigits 10 stop).length ≤ 20 :=
    (Nat.length_toDigits_le_iff (by decide) (by decide)).mpr
      (Nat.lt_of_le_of_lt fits (by decide))
  have short : byteLength (String.ofList
      (hexText 16 number ++ ':' :: Nat.toDigits 10 stop)) < 100 := by
    rw [byteLength_of_ascii ascii, List.length_append, length_hexText,
      List.length_cons]
    omega
  have divided : splitOnce ':' (hexText 16 number ++
      ':' :: Nat.toDigits 10 stop) =
        some (hexText 16 number, Nat.toDigits 10 stop) :=
    splitOnce_append (fun among => (mem_hexText among).1 rfl) _
  simp only [offset, text]
  rw [ensure_of_true (decide_eq_true short), ok_bind, String.toList_ofList,
    divided]
  simp only [BEq.rfl, ensure_of_true, ok_bind]
  exact parseUsize_toDigits fits

end Query

/-! ## Pages -/

section Records

variable {Record : Type} {host : Host} {view : RecordView Record}

theorem grow_bounds {offset stop : Nat} (bytes : Nat)
    (entries : List (Entry Record)) :
    stop ≤ grow view offset stop bytes entries ∧
      grow view offset stop bytes entries ≤ stop + entries.length := by
  induction entries generalizing stop bytes with
  | nil => exact ⟨Nat.le_refl _, Nat.le_refl _⟩
  | cons entry entries ih =>
      unfold grow
      dsimp only
      rw [List.length_cons]
      split
      · omega
      · have rest := @ih (stop + 1) (bytes + (entry.toJson view).size)
        omega

/-- The first entry is on the page whatever its size. -/
theorem grow_advances (offset : Nat) {entries : List (Entry Record)}
    (shown : entries ≠ []) : offset < grow view offset offset 0 entries := by
  cases entries with
  | nil => exact absurd rfl shown
  | cons entry entries =>
      have rest := @grow_bounds _ view offset (offset + 1)
        (0 + (entry.toJson view).size) entries
      have first : (decide (offset < offset) && decide (128 * 1024 <
          0 + (entry.toJson view).size)) = false := by
        rw [decide_eq_false (Nat.lt_irrefl offset), Bool.false_and]
      unfold grow
      dsimp only
      rw [if_neg (by rw [first]; decide)]
      omega

theorem pageEnd_eq {entries : List (Entry Record)} {offset limit : Nat}
    (within : offset ≤ entries.length) (positive : 1 ≤ limit) :
    ∃ stop, pageEnd view entries offset limit = .ok stop ∧ offset ≤ stop ∧
      stop ≤ entries.length ∧ (offset < entries.length → offset < stop) := by
  have bounds := @grow_bounds _ view offset offset 0
    ((entries.drop offset).take limit)
  have length : ((entries.drop offset).take limit).length ≤
      entries.length - offset := by
    rw [List.length_take, List.length_drop]
    exact Nat.min_le_right _ _
  refine ⟨_, ?_, bounds.1, by omega, fun more => ?_⟩
  · rw [pageEnd, ensure_of_true (decide_eq_true within), ok_bind]
    rfl
  · apply grow_advances
    apply List.ne_nil_of_length_pos
    rw [List.length_take, List.length_drop]
    omega

/-! ## Matching entries -/

/-- Moments at which the days that are asked for judge alike every entry that
passes the other filters. A selected run has no filters. -/
def JudgedAlike (host : Host) (view : RecordView Record) (query : Query)
    (search : Search) (entries : List (Entry Record)) (first second : Moment) :
    Prop :=
  query.runId = none → ∀ entry ∈ entries,
    query.passes host view search entry = true →
      search.onDays first (view.startedAt entry.record) =
        search.onDays second (view.startedAt entry.record)

theorem filter_eq_filter_iff {Item : Type} {first second : Item → Bool}
    {items : List Item} :
    items.filter first = items.filter second ↔
      ∀ item ∈ items, first item = second item := by
  constructor
  · intro same item among
    have kept : item ∈ items.filter first ↔ item ∈ items.filter second := by
      rw [same]
    rw [List.mem_filter, List.mem_filter, and_iff_right among,
      and_iff_right among] at kept
    exact Bool.eq_iff_iff.mpr kept
  · exact List.filter_congr

theorem matchesEntry_of_filters {query : Query} {search : Search}
    {moment : Moment} (filters : query.runId = none) (entry : Entry Record) :
    query.matchesEntry host view search moment entry =
      (query.passes host view search entry &&
        search.onDays moment (view.startedAt entry.record)) := by
  rw [Query.matchesEntry, filters, Query.passes, Search.matchesWith]
  cases search.onDays moment (view.startedAt entry.record) <;> simp

theorem matchesEntry_of_run {query : Query} {search : Search}
    {moment : Moment} {id : String} (selected : query.runId = some id)
    (entry : Entry Record) :
    query.matchesEntry host view search moment entry =
      (view.id entry.record == id) := by
  rw [Query.matchesEntry, selected]

/-- The same entries match at two moments exactly when they are judged alike. -/
theorem matching_eq_iff {query : Query} {search : Search}
    {entries : List (Entry Record)} {first second : Moment} :
    entries.filter (query.matchesEntry host view search first) =
        entries.filter (query.matchesEntry host view search second) ↔
      JudgedAlike host view query search entries first second := by
  rw [filter_eq_filter_iff]
  cases selected : query.runId with
  | some id =>
      simp only [matchesEntry_of_run selected, JudgedAlike, selected]
      simp
  | none =>
      simp only [matchesEntry_of_filters selected, JudgedAlike, selected,
        true_implies]
      refine forall_congr' fun entry => forall_congr' fun _ => ?_
      cases query.passes host view search entry <;> simp

/-! ## Requests -/

structure Prepared (host : Host) (query : Query) (now : Moment)
    (prepared : PreparedQuery) : Prop where
  sameQuery : prepared.query = query
  sameNow : prepared.now = now
  search : Search.parse host query.query now.today = .ok prepared.search
  limit : query.validate host = .ok prepared.limit
  positive : 1 ≤ prepared.limit

theorem one_le_of_validate {query : Query} {limit : Nat}
    (valid : query.validate host = .ok limit) : 1 ≤ limit := by
  unfold Query.validate at valid
  obtain ⟨bounds, valid⟩ := ensure_then_eq_ok_iff.mp valid
  obtain ⟨_, valid⟩ := ensure_then_eq_ok_iff.mp valid
  obtain ⟨_, valid⟩ := ensure_then_eq_ok_iff.mp valid
  obtain ⟨_, valid⟩ := ensure_then_eq_ok_iff.mp valid
  obtain ⟨_, valid⟩ := ensure_then_eq_ok_iff.mp valid
  cases valid
  simp only [Bool.and_eq_true, decide_eq_true_eq] at bounds
  exact bounds.1.2

theorem prepare_eq_ok_iff {query : Query} {now : Moment}
    {prepared : PreparedQuery} :
    query.prepare host now = .ok prepared ↔
      Prepared host query now prepared := by
  constructor
  · intro succeeded
    obtain ⟨limit, valid, rest⟩ := bind_eq_ok_iff.mp succeeded
    obtain ⟨search, parsed, done⟩ := bind_eq_ok_iff.mp rest
    cases done
    exact ⟨rfl, rfl, parsed, valid, one_le_of_validate valid⟩
  · rintro ⟨rfl, rfl, parsed, valid, _⟩
    rw [Query.prepare, valid, ok_bind, parsed]
    rfl

theorem prepare_cursor {query : Query} {now : Moment} {prepared : PreparedQuery}
    (accepted : query.prepare host now = .ok prepared)
    (cursor : Option String) :
    { query with cursor }.prepare host now =
      .ok { prepared with query := { query with cursor } } := by
  have parts := prepare_eq_ok_iff.mp accepted
  exact prepare_eq_ok_iff.mpr
    ⟨rfl, parts.sameNow, parts.search, parts.limit, parts.positive⟩

namespace PreparedQuery

variable {digest : Fence → U64} {prepared : PreparedQuery}
  {catalog : Catalog Record}

/-- How many entries there are up to the last that is an anchor. -/
structure Retains (view : RecordView Record) (anchorIds : List String)
    (entries : List (Entry Record)) (count : Nat) : Prop where
  within : count ≤ entries.length
  none_after : ∀ entry ∈ entries.drop count,
    anchorIds.contains (entry.id view) = false
  last : count = 0 ∨ ∃ entry, entries[count - 1]? = some entry ∧
    anchorIds.contains (entry.id view) = true

theorem mem_anchored {entries : List (Entry Record)} {place : Nat} :
    place ∈ ((entries.zipIdx.filter fun (entry, _) =>
        prepared.query.anchorIds.contains (entry.id view)).map
          fun (_, index) => index + 1) ↔
      ∃ entry, entries[place - 1]? = some entry ∧ 1 ≤ place ∧
        prepared.query.anchorIds.contains (entry.id view) = true := by
  constructor
  · intro among
    obtain ⟨⟨entry, index⟩, kept, rfl⟩ := List.mem_map.mp among
    obtain ⟨placed, anchor⟩ := List.mem_filter.mp kept
    exact ⟨entry, List.mem_zipIdx_iff_getElem?.mp placed, by simp, anchor⟩
  · rintro ⟨entry, found, positive, anchor⟩
    refine List.mem_map.mpr ⟨(entry, place - 1), List.mem_filter.mpr
      ⟨List.mem_zipIdx_iff_getElem?.mpr found, anchor⟩, ?_⟩
    exact Nat.sub_add_cancel positive

theorem retains_retainThrough (entries : List (Entry Record)) :
    Retains view prepared.query.anchorIds entries
      (prepared.retainThrough view entries) := by
  have places := @mem_anchored _ view prepared entries
  unfold retainThrough
  generalize ((entries.zipIdx.filter fun (entry, _) =>
    prepared.query.anchorIds.contains (entry.id view)).map
      fun (_, index) => index + 1) = anchored at places ⊢
  cases found : anchored.max? with
  | none =>
      rw [List.max?_eq_none_iff] at found
      refine ⟨Nat.zero_le _, fun entry among => ?_, .inl rfl⟩
      rw [Option.getD_none, List.drop_zero] at among
      obtain ⟨index, placed⟩ := List.mem_iff_getElem?.mp among
      by_contra anchor
      have place := (@places (index + 1)).mpr
        ⟨entry, placed, Nat.le_add_left 1 index, by simpa using anchor⟩
      rw [found] at place
      cases place
  | some count =>
      obtain ⟨among, largest⟩ := List.max?_eq_some_iff.mp found
      obtain ⟨entry, placed, positive, anchor⟩ := places.mp among
      have bound := (List.getElem?_eq_some_iff.mp placed).1
      refine ⟨?_, fun other among => ?_, .inr ⟨entry, placed, anchor⟩⟩
      · rw [Option.getD_some]
        omega
      · rw [Option.getD_some] at among
        obtain ⟨index, later⟩ := List.mem_iff_getElem?.mp among
        rw [List.getElem?_drop] at later
        by_contra anchor
        have place := (@places (count + index + 1)).mpr
          ⟨other, later, by omega, by simpa using anchor⟩
        have := largest _ place
        omega

/-- A page of the matching entries, from an offset to another. -/
structure Shows (view : RecordView Record) (anchorIds : List String)
    (fenced : String) (matching : List (Entry Record)) (offset stop : Nat)
    (page : Page Record) : Prop where
  forward : offset ≤ stop
  within : stop ≤ matching.length
  progress : offset < matching.length → offset < stop
  revision : page.revision = fenced
  total : page.total = matching.length
  retains : Retains view anchorIds matching page.retainThrough
  entries : page.entries = (matching.drop offset).take (stop - offset)
  cursor : page.cursor =
    if stop < matching.length then
      some (fenced ++ ":" ++ String.ofList (Nat.toDigits 10 stop))
    else none

theorem page_of_offset {offset : Nat}
    (read : prepared.query.offset (prepared.revision view digest catalog) =
      .ok offset)
    (within : offset ≤ (prepared.matching host view catalog).length)
    (positive : 1 ≤ prepared.limit) :
    ∃ page stop, prepared.page host view digest catalog = .ok page ∧
      Shows view prepared.query.anchorIds
        (prepared.revision view digest catalog)
        (prepared.matching host view catalog) offset stop page := by
  obtain ⟨stop, found, forward, inside, progress⟩ :=
    @pageEnd_eq _ view _ _ _ within positive
  have paged : prepared.page host view digest catalog = .ok {
      available := catalog.available
      revision := prepared.revision view digest catalog
      total := (prepared.matching host view catalog).length
      retainThrough := prepared.retainThrough view
        (prepared.matching host view catalog)
      entries := ((prepared.matching host view catalog).drop offset).take
        (stop - offset)
      cursor := if stop < (prepared.matching host view catalog).length then
          some (prepared.revision view digest catalog ++ ":" ++
            String.ofList (Nat.toDigits 10 stop))
        else none
      error := if catalog.errors.isEmpty then none
        else some ("\n".intercalate catalog.errors) } :=
    bind_eq_ok_iff.mpr ⟨offset, read, bind_eq_ok_iff.mpr ⟨stop, found, rfl⟩⟩
  exact ⟨_, stop, paged, forward, inside, progress, rfl, rfl,
    retains_retainThrough _, rfl, rfl⟩

end PreparedQuery

/-! ## Following the cursors -/

section Walks

variable {digest : Fence → U64} {catalog : Catalog Record} {query : Query}
  {search : Search} {limit : Nat} {moments : Nat → Moment}

/-- Every entry that matches at the first moment. -/
def matchingAt (host : Host) (view : RecordView Record) (query : Query)
    (search : Search) (now : Moment) (entries : List (Entry Record)) :
    List (Entry Record) :=
  entries.filter (query.matchesEntry host view search now)

variable
  (accepted : ∀ asked, query.prepare host (moments asked) =
    .ok ⟨query, search, limit, moments asked⟩)
  (alike : ∀ asked, JudgedAlike host view query search catalog.entries
    (moments 0) (moments asked))

include accepted alike

theorem request_shows (asked : Nat) {cursor : Option String} {offset : Nat}
    (read : { query with cursor }.offset
      (PreparedQuery.revision view digest
        ⟨query, search, limit, moments 0⟩ catalog) = .ok offset)
    (within : offset ≤
      (matchingAt host view query search (moments 0) catalog.entries).length) :
    ∃ page stop,
      request host view digest { query with cursor } (moments asked) catalog =
        .ok page ∧
      PreparedQuery.Shows view query.anchorIds
        (PreparedQuery.revision view digest
          ⟨query, search, limit, moments 0⟩ catalog)
        (matchingAt host view query search (moments 0) catalog.entries)
        offset stop page := by
  have same := matching_eq_iff.mpr (alike asked)
  have positive : 1 ≤ limit := (prepare_eq_ok_iff.mp (accepted asked)).positive
  rw [matchingAt, same] at within
  obtain ⟨page, stop, paged, shows⟩ :=
    @PreparedQuery.page_of_offset _ host view digest
      ⟨{ query with cursor }, search, limit, moments asked⟩ catalog offset read
      within positive
  refine ⟨page, stop, ?_, ?_⟩
  · rw [request, prepare_cursor (accepted asked), ok_bind]
    exact paged
  · rw [matchingAt, same]
    exact shows

/-- From an offset on, each matching entry is shown once, in its order. -/
theorem follow_shows (fits : catalog.entries.length ≤ u64Max)
    {requests asked offset : Nat} {cursor : Option String}
    (read : { query with cursor }.offset
      (PreparedQuery.revision view digest
        ⟨query, search, limit, moments 0⟩ catalog) = .ok offset)
    (within : offset ≤
      (matchingAt host view query search (moments 0) catalog.entries).length)
    (enough : (matchingAt host view query search (moments 0)
      catalog.entries).length - offset < requests) :
    ∃ pages,
      follow host view digest query catalog moments requests asked cursor =
        .ok (some pages) ∧
      pages.flatMap Page.entries = (matchingAt host view query search
        (moments 0) catalog.entries).drop offset ∧
      ∀ page ∈ pages,
        page.total = (matchingAt host view query search (moments 0)
          catalog.entries).length ∧
        PreparedQuery.Retains view query.anchorIds
          (matchingAt host view query search (moments 0) catalog.entries)
          page.retainThrough := by
  induction requests generalizing asked offset cursor with
  | zero => omega
  | succ requests ih =>
      obtain ⟨page, stop, requested, shows⟩ :=
        request_shows accepted alike asked read within
      have forward := shows.forward
      have inside := shows.within
      by_cases more : stop < (matchingAt host view query search (moments 0)
          catalog.entries).length
      · have next := shows.cursor
        rw [if_pos more] at next
        have kept : (matchingAt host view query search (moments 0)
            catalog.entries).length ≤ catalog.entries.length :=
          List.length_filter_le _ _
        have progress := shows.progress (by omega)
        obtain ⟨pages, followed, entries, facts⟩ := @ih (asked + 1) stop _
          (Query.offset_cursor query _ (by omega)) inside (by omega)
        refine ⟨page :: pages, ?_, ?_, ?_⟩
        · rw [follow, requested, ok_bind, next]
          dsimp only
          rw [PreparedQuery.revision, followed, ok_bind]
          rfl
        · rw [List.flatMap_cons, entries, shows.entries]
          have whole : stop = offset + (stop - offset) := by omega
          nth_rewrite 2 [whole]
          rw [← List.drop_drop, List.take_append_drop]
        · intro other among
          rcases List.mem_cons.mp among with rfl | later
          · exact ⟨shows.total, shows.retains⟩
          · exact facts other later
      · have last := shows.cursor
        rw [if_neg more] at last
        refine ⟨[page], ?_, ?_, ?_⟩
        · rw [follow, requested, ok_bind, last]
          rfl
        · rw [List.flatMap_cons, List.flatMap_nil, List.append_nil,
            shows.entries, List.take_of_length_le]
          rw [List.length_drop]
          omega
        · intro other among
          obtain rfl := List.mem_singleton.mp among
          exact ⟨shows.total, shows.retains⟩

end Walks

/-! ## Fences -/

theorem ofOption_injective {Value : Type} {encode : Value → Json}
    (injective : Function.Injective encode) (shown : ∀ value, encode value ≠ .null) :
    Function.Injective (Json.ofOption encode) := by
  intro first second same
  cases first with
  | none =>
      cases second with
      | none => rfl
      | some value => exact absurd same.symm (shown value)
  | some value =>
      cases second with
      | none => exact absurd same (shown value)
      | some other => rw [injective same]

theorem str_injective : Function.Injective Json.str :=
  fun _ _ same => Json.str.inj same

theorem nat_injective : Function.Injective Json.nat :=
  fun _ _ same => Json.nat.inj same

theorem bool_injective : Function.Injective Json.bool :=
  fun _ _ same => Json.bool.inj same

theorem ofOption_str {first second : Option String}
    (same : Json.ofOption .str first = Json.ofOption .str second) :
    first = second :=
  ofOption_injective str_injective (fun _ => Json.noConfusion) same

theorem ofOption_nat {first second : Option Nat}
    (same : Json.ofOption .nat first = Json.ofOption .nat second) :
    first = second :=
  ofOption_injective nat_injective (fun _ => Json.noConfusion) same

theorem RunIssue.toJson_injective : Function.Injective RunIssue.toJson := by
  intro first second same
  cases first
  cases second
  simp only [RunIssue.toJson, Json.obj.injEq, List.cons.injEq, Prod.mk.injEq,
    true_and, and_true, Json.nat.injEq] at same
  obtain ⟨component, rfl, recoveredAt, runId⟩ := same
  rw [ofOption_nat component, ofOption_nat recoveredAt, ofOption_str runId]

/-- Entries are told apart by what is written of them. -/
theorem Entry.toJson_injective (tells : Function.Injective view.members) :
    Function.Injective (Entry.toJson view) := by
  intro first second same
  cases first
  cases second
  obtain ⟨members, rest⟩ := List.append_inj' (Json.obj.inj same) rfl
  simp only [List.cons.injEq, Prod.mk.injEq, true_and, and_true, Json.str.injEq,
    Json.arr.injEq] at rest
  obtain ⟨rfl, rfl, stage, deployed, issues⟩ := rest
  cases tells members
  rw [ofOption_str stage,
    ofOption_injective bool_injective (fun _ => Json.noConfusion) deployed,
    List.map_injective_iff.mpr RunIssue.toJson_injective issues]

namespace PreparedQuery

variable {digest : Fence → U64} {prepared later : PreparedQuery}
  {catalog other : Catalog Record}

theorem fence_of_revision
    (collisionFree : digest (prepared.fence view catalog) =
        digest (later.fence view other) →
      prepared.fence view catalog = later.fence view other)
    (same : prepared.revision view digest catalog =
      later.revision view digest other) :
    prepared.fence view catalog = later.fence view other := by
  have small (value : U64) : value.val < 16 ^ 16 :=
    Nat.lt_of_le_of_lt value.property (by decide)
  apply collisionFree
  apply Subtype.ext
  exact hexText_injective (small _) (small _) (String.ofList_injective same)

/-- Under one revision the same entries match exactly when the two moments
judge the entries alike. -/
theorem matching_eq_iff_of_fence (tells : Function.Injective view.members)
    (same : prepared.fence view catalog = later.fence view other) :
    prepared.matching host view catalog = later.matching host view other ↔
      JudgedAlike host view prepared.query prepared.search catalog.entries
        prepared.now later.now := by
  have written : catalog.entries.map (Entry.toJson view) =
      other.entries.map (Entry.toJson view) :=
    Json.arr.inj (congrArg Fence.entries same)
  have entries := List.map_injective_iff.mpr (Entry.toJson_injective tells)
    written
  have runId : prepared.query.runId = later.query.runId :=
    congrArg Fence.runId same
  have lane : prepared.query.lane = later.query.lane :=
    congrArg Fence.lane same
  have outcome : prepared.query.outcome = later.query.outcome :=
    congrArg Fence.outcome same
  have search : prepared.search = later.search := congrArg Fence.search same
  have filters : later.query.matchesEntry host view later.search later.now =
      prepared.query.matchesEntry host view prepared.search later.now := by
    funext entry
    simp only [Query.matchesEntry, runId, lane, outcome, search]
  rw [matching, matching, filters, ← entries]
  exact matching_eq_iff

end PreparedQuery

/-- The revision that a cursor carries. -/
def Query.cursorRevision (query : Query) : Option String :=
  query.cursor.bind fun cursor =>
    (splitOnce ':' cursor.toList).map fun (revision, _) =>
      String.ofList revision

theorem revision_of_cursor {query : Query} {revision given : String}
    {offset : Nat} (read : query.offset revision = .ok offset)
    (carries : query.cursorRevision = some given) : given = revision := by
  unfold Query.offset at read
  unfold Query.cursorRevision at carries
  cases cursor : query.cursor with
  | none => rw [cursor] at carries; cases carries
  | some text =>
      rw [cursor] at read carries
      obtain ⟨_, read⟩ := ensure_then_eq_ok_iff.mp read
      rw [Option.bind_some] at carries
      cases divided : splitOnce ':' text.toList with
      | none => rw [divided] at carries; cases carries
      | some parts =>
          rw [divided] at read carries
          obtain ⟨same, _⟩ := ensure_then_eq_ok_iff.mp read
          rw [← Option.some.inj carries]
          exact eq_of_beq same

theorem revision_of_page {digest : Fence → U64} {prepared : PreparedQuery}
    {catalog : Catalog Record} {page : Page Record} {given : String}
    (shown : prepared.page host view digest catalog = .ok page)
    (carries : prepared.query.cursorRevision = some given) :
    given = prepared.revision view digest catalog := by
  obtain ⟨offset, read, _⟩ := bind_eq_ok_iff.mp shown
  exact revision_of_cursor read carries

end Records

/-! ## The history as it is paged -/

/-- Following the cursors shows every entry that matches once and in order, and
counts those up to the last anchor, as long as the days that are searched are
judged alike. Two requests under one revision have the same matching entries
exactly when they judge the days alike. -/
theorem history_pages {Record : Type} (host : Host) (view : RecordView Record)
    (digest : Fence → U64) (tells : Function.Injective view.members) :
    (∀ (catalog : Catalog Record) (query : Query) (search : Search)
        (limit : Nat) (moments : Nat → Moment),
      catalog.entries.length ≤ u64Max →
      (∀ asked, query.prepare host (moments asked) =
        .ok ⟨query, search, limit, moments asked⟩) →
      (∀ asked, JudgedAlike host view query search catalog.entries (moments 0)
        (moments asked)) →
      ∀ requests, (matchingAt host view query search (moments 0)
          catalog.entries).length < requests →
        ∃ pages, follow host view digest query catalog moments requests 0 none =
            .ok (some pages) ∧
          pages.flatMap Page.entries =
            matchingAt host view query search (moments 0) catalog.entries ∧
          ∀ page ∈ pages,
            page.total = (matchingAt host view query search (moments 0)
              catalog.entries).length ∧
            PreparedQuery.Retains view query.anchorIds
              (matchingAt host view query search (moments 0) catalog.entries)
              page.retainThrough) ∧
    ∀ (first second : Query) (now later : Moment) (one two : PreparedQuery)
        (catalog other : Catalog Record) (page next : Page Record)
        (revision : String),
      first.prepare host now = .ok one → second.prepare host later = .ok two →
      one.page host view digest catalog = .ok page →
      two.page host view digest other = .ok next →
      first.cursorRevision = some revision →
      second.cursorRevision = some revision →
      (digest (one.fence view catalog) = digest (two.fence view other) →
        one.fence view catalog = two.fence view other) →
      (one.matching host view catalog = two.matching host view other ↔
        JudgedAlike host view first one.search catalog.entries now later) := by
  constructor
  · intro catalog query search limit moments fits accepted alike requests enough
    exact follow_shows accepted alike fits rfl (Nat.zero_le _) (by omega)
  · intro first second now later one two catalog other page next revision
      firstPrepared secondPrepared firstPage secondPage firstCursor secondCursor
      collisionFree
    have firstParts := prepare_eq_ok_iff.mp firstPrepared
    have secondParts := prepare_eq_ok_iff.mp secondPrepared
    rw [← firstParts.sameQuery] at firstCursor
    rw [← secondParts.sameQuery] at secondCursor
    have same := (revision_of_page firstPage firstCursor).symm.trans
      (revision_of_page secondPage secondCursor)
    rw [← firstParts.sameQuery, ← firstParts.sameNow, ← secondParts.sameNow]
    exact PreparedQuery.matching_eq_iff_of_fence tells
      (PreparedQuery.fence_of_revision collisionFree same)

/-! ## A change of the time zone -/

structure Run where
  id : String
  startedAt : Nat
deriving DecidableEq, Repr

def runs : RecordView Run where
  id := Run.id
  lane _ := "system"
  operation _ := "check-delayed"
  error _ := none
  startedAt := Run.startedAt
  components _ := "[]"
  members run := [("id", .str run.id), ("started_at", .nat run.startedAt)]

theorem runs_tell : Function.Injective runs.members := by
  intro first second same
  cases first
  cases second
  simp only [runs, List.cons.injEq, Prod.mk.injEq, true_and, and_true,
    Json.str.injEq, Json.nat.injEq] at same
  obtain ⟨rfl, rfl⟩ := same
  rfl

def plainHost : Host where
  lowercase text := text
  readDate _ := none
  validRunId _ := true
  debug text := text

def october (day : Nat) (valid : 1 ≤ day ∧ day ≤ 31) : NaiveDate :=
  ⟨2026, 10, day, NaiveDate.year_2026_valid, by decide, valid⟩

/-- The morning of the 25th of October, of which the start is known. -/
def onTheDay (midnight : Nat) : Moment where
  today := october 25 (by decide)
  dateOf seconds := some
    (if seconds < midnight then october 24 (by decide)
      else october 25 (by decide))

def amsterdam : Moment :=
  onTheDay 1792879200

def utc : Moment :=
  onTheDay 1792886400

def twoRuns : Catalog Run where
  entries := [⟨⟨"morning", 1792915200⟩, "current", "Up to date", none, none, []⟩,
    ⟨⟨"night", 1792881000⟩, "current", "Up to date", none, none, []⟩]
  available := true
  errors := []

def todays : Query where
  query := "today"
  cursor := none
  runId := none
  limit := some 1
  lane := none
  outcome := none
  anchorIds := []

def preparedAt (now : Moment) : PreparedQuery :=
  ⟨todays, ⟨[], [.on (october 25 (by decide))]⟩, 1, now⟩

theorem prepare_todays (midnight : Nat) :
    todays.prepare plainHost (onTheDay midnight) =
      .ok (preparedAt (onTheDay midnight)) :=
  rfl

/-- The page of one run that a request shows under some revision. -/
def shownPage (digest : Fence → U64) (total : Nat) (entries : List (Entry Run))
    (cursor : Option String) : Page Run where
  available := true
  revision := (preparedAt amsterdam).revision runs digest twoRuns
  total := total
  retainThrough := 0
  entries := entries
  cursor := cursor
  error := none

/-- Two runs of one day in Amsterdam are of two days in UTC. The cursor of the
first page is accepted after the time zone has changed, since the same is
hashed, and one run is never shown. -/
theorem zone_change_hides_run :
    (preparedAt amsterdam).fence runs twoRuns =
        (preparedAt utc).fence runs twoRuns ∧
      ∀ digest : Fence → U64, ∃ first second cursor,
        request plainHost runs digest todays amsterdam twoRuns = .ok first ∧
        first.cursor = some cursor ∧
        request plainHost runs digest { todays with cursor := some cursor } utc
          twoRuns = .ok second ∧
        second.revision = first.revision ∧
        first.entries = twoRuns.entries.take 1 ∧ first.total = 2 ∧
        second.entries = [] ∧ second.total = 1 ∧ second.cursor = none := by
  refine ⟨rfl, fun digest => ?_⟩
  let cursor := (preparedAt amsterdam).revision runs digest twoRuns ++ ":" ++
    String.ofList (Nat.toDigits 10 1)
  refine ⟨shownPage digest 2 (twoRuns.entries.take 1) (some cursor),
    shownPage digest 1 [] none, cursor, rfl, rfl, ?_, rfl, rfl, rfl, rfl, rfl,
    rfl⟩
  have read : { todays with cursor := some cursor }.offset
      ((preparedAt utc).revision runs digest twoRuns) = .ok 1 :=
    Query.offset_cursor todays _ (by decide)
  have prepared := prepare_cursor (prepare_todays 1792886400) (some cursor)
  exact bind_eq_ok_iff.mpr ⟨_, prepared, bind_eq_ok_iff.mpr ⟨1, read, rfl⟩⟩

def flat : Fence → U64 :=
  fun _ => ⟨0, by decide⟩

/-- The second page of the runs. -/
def continued : Query :=
  { todays with cursor := some "0000000000000000:1" }

def continuedAt (now : Moment) : PreparedQuery :=
  { preparedAt now with query := continued }

/-- Both runs are shown while the time zone stays, and the second page finds
the same runs in another one only if it judges them alike. -/
theorem history_pages_sample :
    (∃ pages, follow plainHost runs flat todays twoRuns (fun _ => amsterdam) 3 0
        none = .ok (some pages) ∧
      pages.flatMap Page.entries =
        matchingAt plainHost runs todays ⟨[], [.on (october 25 (by decide))]⟩
          amsterdam twoRuns.entries) ∧
    ((continuedAt amsterdam).matching plainHost runs twoRuns =
        (continuedAt utc).matching plainHost runs twoRuns ↔
      JudgedAlike plainHost runs continued
        ⟨[], [.on (october 25 (by decide))]⟩ twoRuns.entries amsterdam utc) := by
  have laws := history_pages plainHost runs flat runs_tell
  constructor
  · obtain ⟨pages, followed, entries, _⟩ := laws.1 twoRuns todays
      ⟨[], [.on (october 25 (by decide))]⟩ 1 (fun _ => amsterdam) (by decide)
      (fun _ => prepare_todays 1792879200) (fun _ _ _ _ _ => rfl) 3 (by decide)
    exact ⟨pages, followed, entries⟩
  · exact laws.2 continued continued amsterdam utc (continuedAt amsterdam)
      (continuedAt utc) twoRuns twoRuns _ _ "0000000000000000"
      (prepare_cursor (prepare_todays 1792879200) _)
      (prepare_cursor (prepare_todays 1792886400) _) rfl rfl rfl rfl
      (fun _ => rfl)

end BarDaemon.UpdateHistory
