import BarDaemon.NotificationTimeline
import BarDaemon.OrderedMaps

/-!
# Windows of the notification timeline

The buckets of a timeline divide its rows, the entries of a bucket stack all of
its rows, and the windows show each entry once.
-/

namespace BarDaemon.Notifications.Timelines

open KeyedStacks Std

/-! ## Buckets -/

theorem getElem?_bucketsBy (keyOf : Preview → String) (rows : List Preview)
    (key : String) :
    (bucketsBy keyOf rows)[key]? =
      let part := rows.filter fun row => keyOf row = key
      if part = [] then none else some part := by
  induction rows using List.reverseRecOn with
  | nil => simp [bucketsBy]
  | append_singleton rows row ih =>
      dsimp only at ih ⊢
      rw [bucketsBy, List.foldl_append, ← bucketsBy, List.foldl_cons,
        List.foldl_nil, ExtTreeMap.getElem?_alter, List.filter_append]
      by_cases same : keyOf row = key
      · subst same
        rw [ih]
        by_cases none : (rows.filter fun other => keyOf other = keyOf row) = []
        · simp [none]
        · simp [none]
      · simp [same, ih]

/-- The rows of a bucket, which may be empty. -/
theorem bucket_eq (keyOf : Preview → String) (rows : List Preview)
    (key : String) :
    (bucketsBy keyOf rows)[key]?.getD [] =
      rows.filter fun row => keyOf row = key := by
  rw [getElem?_bucketsBy]
  dsimp only
  split
  · rename_i none
    rw [none]
    rfl
  · rfl

/-- Each row belongs to one bucket, which counts it. -/
structure Partitioned (keyOf : Preview → String) (rows : List Preview)
    (dates : List DateBucket) : Prop where
  distinct : (dates.map DateBucket.key).Nodup
  covers : ∀ row ∈ rows, keyOf row ∈ dates.map DateBucket.key
  counts : ∀ bucket ∈ dates,
    bucket.count = (rows.filter fun row => keyOf row = bucket.key).length

theorem period_mem (zone : Nat → Option NaiveDate) (created : Nat)
    (today : NaiveDate) : period zone created today ∈ periods := by
  unfold period
  split
  · decide
  · dsimp only
    split_ifs <;> decide

theorem periodBuckets_partitioned (keyOf : Preview → String)
    (rows : List Preview) (within : ∀ row ∈ rows, keyOf row ∈ periods) :
    Partitioned keyOf rows (periods.map fun key =>
      ⟨key, ((bucketsBy keyOf rows)[key]?.map List.length).getD 0⟩) := by
  constructor
  · rw [List.map_map]
    change (periods.map id).Nodup
    decide
  · intro row among
    rw [List.map_map]
    exact List.mem_map_of_mem (within row among)
  · intro bucket among
    obtain ⟨key, _, rfl⟩ := List.mem_map.mp among
    rw [← bucket_eq]
    cases (bucketsBy keyOf rows)[key]? <;> rfl

theorem dayBuckets_partitioned (keyOf : Preview → String)
    (rows : List Preview) :
    Partitioned keyOf rows ((bucketsBy keyOf rows).toList.reverse.map
      fun (key, rows) => ⟨key, rows.length⟩) := by
  have keys : ((bucketsBy keyOf rows).toList.reverse.map
      fun (key, rows) => (⟨key, rows.length⟩ : DateBucket)).map DateBucket.key =
        (bucketsBy keyOf rows).keys.reverse := by
    rw [List.map_map, ← ExtTreeMap.map_fst_toList_eq_keys, List.map_reverse]
    rfl
  constructor
  · rw [keys, List.nodup_reverse]
    exact OrderedMaps.nodup_keys _
  · intro row among
    have part : (rows.filter fun other => keyOf other = keyOf row) ≠ [] := by
      apply List.ne_nil_of_mem
      exact List.mem_filter.mpr ⟨among, decide_eq_true rfl⟩
    rw [keys, List.mem_reverse, ExtTreeMap.mem_keys,
      ExtTreeMap.mem_iff_isSome_getElem?, getElem?_bucketsBy]
    dsimp only
    rw [if_neg part]
    rfl
  · intro bucket among
    obtain ⟨⟨key, part⟩, found, rfl⟩ := List.mem_map.mp among
    have held := ExtTreeMap.mem_toList_iff_getElem?_eq_some.mp
      (List.mem_reverse.mp found)
    rw [← bucket_eq, held]
    rfl

theorem dateBuckets_partitioned (zone : Nat → Option NaiveDate)
    (query : CenterQuery) (today : NaiveDate) (rows : List Preview) :
    Partitioned (bucketKey zone query today) rows
      (dateBuckets query (bucketsBy (bucketKey zone query today) rows)) := by
  cases periodic : query.periodGroups with
  | true =>
      rw [dateBuckets, if_pos periodic]
      apply periodBuckets_partitioned
      intro row _
      rw [bucketKey, if_pos periodic]
      exact period_mem zone _ today
  | false =>
      rw [dateBuckets, if_neg (by rw [periodic]; decide)]
      exact dayBuckets_partitioned _ rows

/-! ## Stacks -/

section Stacks

variable {zone : Nat → Option NaiveDate} {groupSimilar : Bool}

/-- What rows of one stack have in common. -/
def stackKey (zone : Nat → Option NaiveDate) (groupSimilar : Bool)
    (row : Preview) : Option (String × RepeatKey) :=
  if groupSimilar then
    row.repeatKey.map fun key => (date zone row.createdUnixMs, key)
  else none

/-- A row as it is shown. -/
def shown (groupSimilar : Bool) (row : Preview) : Preview :=
  if groupSimilar then { row with repeatKey := none } else row

def entryOfStack (groupSimilar : Bool) (stack : Stack Preview) :
    TimelineEntry :=
  { entryOf (shown groupSimilar stack.first) with
    members := stack.members.map positionOf }

/-- The entries are those of the stacks. -/
def Stacking.Of (groupSimilar : Bool) (state : Stacking)
    (piles : Stacks Preview (String × RepeatKey)) : Prop :=
  state.entries = piles.begun.map (entryOfStack groupSimilar) ∧
    state.last = piles.newest

theorem entryOfStack_begin (begun : List (Stack Preview)) (row : Preview) :
    begun.map (entryOfStack groupSimilar) ++
        [entryOf (shown groupSimilar row)] =
      (begun ++ [(⟨row, []⟩ : Stack Preview)]).map
        (entryOfStack groupSimilar) := by
  rw [List.map_append, List.map_singleton]
  cases groupSimilar <;> rfl

theorem entryOfStack_push (begun : List (Stack Preview)) (index : Nat)
    (row : Preview) :
    (begun.map (entryOfStack groupSimilar)).modify index (fun entry =>
        { entry with members := entry.members ++ [positionOf row] }) =
      (begun.modify index (·.push row)).map (entryOfStack groupSimilar) := by
  induction begun generalizing index with
  | nil => simp
  | cons stack begun ih =>
      cases index with
      | zero =>
          simp only [List.map_cons, List.modify_zero_cons, List.cons.injEq,
            and_true]
          simp [entryOfStack, Stack.push, Stack.members]
      | succ index =>
          simp only [List.map_cons, List.modify_succ_cons, ih]

/-- A stack has room when its entry has. -/
theorem open?_eq (begun : List (Stack Preview))
    (newest : List ((String × RepeatKey) × Nat)) (key : String × RepeatKey) :
    ((newest.lookup key).filter fun index =>
        (begun.map (entryOfStack groupSimilar))[index]?.any fun entry =>
          entry.members.length < stackLimit) =
      (⟨begun, newest⟩ : Stacks Preview (String × RepeatKey)).open?
        stackLimit key := by
  unfold Stacks.open?
  dsimp only
  congr 1
  funext index
  rw [List.getElem?_map, Option.any_map]
  congr 1
  funext stack
  simp [entryOfStack]

theorem stackRow_of {state : Stacking}
    {piles : Stacks Preview (String × RepeatKey)}
    (same : state.Of groupSimilar piles) (row : Preview) :
    (stackRow zone groupSimilar state row).Of groupSimilar
      (place (stackKey zone groupSimilar) stackLimit piles row) := by
  obtain ⟨entries, last⟩ := state
  obtain ⟨begun, newest⟩ := piles
  obtain ⟨entries_eq, last_eq⟩ := same
  dsimp only at entries_eq last_eq
  subst entries_eq last_eq
  rw [stackRow, place, stackKey]
  cases groupSimilar with
  | false => exact ⟨entryOfStack_begin begun row, rfl⟩
  | true =>
      cases repeats : row.repeatKey with
      | none =>
          rw [if_pos rfl, if_pos rfl]
          exact ⟨@entryOfStack_begin true begun row, rfl⟩
      | some key =>
          rw [if_pos rfl, if_pos rfl, Option.map_some]
          dsimp only
          rw [open?_eq]
          cases Stacks.open? stackLimit ⟨begun, last⟩
              (date zone row.createdUnixMs, key) with
          | some index => exact ⟨entryOfStack_push begun index row, rfl⟩
          | none =>
              constructor
              · exact @entryOfStack_begin true begun row
              · dsimp only
                rw [List.length_map]

theorem stack_eq (rows : List Preview) :
    stack zone groupSimilar rows =
      (placeAll (stackKey zone groupSimilar) stackLimit rows).begun.map
        (entryOfStack groupSimilar) := by
  have all : Stacking.Of groupSimilar
      (rows.foldl (stackRow zone groupSimilar) ⟨[], []⟩)
      (placeAll (stackKey zone groupSimilar) stackLimit rows) := by
    induction rows using List.reverseRecOn with
    | nil => exact ⟨rfl, rfl⟩
    | append_singleton rows row ih =>
        rw [placeAll, List.foldl_append, List.foldl_append]
        exact stackRow_of ih row
  exact all.1

/-- Instants with the same date text have the same local date. -/
theorem localDate_eq {first second : Nat}
    (same : date zone first = date zone second) :
    localDate zone first = localDate zone second := by
  unfold date at same
  cases left : localDate zone first with
  | none =>
      cases right : localDate zone second with
      | none => rfl
      | some day =>
          rw [left, right] at same
          exact absurd same.symm day.text_ne_empty
  | some day =>
      cases right : localDate zone second with
      | none =>
          rw [left, right] at same
          exact absurd same day.text_ne_empty
      | some other =>
          rw [left, right] at same
          rw [NaiveDate.text_injective same]

/-- Entries that stack all rows, in the order of their first ones. -/
structure Stacked (zone : Nat → Option NaiveDate) (groupSimilar : Bool)
    (rows : List Preview) (entries : List TimelineEntry) : Prop where
  intro ::
  found : ∃ piles : List (Stack Preview),
    entries = piles.map (entryOfStack groupSimilar) ∧
    (piles.flatMap Stack.members).Perm rows ∧
    (piles.map Stack.first).Sublist rows ∧
    ∀ stack ∈ piles, stack.members.Sublist rows ∧
      stack.members.length ≤ stackLimit ∧
      ∀ first ∈ stack.members, ∀ second ∈ stack.members,
        localDate zone first.createdUnixMs =
            localDate zone second.createdUnixMs ∧
          first.repeatKey = second.repeatKey

theorem alike_of_stackKey {first second : Preview} {key : String × RepeatKey}
    (left : stackKey zone groupSimilar first = some key)
    (right : stackKey zone groupSimilar second = some key) :
    localDate zone first.createdUnixMs = localDate zone second.createdUnixMs ∧
      first.repeatKey = second.repeatKey := by
  cases groupSimilar with
  | false => cases left
  | true =>
      obtain ⟨repeats, found, rfl⟩ := Option.map_eq_some_iff.mp left
      obtain ⟨_, found', equal⟩ := Option.map_eq_some_iff.mp right
      obtain ⟨days, rfl⟩ := Prod.mk.inj equal
      exact ⟨localDate_eq days.symm, found.trans found'.symm⟩

theorem stack_stacked (rows : List Preview) :
    Stacked zone groupSimilar rows (stack zone groupSimilar rows) := by
  have sound : (placeAll (stackKey zone groupSimilar) stackLimit rows).Sound
      (stackKey zone groupSimilar) stackLimit rows :=
    placeAll_sound (by decide) rows
  refine ⟨⟨_, stack_eq rows, sound.complete, sound.firsts, ?_⟩⟩
  intro stack among
  obtain ⟨inOrder, bounded, alike⟩ := sound.each stack among
  refine ⟨inOrder, bounded, ?_⟩
  intro first isFirst second isSecond
  by_cases single : stack.rest = []
  · have only : stack.members = [stack.first] := by rw [Stack.members, single]
    rw [only] at isFirst isSecond
    rw [List.mem_singleton.mp isFirst, List.mem_singleton.mp isSecond]
    exact ⟨rfl, rfl⟩
  · obtain ⟨key, each⟩ := alike single
    exact alike_of_stackKey (each first isFirst) (each second isSecond)

end Stacks

/-! ## Windows -/

section Windows

variable {zone : Nat → Option NaiveDate} {rows : List Preview}
  {query : CenterQuery} {epoch : String} {revision : Nat} {today : NaiveDate}

/-- The rows above the buckets. -/
def recentRows (query : CenterQuery) (rows : List Preview) : List Preview :=
  if query.periodGroups then rows.take 3 else []

def otherRows (query : CenterQuery) (rows : List Preview) : List Preview :=
  if query.periodGroups then rows.drop 3 else rows

/-- The bucket that a query shows. -/
def shownDate (zone : Nat → Option NaiveDate) (rows : List Preview)
    (query : CenterQuery) (today : NaiveDate) : String :=
  let buckets := bucketsBy (bucketKey zone query today) (otherRows query rows)
  selectedDate query buckets (dateBuckets query buckets)

def shownRows (zone : Nat → Option NaiveDate) (rows : List Preview)
    (query : CenterQuery) (today : NaiveDate) : List Preview :=
  (otherRows query rows).filter fun row =>
    bucketKey zone query today row = shownDate zone rows query today

def shownEntries (zone : Nat → Option NaiveDate) (rows : List Preview)
    (query : CenterQuery) (today : NaiveDate) : List TimelineEntry :=
  stack zone query.groupSimilar (shownRows zone rows query today)

/-- A window that continues another one is of the same day. -/
def Continues (query : CenterQuery) (today : NaiveDate) : Prop :=
  query.periodGroups = true → 0 < query.offset →
    query.periodDay = some today.text

/-- What a page shows. -/
structure Page (zone : Nat → Option NaiveDate) (rows : List Preview)
    (query : CenterQuery) (today : NaiveDate) (page : Timeline) : Prop where
  recent : page.recent =
    if query.periodGroups then some (recentRows query rows) else none
  dates : page.dates = dateBuckets query
    (bucketsBy (bucketKey zone query today) (otherRows query rows))
  date : page.date = shownDate zone rows query today
  count : page.count = (shownRows zone rows query today).length
  totalRows : page.totalRows = (shownEntries zone rows query today).length
  periodDay : query.periodGroups = true → page.periodDay = today.text
  entries : page.entries =
    ((shownEntries zone rows query today).drop query.offset).take window
  nextOffset : page.nextOffset =
    if query.offset + window < (shownEntries zone rows query today).length then
      some (query.offset + window)
    else none

theorem stale_iff :
    (query.periodGroups && 0 < query.offset &&
      query.periodDay != some (if query.periodGroups then today.text else "")) =
        true ↔ ¬Continues query today := by
  simp only [Bool.and_eq_true, decide_eq_true_eq, bne_iff_ne, Continues]
  constructor
  · rintro ⟨⟨periodic, later⟩, other⟩ continues
    rw [if_pos periodic] at other
    exact other (continues periodic later)
  · intro stale
    simp only [not_forall] at stale
    obtain ⟨periodic, later, other⟩ := stale
    exact ⟨⟨periodic, later⟩, by rwa [if_pos periodic]⟩

/-- The offset of the next window, when there is one. -/
def nextOffset (offset total : Nat) : Option Nat :=
  if min (offset + window) total < total then some (min (offset + window) total)
  else none

theorem nextOffset_eq (offset total : Nat) :
    nextOffset offset total =
      if offset + window < total then some (offset + window) else none := by
  unfold nextOffset
  by_cases more : offset + window < total
  · rw [min_eq_left more.le]
  · rw [min_eq_right (by omega), if_neg (by omega), if_neg more]

theorem projectAt_page {page : Timeline}
    (projected : projectAt zone rows query epoch revision today = .ok page) :
    Page zone rows query today page := by
  have bucket := bucket_eq (bucketKey zone query today) (otherRows query rows)
    (shownDate zone rows query today)
  rw [projectAt] at projected
  dsimp only at projected
  by_cases continues : Continues query today
  · rw [if_neg fun stale => stale_iff.mp stale continues] at projected
    cases projected
    constructor
    · dsimp only [recentRows]
      split <;> rfl
    · rfl
    · rfl
    · exact congrArg List.length bucket
    · exact congrArg (fun rows => (stack zone query.groupSimilar rows).length)
        bucket
    · exact fun periodic => if_pos periodic
    · exact congrArg (fun rows => ((stack zone query.groupSimilar rows).drop
        query.offset).take window) bucket
    · have same := congrArg (fun rows => nextOffset query.offset
        (stack zone query.groupSimilar rows).length) bucket
      exact same.trans (nextOffset_eq _ _)
  · rw [if_pos (stale_iff.mpr continues)] at projected
    cases projected

theorem projectAt_of_continues (continues : Continues query today) :
    ∃ page, projectAt zone rows query epoch revision today = .ok page := by
  rw [projectAt]
  dsimp only
  rw [if_neg (fun stale => stale_iff.mp stale continues)]
  exact ⟨_, rfl⟩

/-- The windows from a query on, by their next offsets. -/
inductive Windows (zone : Nat → Option NaiveDate) (rows : List Preview)
    (epoch : String) (revision : Nat) (today : NaiveDate) :
    CenterQuery → List TimelineEntry → Prop
  | last {query page} :
      projectAt zone rows query epoch revision today = .ok page →
      page.nextOffset = none →
      Windows zone rows epoch revision today query page.entries
  | next {query page offset later} :
      projectAt zone rows query epoch revision today = .ok page →
      page.nextOffset = some offset →
      Windows zone rows epoch revision today
        { query with
          offset
          periodDay := some page.periodDay } later →
      Windows zone rows epoch revision today query (page.entries ++ later)

/-- The next query shows the same entries. -/
theorem shownEntries_next (offset : Nat) (periodDay : Option String) :
    shownEntries zone rows
      { query with
        offset
        periodDay } today = shownEntries zone rows query today :=
  rfl

theorem windows_shown {entries : List TimelineEntry}
    (windows : Windows zone rows epoch revision today query entries) :
    entries = (shownEntries zone rows query today).drop query.offset := by
  induction windows with
  | last projected last =>
      have page := projectAt_page projected
      rw [page.nextOffset] at last
      rw [page.entries]
      apply List.take_of_length_le
      rw [List.length_drop]
      split at last
      · cases last
      · omega
  | next projected next _ ih =>
      have page := projectAt_page projected
      rw [page.nextOffset] at next
      split at next
      · cases next
        rw [ih, shownEntries_next, page.entries]
        dsimp only
        rw [← List.drop_drop, List.take_append_drop]
      · cases next

theorem windows_of_continues (continues : Continues query today) :
    Windows zone rows epoch revision today query
      ((shownEntries zone rows query today).drop query.offset) := by
  induction left : (shownEntries zone rows query today).length - query.offset
    using Nat.strongRecOn generalizing query with
  | ind left ih =>
      obtain ⟨page, projected⟩ : ∃ page,
          projectAt zone rows query epoch revision today = .ok page :=
        projectAt_of_continues continues
      have shown := projectAt_page projected
      by_cases more : query.offset + window <
          (shownEntries zone rows query today).length
      · have next := shown.nextOffset
        rw [if_pos more] at next
        have positive : 0 < window := by decide
        have onwards := @ih _ (by
          rw [shownEntries_next]
          dsimp only
          omega)
          { query with
            offset := query.offset + window
            periodDay := some page.periodDay }
          (fun periodic _ => congrArg some (shown.periodDay periodic)) rfl
        have windows := Windows.next projected next onwards
        rw [windows_shown windows] at windows
        exact windows
      · have last := shown.nextOffset
        rw [if_neg more] at last
        have windows := Windows.last projected last
        rw [windows_shown windows] at windows
        exact windows

theorem recentRows_append (query : CenterQuery) (rows : List Preview) :
    recentRows query rows ++ otherRows query rows = rows := by
  unfold recentRows otherRows
  split
  · exact List.take_append_drop 3 rows
  · rfl

/-- The recent rows and the buckets divide the rows, the entries stack the rows
of the bucket that is shown, and the windows from the first on show each entry
once. -/
theorem timeline_divides_rows (zone : Nat → Option NaiveDate)
    (rows : List Preview) (query : CenterQuery) (epoch : String)
    (revision : Nat) (today : NaiveDate) :
    recentRows query rows ++ otherRows query rows = rows ∧
    (∀ page, projectAt zone rows query epoch revision today = .ok page →
      page.recent =
        (if query.periodGroups then some (recentRows query rows) else none) ∧
      Partitioned (bucketKey zone query today) (otherRows query rows)
        page.dates ∧
      page.date = shownDate zone rows query today ∧
      page.count = (shownRows zone rows query today).length) ∧
    Stacked zone query.groupSimilar (shownRows zone rows query today)
      (shownEntries zone rows query today) ∧
    ∀ entries, Windows zone rows epoch revision today
        { query with offset := 0 } entries ↔
      entries = shownEntries zone rows query today := by
  refine ⟨recentRows_append query rows, ?_, stack_stacked _, ?_⟩
  · intro page projected
    have shows := projectAt_page projected
    refine ⟨shows.recent, ?_, shows.date, shows.count⟩
    rw [shows.dates]
    exact dateBuckets_partitioned zone query today _
  · intro entries
    constructor
    · exact fun windows => windows_shown windows
    · rintro rfl
      apply windows_of_continues
      intro _ never
      exact absurd never (Nat.lt_irrefl 0)

end Windows

end BarDaemon.Notifications.Timelines
