import BarDaemon.NotificationArchives

/-!
# Reading an archive back

The candidates and records that are read from the tables of an archive are the
previews and records of its notifications.
-/

namespace BarDaemon.Notifications

open FallibleSteps RelationalRows Std

variable {lookups : Lookups} {archive : Archive}
  {tables : NotificationTables}

/-! ### Candidates -/

/-- The keys in the search scope, the newest first. -/
def NotificationTables.newest (tables : NotificationTables) : List Nat :=
  tables.notifications.keys.reverse.take History.scopeLimit

theorem Represents.mem_iff (represents : Represents lookups archive tables)
    (id : Nat) : id ∈ tables.notifications ↔ (archive id).isSome := by
  rw [ExtTreeMap.mem_iff_isSome_getElem?]
  cases found : archive id with
  | none => simp [represents.absent id found]
  | some kept =>
      obtain ⟨row, listed, -⟩ := represents.rows id kept found
      simp [listed]

/-- Each preview is that of the notification with its key. -/
theorem Represents.readCandidates
    (represents : Represents lookups archive tables) (query : String) :
    readCandidates tables query = .ok (tables.newest.filterMap fun id =>
      (archive id).map (·.preview lookups id query)) := by
  have each : ∀ entry ∈ tables.notifications.toList.reverse.take
      History.scopeLimit,
      ∃ kept, archive entry.1 = some kept ∧
        decodeCandidate (candidateCells entry.1 entry.2
          tables.previews[entry.1]? query) =
            .ok (kept.preview lookups entry.1 query) := by
    rintro ⟨id, row⟩ member
    have listed := ExtTreeMap.mem_toList_iff_getElem?_eq_some.mp
      (List.mem_reverse.mp (List.mem_of_mem_take member))
    obtain ⟨kept, found, holds⟩ := represents.row listed
    refine ⟨kept, found, ?_⟩
    rw [represents.previews, found]
    exact holds.decodeCandidate (represents.fits id kept found)
      (kept.previewRow_select lookups id) query
  unfold Notifications.readCandidates NotificationTables.newest
  rw [← ExtTreeMap.map_fst_toList_eq_keys, ← List.map_reverse,
    ← List.map_take]
  generalize tables.notifications.toList.reverse.take History.scopeLimit =
    entries at each
  induction entries with
  | nil => rfl
  | cons entry entries ih =>
      obtain ⟨kept, found, decoded⟩ := each entry (List.mem_cons_self ..)
      have rest := ih fun other member =>
        each other (List.mem_cons_of_mem _ member)
      rw [List.mapM_cons, decoded, ok_bind, rest, ok_bind, List.map_cons,
        List.filterMap_cons, found]
      rfl

/-! ### Records -/

/-- The records of the listed keys that are found. -/
theorem decodeRecords_ok {decoded : Nat → Option HistoryNotification}
    {entries : List (Nat × Row)}
    (each : ∀ entry ∈ entries, ∃ record, decoded entry.1 = some record ∧
      record.historyId = entry.1 ∧
      decodeRecord (recordCells entry.1 entry.2) = .ok record)
    (start : ExtTreeMap Nat HistoryNotification) :
    ∃ records, decodeRecords entries start = .ok records ∧
      ∀ id : Nat, records[id]? =
        if id ∈ entries.map Prod.fst then decoded id else start[id]? := by
  induction entries generalizing start with
  | nil => exact ⟨start, rfl, fun _ => rfl⟩
  | cons entry entries ih =>
      obtain ⟨record, known, same, read⟩ := each entry (List.mem_cons_self ..)
      obtain ⟨records, done, found⟩ := ih (fun other member =>
        each other (List.mem_cons_of_mem _ member))
        (start.insert record.historyId record)
      refine ⟨records, ?_, ?_⟩
      · rw [decodeRecords, read, ok_bind, done]
      · intro id
        rw [found, same]
        by_cases first : id = entry.1
        · subst first
          simp [known]
        · simp only [ExtTreeMap.getElem?_insert, List.map_cons, List.mem_cons,
            first, false_or]
          simp [Ne.symm first]

def HistoryNotification.addAll {Value : Type}
    (add : ActiveNotification → Value → ActiveNotification)
    (values : List Value) (record : HistoryNotification) :
    HistoryNotification :=
  { record with notification := values.foldl add record.notification }

/-- Rows that all have an owner are given to it in their order. -/
theorem attach_ok {Value : Type} (orphan : String)
    (add : ActiveNotification → Value → ActiveNotification)
    {rows : List (ChildRow Value)}
    {records : ExtTreeMap Nat HistoryNotification}
    (owned : ∀ row ∈ rows, row.owner ∈ records) :
    ∃ attached, attach orphan add rows records = .ok attached ∧
      ∀ id : Nat, attached[id]? = records[id]?.map
        (HistoryNotification.addAll add
          ((ChildRow.ofOwner rows id).map ChildRow.value)) := by
  induction rows generalizing records with
  | nil =>
      refine ⟨records, rfl, ?_⟩
      intro id
      cases records[id]? <;> rfl
  | cons row rows ih =>
      obtain ⟨record, present⟩ := Option.isSome_iff_exists.mp
        (ExtTreeMap.mem_iff_isSome_getElem?.mp
          (owned row (List.mem_cons_self ..)))
      have others : ∀ other ∈ rows, other.owner ∈ records.insert row.owner
          { record with
            notification := add record.notification row.value } :=
        fun other member => ExtTreeMap.mem_insert.mpr
          (.inr (owned other (List.mem_cons_of_mem _ member)))
      obtain ⟨attached, done, found⟩ := ih others
      refine ⟨attached, ?_, ?_⟩
      · rw [attach, present]
        exact done
      · intro id
        rw [found]
        by_cases same : row.owner = id
        · subst same
          simp [present, ChildRow.ofOwner, HistoryNotification.addAll]
        · simp [ExtTreeMap.getElem?_insert, same, ChildRow.ofOwner]

theorem foldl_pushAction (item : ActiveNotification)
    (actions : List NotificationAction) :
    actions.foldl pushAction item =
      { item with actions := item.actions ++ actions } := by
  induction actions generalizing item with
  | nil => simp
  | cons action actions ih => simp [ih, pushAction]

theorem foldl_pushContextAction (item : ActiveNotification)
    (actions : List ContextAction) :
    actions.foldl pushContextAction item =
      { item with contextActions := item.contextActions ++ actions } := by
  induction actions generalizing item with
  | nil => simp
  | cons action actions ih => simp [ih, pushContextAction]

/-- A record as it is before its child rows are read. -/
def KeptNotification.bareRecord (kept : KeptNotification) (id : Nat) :
    HistoryNotification :=
  { kept.record id with notification := kept.item.bare }

theorem KeptNotification.addAll_bareRecord (kept : KeptNotification)
    (id : Nat) :
    ((kept.bareRecord id).addAll pushAction kept.item.actions).addAll
      pushContextAction kept.item.contextActions = kept.record id := by
  unfold HistoryNotification.addAll bareRecord
  rw [foldl_pushAction, foldl_pushContextAction]
  rfl

namespace Represents

/-- The content of the rows of some keys. -/
theorem decodeRecords (represents : Represents lookups archive tables)
    (ids : List Nat) :
    ∃ records, decodeRecords
        (tables.notifications.toList.filter (ids.contains ·.1)) ∅ =
          .ok records ∧
      ∀ id : Nat, records[id]? =
        if id ∈ ids then (archive id).map (·.bareRecord id) else none := by
  have each : ∀ entry ∈ tables.notifications.toList.filter
      (ids.contains ·.1), ∃ record,
      (archive entry.1).map (·.bareRecord entry.1) = some record ∧
      record.historyId = entry.1 ∧
      decodeRecord (recordCells entry.1 entry.2) = .ok record := by
    rintro ⟨id, row⟩ member
    have listed := ExtTreeMap.mem_toList_iff_getElem?_eq_some.mp
      (List.mem_filter.mp member).1
    obtain ⟨kept, found, holds⟩ := represents.row listed
    refine ⟨_, congrArg _ found, rfl, ?_⟩
    exact holds.decodeRecord (represents.fits id kept found)
  obtain ⟨records, decoded, read⟩ := @decodeRecords_ok
    (fun id => (archive id).map (·.bareRecord id)) _ each ∅
  refine ⟨records, decoded, ?_⟩
  intro id
  rw [read]
  by_cases wanted : id ∈ ids
  · rw [if_pos wanted]
    split
    · rfl
    · rename_i unlisted
      cases found : archive id with
      | none => exact ExtTreeMap.getElem?_empty
      | some kept =>
          obtain ⟨row, listed, -⟩ := represents.rows id kept found
          apply absurd _ unlisted
          exact List.mem_map.mpr ⟨(id, row), List.mem_filter.mpr
            ⟨ExtTreeMap.mem_toList_iff_getElem?_eq_some.mpr listed,
              List.contains_iff_mem.mpr wanted⟩, rfl⟩
  · rw [if_neg wanted, if_neg]
    · exact ExtTreeMap.getElem?_empty
    · intro member
      obtain ⟨entry, chosen, rfl⟩ := List.mem_map.mp member
      exact wanted (List.contains_iff_mem.mp (List.mem_filter.mp chosen).2)

/-- The records of a chunk are those of the archive; only a key that is gone
or a record that is too large is refused. -/
theorem recordChunk (represents : Represents lookups archive tables)
    (ids : List Nat) :
    ∃ records : ExtTreeMap Nat HistoryNotification,
      recordChunk tables ids = takeRecords ids records ∧
      ∀ id : Nat, records[id]? =
        if id ∈ ids then (archive id).map (·.record id) else none := by
  obtain ⟨bare, decoded, bareAt⟩ := represents.decodeRecords ids
  obtain ⟨actionsOwned, actionsRead⟩ :=
    ChildRow.chunk represents.actions ids
  obtain ⟨contextOwned, contextRead⟩ :=
    ChildRow.chunk represents.contextActions ids
  have actionOwners : ∀ row ∈ ChildRow.ordered
      (tables.actions.filter (ids.contains ·.owner)), row.owner ∈ bare := by
    intro row member
    obtain ⟨wanted, some⟩ := actionsOwned row member
    rw [ExtTreeMap.mem_iff_isSome_getElem?, bareAt, if_pos wanted]
    unfold Archive.actions at some
    cases found : archive row.owner with
    | none => simp [found] at some
    | some kept => rfl
  obtain ⟨acted, actedDone, actedAt⟩ :=
    attach_ok orphanAction pushAction actionOwners
  have contextOwners : ∀ row ∈ ChildRow.ordered
      (tables.contextActions.filter (ids.contains ·.owner)),
      row.owner ∈ acted := by
    intro row member
    obtain ⟨wanted, some⟩ := contextOwned row member
    rw [ExtTreeMap.mem_iff_isSome_getElem?, actedAt, bareAt, if_pos wanted]
    unfold Archive.contextActions at some
    cases found : archive row.owner with
    | none => simp [found] at some
    | some kept => rfl
  obtain ⟨records, recordsDone, recordsAt⟩ :=
    attach_ok orphanContextAction pushContextAction contextOwners
  refine ⟨records, ?_, ?_⟩
  · unfold Notifications.recordChunk
    rw [decoded, ok_bind, actedDone, ok_bind, recordsDone, ok_bind]
  · intro id
    rw [recordsAt, actedAt, bareAt]
    by_cases wanted : id ∈ ids
    · rw [if_pos wanted, if_pos wanted, actionsRead id wanted,
        contextRead id wanted]
      unfold Archive.actions Archive.contextActions
      cases archive id with
      | none => rfl
      | some kept =>
          exact congrArg some (kept.addAll_bareRecord id)
    · rw [if_neg wanted, if_neg wanted]
      rfl

end Represents

/-! ### Chunks -/

/-- Only a missing key and a size are refused. -/
theorem takeRecords_error {ids : List Nat}
    {records : ExtTreeMap Nat HistoryNotification} {error : String}
    (refused : takeRecords ids records = .error error) :
    error = notRetained ∨ error = History.byteLimitError := by
  induction ids generalizing records with
  | nil => cases refused
  | cons id ids ih =>
      unfold takeRecords at refused
      split at refused
      · cases refused
        exact .inl rfl
      · cases sized : FallibleSteps.ensure (decide (_ ≤ History.pageBytes))
          History.byteLimitError with
        | error first =>
            rw [sized] at refused
            cases refused
            unfold FallibleSteps.ensure at sized
            split at sized
            · cases sized
            · cases sized
              exact .inr rfl
        | ok _ =>
            rw [sized, ok_bind] at refused
            cases rest : takeRecords ids (records.erase id) with
            | error first =>
                rw [rest] at refused
                cases refused
                exact ih rest
            | ok list =>
                rw [rest] at refused
                cases refused

/-- What has been taken was there. -/
theorem takeRecords_ok {ids : List Nat}
    {records : ExtTreeMap Nat HistoryNotification}
    {taken : List HistoryNotification}
    (done : takeRecords ids records = .ok taken) :
    ∀ record ∈ taken, ∃ id : Nat, records[id]? = some record := by
  induction ids generalizing records taken with
  | nil =>
      cases done
      exact fun _ never => nomatch never
  | cons id ids ih =>
      unfold takeRecords at done
      split at done
      · cases done
      · rename_i record found
        obtain ⟨_, -, rest⟩ := bind_eq_ok_iff.mp done
        obtain ⟨others, taken, last⟩ := bind_eq_ok_iff.mp rest
        cases last
        intro other member
        rcases List.mem_cons.mp member with rfl | later
        · exact ⟨id, found⟩
        · obtain ⟨key, kept⟩ := ih taken other later
          refine ⟨key, ?_⟩
          rw [ExtTreeMap.getElem?_erase] at kept
          split at kept
          · cases kept
          · exact kept

/-- A chunk that is refused refuses the whole. -/
theorem mapM_error {Value Other Error : Type}
    {step : Value → Except Error Other} {values : List Value} {error : Error}
    (refused : values.mapM step = .error error) :
    ∃ value ∈ values, step value = .error error := by
  induction values with
  | nil => cases refused
  | cons value values ih =>
      rw [List.mapM_cons] at refused
      cases first : step value with
      | error other =>
          rw [first] at refused
          cases refused
          exact ⟨value, List.mem_cons_self .., first⟩
      | ok other =>
          rw [first, ok_bind] at refused
          cases rest : values.mapM step with
          | error other =>
              rw [rest] at refused
              cases refused
              obtain ⟨later, member, failed⟩ := ih rest
              exact ⟨later, List.mem_cons_of_mem _ member, failed⟩
          | ok others =>
              rw [rest] at refused
              cases refused

theorem mapM_ok {Value Other Error : Type} {step : Value → Except Error Other}
    {values : List Value} {results : List Other}
    (done : values.mapM step = .ok results) :
    ∀ result ∈ results, ∃ value ∈ values, step value = .ok result := by
  induction values generalizing results with
  | nil =>
      cases done
      exact fun _ never => nomatch never
  | cons value values ih =>
      rw [List.mapM_cons] at done
      obtain ⟨first, stepped, rest⟩ := bind_eq_ok_iff.mp done
      obtain ⟨others, mapped, last⟩ := bind_eq_ok_iff.mp rest
      cases last
      intro result member
      rcases List.mem_cons.mp member with rfl | later
      · exact ⟨value, List.mem_cons_self .., stepped⟩
      · obtain ⟨other, among, same⟩ := ih mapped result later
        exact ⟨other, List.mem_cons_of_mem _ among, same⟩

namespace Represents

theorem records_error (represents : Represents lookups archive tables)
    {ids : List Nat} {error : String}
    (refused : records tables ids = .error error) :
    error = notRetained ∨ error = History.byteLimitError := by
  unfold records at refused
  cases chunks : (ids.toChunks (History.maxPage + 1)).mapM
      (Notifications.recordChunk tables) with
  | error first =>
      rw [chunks] at refused
      cases refused
      obtain ⟨chunk, -, failed⟩ := mapM_error chunks
      obtain ⟨found, read, -⟩ := represents.recordChunk chunk
      rw [read] at failed
      exact takeRecords_error failed
  | ok results =>
      rw [chunks] at refused
      cases refused

/-- Each record that is read is that of the notification with its key. -/
theorem records_ok (represents : Represents lookups archive tables)
    {ids : List Nat} {found : List HistoryNotification}
    (read : records tables ids = .ok found) :
    ∀ record ∈ found, ∃ kept, archive record.historyId = some kept ∧
      record = kept.record record.historyId := by
  unfold records at read
  obtain ⟨chunks, mapped, last⟩ := bind_eq_ok_iff.mp read
  cases last
  intro record member
  obtain ⟨chunk, among, inside⟩ := List.mem_flatten.mp member
  obtain ⟨ids, -, taken⟩ := mapM_ok mapped chunk among
  obtain ⟨records, same, recordsAt⟩ := represents.recordChunk ids
  rw [same] at taken
  obtain ⟨id, present⟩ := takeRecords_ok taken record inside
  rw [recordsAt] at present
  split at present
  · obtain ⟨kept, stored, rfl⟩ := Option.map_eq_some_iff.mp present
    exact ⟨kept, stored, rfl⟩
  · cases present

/-- A record is refused only for its size. -/
theorem records_singleton (represents : Represents lookups archive tables)
    {id : Nat} {kept : KeptNotification} (stored : archive id = some kept) :
    records tables [id] =
      if kept.item.stored.toJson.size ≤ History.pageBytes then
        .ok [kept.record id]
      else .error History.byteLimitError := by
  obtain ⟨found, same, foundAt⟩ := represents.recordChunk [id]
  have present : found[id]? = some (kept.record id) := by
    rw [foundAt, if_pos (List.mem_singleton.mpr rfl), stored]
    rfl
  have chunks : [id].toChunks (History.maxPage + 1) = [[id]] := rfl
  unfold records
  rw [chunks, List.mapM_cons, same, takeRecords, present]
  have same : kept.item.stored = (kept.record id).notification := rfl
  rw [same]
  by_cases fits : (kept.record id).notification.toJson.size ≤
      History.pageBytes
  · have passed := FallibleSteps.ensure_of_true (decide_eq_true fits)
      History.byteLimitError
    dsimp only
    rw [if_pos fits, passed]
    rfl
  · have refused : FallibleSteps.ensure (decide
        ((kept.record id).notification.toJson.size ≤ History.pageBytes))
        History.byteLimitError = .error History.byteLimitError :=
      if_neg fun holds => fits (of_decide_eq_true holds)
    dsimp only
    rw [if_neg fits, refused]
    rfl

end Represents

end BarDaemon.Notifications
