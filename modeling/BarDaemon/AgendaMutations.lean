import BarDaemon.AgendaStore

/-!
# Accepted mutations keep every record valid

Each row of the item table decodes to a valid record before and after every
request, whatever the database does with its transaction.
-/

namespace BarDaemon.Agendas

open CompactJson FallibleSteps TransitionRuns

namespace Store

variable {calendar : Calendar} {fingerprint : String → String}

/-- Every row is read back as the record it was written for. -/
def Decodes (calendar : Calendar) (store : Store) : Prop :=
  ∀ row ∈ store.items, store.decodeRow calendar row = .ok row.payload

theorem capabilities_congr {store other : Store}
    (same : other.sources = store.sources) :
    other.capabilities = store.capabilities := by
  funext source
  rw [capabilities, capabilities, same]

theorem decodeRow_congr {store other : Store}
    (same : other.sources = store.sources) :
    other.decodeRow calendar = store.decodeRow calendar := by
  funext row
  simp only [decodeRow, checkCapabilities, capabilities_congr same]

theorem decodeRow_eq_ok_iff {store : Store} {row : ItemRow} {record : Record} :
    store.decodeRow calendar row = .ok record ↔
      record = row.payload ∧ record.validate calendar = .ok () ∧
        row = ItemRow.ofRecord record ∧
        store.checkCapabilities record
          "record/source capability mismatch" = .ok () := by
  obtain ⟨id, sourceId, sourceUid, kind, revision, payload⟩ := row
  simp only [decodeRow, bind_eq_ok_iff, ensure_eq_ok_iff, Bool.and_eq_true,
    beq_iff_eq, ItemRow.ofRecord, ItemRow.mk.injEq]
  constructor
  · rintro ⟨_, valid, _, ⟨⟨⟨rfl, rfl⟩, rfl⟩, rfl⟩, _, rfl, _, capable, done⟩
    obtain rfl := Except.ok.inj done
    exact ⟨rfl, valid, ⟨rfl, rfl, rfl, rfl, rfl, rfl⟩, capable⟩
  · rintro ⟨rfl, valid, ⟨rfl, rfl, rfl, rfl, rfl, _⟩, capable⟩
    exact ⟨(), valid, (), ⟨⟨⟨rfl, rfl⟩, rfl⟩, rfl⟩, (), rfl, (), capable, rfl⟩

/-- Rows are read with the sources of the store alone. -/
theorem decodes_of_rows {store after : Store}
    (same : after.sources = store.sources)
    (rows : ∀ row ∈ after.items,
      store.decodeRow calendar row = .ok row.payload) :
    after.Decodes calendar := by
  intro row present
  rw [decodeRow_congr same]
  exact rows row present

/-- The rows of a store whose rows all decode are those of valid records. -/
theorem Decodes.valid {store : Store} (decodes : store.Decodes calendar)
    {row : ItemRow} (present : row ∈ store.items) :
    row.payload.validate calendar = .ok () :=
  (decodeRow_eq_ok_iff.mp (decodes row present)).2.1

theorem valid_of_insertRecord {store after : Store} {record : Record}
    (succeeded : store.insertRecord calendar record = .ok after) :
    record.validate calendar = .ok () := by
  rw [insertRecord, bind_eq_ok_iff] at succeeded
  obtain ⟨_, valid, _⟩ := succeeded
  exact valid

/-- The checks of an inserted record are those of a row read back. -/
theorem decodes_insertRecord {store after : Store} {record : Record}
    (decodes : store.Decodes calendar)
    (succeeded : store.insertRecord calendar record = .ok after) :
    after.Decodes calendar := by
  simp only [insertRecord, bind_eq_ok_iff] at succeeded
  obtain ⟨_, valid, _, capable, _, _, _, _, done⟩ := succeeded
  obtain rfl := Except.ok.inj done
  apply decodes_of_rows rfl
  intro row present
  rcases List.mem_append.mp present with stored | added
  · exact decodes row stored
  · obtain rfl := List.mem_singleton.mp added
    exact decodeRow_eq_ok_iff.mpr ⟨rfl, valid, rfl, capable⟩

theorem createItem_eq_ok {store after : Store} {request : String}
    {item : NewItem} {now : I64} {record : Record}
    (succeeded : store.createItem calendar fingerprint request item now =
      .ok (record, after)) :
    record = createRecord ("local:" ++ fingerprint request) item now ∧
      store.insertRecord calendar record = .ok after := by
  simp only [createItem, bind_eq_ok_iff] at succeeded
  obtain ⟨_, _, _, _, _, _, inserted, inserts, done⟩ := succeeded
  cases Except.ok.inj done
  exact ⟨rfl, inserts⟩

/-- The row that is found is the one row with the identity and revision. -/
theorem get_eq_ok_some {store : Store} {id : String} {record : Record}
    (found : store.get calendar id = .ok (some record)) :
    ∃ row ∈ store.items, row.id = id ∧
      store.decodeRow calendar row = .ok record := by
  rw [get] at found
  split at found
  · rename_i row search
    obtain ⟨decoded, decode, same⟩ := map_eq_ok_iff.mp found
    cases same
    have matched := List.find?_some search
    exact ⟨row, List.mem_of_find?_eq_some search, beq_iff_eq.mp matched,
      decode⟩
  · cases found

theorem rowsAt_eq {store : Store} {id : String} {record : Record}
    (found : store.get calendar id = .ok (some record))
    (single : (store.rowsAt id record.revision).length = 1) :
    store.rowsAt id record.revision = [ItemRow.ofRecord record] := by
  obtain ⟨row, present, named, decode⟩ := get_eq_ok_some found
  obtain ⟨_, _, rfl, _⟩ := decodeRow_eq_ok_iff.mp decode
  obtain ⟨only, alone⟩ := List.length_eq_one_iff.mp single
  have member : ItemRow.ofRecord record ∈ store.rowsAt id record.revision := by
    apply List.mem_filter.mpr
    constructor
    · exact present
    · simpa [ItemRow.isAt, ItemRow.ofRecord] using named
  rw [alone] at member ⊢
  rw [List.mem_singleton.mp member]

/-- The row of a patched record holds that record. -/
theorem write_ofRecord {record patched : Record} {patch : ItemPatch}
    {now : I64} (change : Patched calendar record patch now patched) :
    (ItemRow.ofRecord record).write patched = ItemRow.ofRecord patched := by
  simp only [ItemRow.write, ItemRow.ofRecord, change.id, change.source,
    change.uid, change.kind]

theorem checkCapabilities_congr (store : Store) {record patched : Record}
    {patch : ItemPatch} {now : I64}
    (change : Patched calendar record patch now patched) (error : String) :
    store.checkCapabilities patched error =
      store.checkCapabilities record error := by
  rw [checkCapabilities, checkCapabilities, change.source, change.kind,
    change.capabilities]

theorem decodes_patchItem {store after : Store} {id : String}
    {expectedRevision : U64} {patch : ItemPatch} {now : I64}
    {patched : Record} (decodes : store.Decodes calendar)
    (succeeded :
      store.patchItem calendar id expectedRevision patch now =
        .ok (patched, after)) :
    after.Decodes calendar ∧ patched.validate calendar = .ok () := by
  rw [patchItem, bind_eq_ok_iff] at succeeded
  obtain ⟨found, search, succeeded⟩ := succeeded
  cases found with
  | none => cases succeeded
  | some record =>
      simp only [bind_eq_ok_iff, ensure_eq_ok_iff, beq_iff_eq] at succeeded
      obtain ⟨_, patches, _, _, _, single, done⟩ := succeeded
      cases Except.ok.inj done
      obtain ⟨rfl, change⟩ := patched_of_patchRecord patches
      have only := rowsAt_eq search single
      constructor
      · apply decodes_of_rows rfl
        intro row present
        obtain ⟨old, stored, rfl⟩ := List.mem_map.mp present
        split
        · rename_i matched
          have member : old ∈ store.rowsAt id record.revision :=
            List.mem_filter.mpr ⟨stored, matched⟩
          rw [only] at member
          obtain rfl := List.mem_singleton.mp member
          have before := decodeRow_eq_ok_iff.mp (decodes _ stored)
          rw [write_ofRecord change]
          apply decodeRow_eq_ok_iff.mpr
          refine ⟨rfl, change.valid, rfl, ?_⟩
          exact (checkCapabilities_congr store change _).trans before.2.2.2
        · exact decodes old stored
      · exact change.valid

theorem patchItem_items {store after : Store} {id : String}
    {expectedRevision : U64} {patch : ItemPatch} {now : I64}
    {patched : Record}
    (succeeded : store.patchItem calendar id expectedRevision patch now =
      .ok (patched, after)) :
    after = { store with
      items := store.items.map fun row =>
        if row.isAt id expectedRevision then row.write patched else row } := by
  rw [patchItem, bind_eq_ok_iff] at succeeded
  obtain ⟨found, _, succeeded⟩ := succeeded
  cases found with
  | none => cases succeeded
  | some record =>
      simp only [bind_eq_ok_iff] at succeeded
      obtain ⟨_, _, _, _, _, _, done⟩ := succeeded
      cases Except.ok.inj done
      rfl

theorem deleteItem_items {store after : Store} {id : String}
    {expectedRevision : U64}
    (succeeded :
      store.deleteItem calendar id expectedRevision = .ok after) :
    after = { store with
      items := store.items.filter fun row =>
        !row.isAt id expectedRevision } := by
  rw [deleteItem, bind_eq_ok_iff] at succeeded
  obtain ⟨found, _, succeeded⟩ := succeeded
  cases found with
  | none => cases succeeded
  | some record =>
      simp only [bind_eq_ok_iff] at succeeded
      obtain ⟨_, _, _, _, _, _, done⟩ := succeeded
      cases Except.ok.inj done
      rfl

theorem decodes_deleteItem {store after : Store} {id : String}
    {expectedRevision : U64} (decodes : store.Decodes calendar)
    (succeeded :
      store.deleteItem calendar id expectedRevision = .ok after) :
    after.Decodes calendar := by
  rw [deleteItem_items succeeded]
  apply decodes_of_rows rfl
  intro row present
  exact decodes row (List.mem_filter.mp present).1

/-- What a request has done to the items. -/
inductive Applied (calendar : Calendar) (fingerprint : String → String)
    (store : Store) (now : I64) :
    Mutation → Option Record → Option String → Store → Prop
  | created {request : String} {new : NewItem} {record : Record}
      {after : Store} (creates : store.createItem calendar fingerprint request
        new now = .ok (record, after)) :
      Applied calendar fingerprint store now (.create request new)
        (some record) none after
  | patched {request id : String} {revision : U64} {fields : ItemPatch}
      {record : Record} {after : Store} (patches : store.patchItem calendar id
        revision fields now = .ok (record, after)) :
      Applied calendar fingerprint store now
        (.patch request id revision fields) (some record) none after
  | deleted {request id : String} {revision : U64} {after : Store}
      (deletes : store.deleteItem calendar id revision = .ok after) :
      Applied calendar fingerprint store now (.delete request id revision) none
        (some id) after

theorem applied_of_applyItems {store after : Store} {mutation : Mutation}
    {now : I64} {item : Option Record} {deletedId : Option String}
    (succeeded : store.applyItems calendar fingerprint mutation now =
      .ok (item, deletedId, after)) :
    Applied calendar fingerprint store now mutation item deletedId after := by
  cases mutation with
  | create request new =>
      obtain ⟨⟨record, inserted⟩, creates, done⟩ := bind_eq_ok_iff.mp succeeded
      cases Except.ok.inj done
      exact .created creates
  | patch request id revision fields =>
      obtain ⟨⟨record, written⟩, patches, done⟩ := bind_eq_ok_iff.mp succeeded
      cases Except.ok.inj done
      exact .patched patches
  | delete request id revision =>
      obtain ⟨remaining, deletes, done⟩ := bind_eq_ok_iff.mp succeeded
      cases Except.ok.inj done
      exact .deleted deletes

/-- The three mutations of the items. -/
theorem decodes_applyItems {store after : Store} {mutation : Mutation}
    {now : I64} {item : Option Record} {deletedId : Option String}
    (decodes : store.Decodes calendar)
    (succeeded : store.applyItems calendar fingerprint mutation now =
      .ok (item, deletedId, after)) :
    after.Decodes calendar ∧
      ∀ record ∈ item, record.validate calendar = .ok () := by
  cases applied_of_applyItems succeeded with
  | created creates =>
      obtain ⟨_, inserts⟩ := createItem_eq_ok creates
      have valid := valid_of_insertRecord inserts
      exact ⟨decodes_insertRecord decodes inserts,
        fun _ same => Option.some.inj same ▸ valid⟩
  | patched patches =>
      obtain ⟨decodes, valid⟩ := decodes_patchItem decodes patches
      exact ⟨decodes, fun _ same => Option.some.inj same ▸ valid⟩
  | deleted deletes =>
      exact ⟨decodes_deleteItem decodes deletes, fun _ absent => by cases absent⟩

theorem decodes_apply {store after : Store} {mutation : Mutation}
    {hash : String} {now : I64} {result : MutationResult}
    (decodes : store.Decodes calendar)
    (succeeded : store.apply calendar fingerprint mutation hash now =
      .ok (result, after)) :
    after.Decodes calendar ∧
      ∀ record ∈ result.item, record.validate calendar = .ok () := by
  rw [apply, bind_eq_ok_iff] at succeeded
  obtain ⟨⟨item, deletedId, applied⟩, applies, succeeded⟩ := succeeded
  simp only [bind_eq_ok_iff] at succeeded
  obtain ⟨_, _, _, _, _, _, done⟩ := succeeded
  cases Except.ok.inj done
  obtain ⟨decodes, valid⟩ := decodes_applyItems decodes applies
  constructor
  · exact decodes_of_rows rfl decodes
  · exact valid

/-- Reading a row does not depend on whether writes are blocked. -/
theorem decodes_blocked {store : Store} (decodes : store.Decodes calendar)
    (blocked : Bool) : { store with blocked }.Decodes calendar :=
  decodes_of_rows rfl decodes

theorem decodes_finish {store : Store} {outcome : Outcome}
    {applied : Except String (MutationResult × Store)}
    (before : store.Decodes calendar)
    (decodes : ∀ result after, applied = .ok (result, after) →
      after.Decodes calendar ∧
        ∀ record ∈ result.item, record.validate calendar = .ok ()) :
    (store.finish outcome applied).2.Decodes calendar ∧
      ∀ result, (store.finish outcome applied).1 = .ok result →
        ∀ record ∈ result.item, record.validate calendar = .ok () := by
  cases applied with
  | error error =>
      exact ⟨decodes_blocked before _, fun _ failed => by cases failed⟩
  | ok applied =>
      obtain ⟨result, after⟩ := applied
      obtain ⟨decodes, valid⟩ := decodes result after rfl
      rw [finish]
      split
      · split
        · refine ⟨decodes, fun other same => ?_⟩
          obtain rfl := Except.ok.inj same
          exact valid
        · exact ⟨decodes_blocked decodes _, fun _ failed => by cases failed⟩
      · split
        · exact ⟨decodes_blocked decodes _, fun _ failed => by cases failed⟩
        · exact ⟨decodes_blocked before _, fun _ failed => by cases failed⟩

/-- A stored result is checked again when it is returned. -/
theorem valid_of_receipt {store : Store} {request previous : String}
    {result : MutationResult}
    (found : store.receipt calendar request = .ok (some (previous, result)))
    {record : Record} (present : record ∈ result.item) :
    record.validate calendar = .ok () := by
  rw [receipt, bind_eq_ok_iff] at found
  obtain ⟨_, _, found⟩ := found
  split at found
  · rw [bind_eq_ok_iff] at found
    obtain ⟨decoded, decode, done⟩ := found
    cases Except.ok.inj done
    simp only [decodeReceipt, bind_eq_ok_iff] at decode
    obtain ⟨_, _, _, _, _, _, _, valid, _, _, done⟩ := decode
    obtain rfl := Except.ok.inj done
    rw [Option.mem_def.mp present] at valid
    exact valid
  · cases Except.ok.inj found

theorem valid_of_prepare {store : Store} {mutation : Mutation} {hash : String}
    {result : MutationResult}
    (replayed : store.prepare calendar fingerprint mutation =
      .ok (hash, some result))
    {record : Record} (present : record ∈ result.item) :
    record.validate calendar = .ok () := by
  simp only [prepare, bind_eq_ok_iff] at replayed
  obtain ⟨_, _, _, _, _, _, _, _, found, search, replayed⟩ := replayed
  split at replayed
  · rw [bind_eq_ok_iff] at replayed
    obtain ⟨_, _, done⟩ := replayed
    cases Except.ok.inj done
    exact valid_of_receipt search present
  · rw [bind_eq_ok_iff] at replayed
    obtain ⟨_, _, done⟩ := replayed
    cases Except.ok.inj done

theorem decodes_mutate {store : Store} (decodes : store.Decodes calendar)
    (mutation : Mutation) (now : I64) (outcome : Outcome) :
    (store.mutate calendar fingerprint mutation now outcome).2.Decodes
        calendar ∧
      ∀ result,
        (store.mutate calendar fingerprint mutation now outcome).1 =
            .ok result →
          ∀ record ∈ result.item, record.validate calendar = .ok () := by
  rw [mutate]
  split
  · exact ⟨decodes, fun _ failed => by cases failed⟩
  · rename_i replayed
    refine ⟨decodes, fun other same => ?_⟩
    obtain rfl := Except.ok.inj same
    exact fun record => valid_of_prepare replayed
  · apply decodes_finish decodes
    intro result after applied
    split at applied
    · cases applied
    · exact decodes_apply decodes applied

/-- One request. -/
theorem decodes_submit {store : Store} (decodes : store.Decodes calendar)
    (event : Event) :
    (store.submit calendar fingerprint event).2.Decodes calendar ∧
      ∀ result, (store.submit calendar fingerprint event).1 = .ok result →
        ∀ record ∈ result.item, record.validate calendar = .ok () := by
  rw [submit]
  split
  · exact ⟨decodes, fun _ failed => by cases failed⟩
  · exact decodes_mutate decodes event.mutation event.now event.outcome

/-- Any number of requests. -/
theorem decodes_run {store : Store} (decodes : store.Decodes calendar)
    (events : List Event) :
    (run (step calendar fingerprint) store events).Decodes calendar := by
  have always : StepsMeet (step calendar fingerprint) (fun _ _ => True) store
      events := stepsMeet_of_forall (fun _ _ => trivial) store events
  apply invariant_run _ decodes always
  intro state event decodes _
  exact (decodes_submit decodes event).1

end Store

/-- A patch of a valid record fails or makes a valid one of it that differs in
what is patched; an item that is created is valid; and so is every record that
any requests leave in the store or answer with. -/
theorem mutations_valid (calendar : Calendar)
    (fingerprint : String → String) :
    (∀ (record : Record) (expectedRevision : U64) (patch : ItemPatch)
        (now : I64) (patched : Record),
      record.validate calendar = .ok () →
        patchRecord calendar record expectedRevision patch now =
            .ok patched →
          Patched calendar record patch now patched) ∧
      (∀ (store after : Store) (request : String) (item : NewItem) (now : I64)
          (record : Record),
        store.createItem calendar fingerprint request item now =
            .ok (record, after) →
          record = createRecord ("local:" ++ fingerprint request) item now ∧
            record.validate calendar = .ok ()) ∧
      ∀ (store : Store) (events : List Store.Event),
        store.Decodes calendar →
          let reached := run (Store.step calendar fingerprint) store events
          reached.Decodes calendar ∧
            (∀ row ∈ reached.items,
              row.payload.validate calendar = .ok ()) ∧
            ∀ (event : Store.Event) (result : MutationResult),
              (reached.submit calendar fingerprint event).1 = .ok result →
                ∀ record ∈ result.item,
                  record.validate calendar = .ok () := by
  refine ⟨?_, ?_, ?_⟩
  · intro record expectedRevision patch now patched _ succeeded
    exact (patched_of_patchRecord succeeded).2
  · intro store after request item now record succeeded
    obtain ⟨same, inserts⟩ := Store.createItem_eq_ok succeeded
    exact ⟨same, Store.valid_of_insertRecord inserts⟩
  · intro store events decodes
    have reached := @Store.decodes_run calendar fingerprint store decodes events
    exact ⟨reached, fun row present => reached.valid present,
      fun event => (Store.decodes_submit reached event).2⟩

/-! A task is created, and a patch of it completes it. -/

def sampleCalendar : Calendar where
  parsesDate := fun text => text == "2026-03-01"
  knowsZone := fun zone => zone == "UTC"
  isInstant := fun _ => true

def sampleStore : Store where
  items := []
  sources := [("local", .ofLocal)]
  receipts := []
  migrations := 0
  catalogRevision := 0
  readOnly := false
  blocked := false

def sampleItem : NewItem where
  kind := .task
  title := "Buy milk"
  notes := ""
  links := []
  schedule := ⟨.date, none, none, none, none, none⟩
  event := none
  task := none

/-- The digests of the request identity and of the request. -/
def sampleFingerprint (text : String) : String :=
  if text == "r1" then
    "82f3e9c695dc6b8d1b11818d5701919e286de8d47f7c3eb3100c485f79e57828"
  else
    "9c89290f5e1f7e6d741ba4478b83a6cabfa607a6e14a3e428984007d9dc54d28"

def sampleReached : Store :=
  run (Store.step sampleCalendar sampleFingerprint) sampleStore
    [⟨.create "r1" sampleItem, ⟨1000, by decide⟩,
      ⟨none, true, true, true, true⟩⟩]

def sampleRecord : Record :=
  createRecord ("local:" ++ sampleFingerprint "r1") sampleItem
    ⟨1000, by decide⟩

def samplePatch : ItemPatch where
  title := none
  notes := none
  links := none
  schedule := none
  event := none
  task := some { TaskDetails.default with completed := true }

def samplePatched : Record :=
  { sampleRecord with
    revision := ⟨2, by decide⟩
    modifiedUnixMs := ⟨2000, by decide⟩
    task := some
      { TaskDetails.default with
        completed := true
        completedUnixMs := some ⟨2000, by decide⟩ } }

theorem mutations_valid_sample :
    Patched sampleCalendar sampleRecord samplePatch ⟨2000, by decide⟩
        samplePatched ∧
      sampleReached.Decodes sampleCalendar ∧
      sampleReached.items = [.ofRecord sampleRecord] := by
  have ⟨patches, _, reaches⟩ :=
    mutations_valid sampleCalendar sampleFingerprint
  have initially : sampleStore.Decodes sampleCalendar := by
    intro row absent
    cases absent
  exact ⟨patches sampleRecord ⟨1, by decide⟩ samplePatch ⟨2000, by decide⟩
      samplePatched (by decide +kernel) (by decide +kernel),
    (reaches sampleStore _ initially).1, by decide +kernel⟩

end BarDaemon.Agendas
