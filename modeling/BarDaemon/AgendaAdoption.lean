import BarDaemon.AgendaExports

/-!
# Adopting the todos of former versions

The todos of a JSON file become records once, when the store is first opened.
From then on the store has a row that says so.
-/

namespace BarDaemon.Agendas

open CompactJson FallibleSteps TransitionRuns TableImports Store

/-! ## Todos -/

structure TodoItem where
  id : String
  sourceId : String
  title : String
  completed : Bool
  priority : UInt8
  dueUnixMs : Option I64
  dueDate : Option String
  createdUnixMs : I64
  completedUnixMs : Option I64
deriving DecidableEq, Repr

/-- `Schedule::legacy_due`: the civil date is preferred. -/
def Schedule.legacyDue (endDate : Option String) (endUnixMs : Option I64) :
    Schedule :=
  if endDate.isNone && endUnixMs.isSome then
    ⟨.timed, none, none, none, endUnixMs, some "UTC"⟩
  else
    ⟨.date, none, endDate, none, none, none⟩

theorem priority_i64 (priority : UInt8) :
    -(i64Max : Int) - 1 ≤ (priority.toNat : Int) ∧
      (priority.toNat : Int) ≤ i64Max := by
  have small := priority.toNat_lt
  simp only [i64Max]
  omega

def TodoItem.record (todo : TodoItem) : Record where
  id := todo.id
  kind := .task
  sourceId := todo.sourceId
  sourceUid := none
  revision := ⟨1, one_le_u64Max⟩
  title := todo.title
  notes := ""
  links := []
  schedule := .legacyDue todo.dueDate todo.dueUnixMs
  createdUnixMs := todo.createdUnixMs
  modifiedUnixMs := todo.completedUnixMs.getD todo.createdUnixMs
  capabilities := .ofLocal
  event := none
  task := some
    { TaskDetails.default with
      priority := ⟨todo.priority.toNat, priority_i64 todo.priority⟩
      completed := todo.completed
      completedUnixMs := todo.completedUnixMs }

/-- The file of a former version, and the todos that are read from it. -/
structure LegacyFile where
  bytes : List UInt8
  todos : Except String (List TodoItem)

/-! ## Adoption -/

section Adoption

variable (calendar : Calendar) (digest : List UInt8 → String)

/-- The records of the todos, each of them checked. -/
def legacyRecords : List String → List TodoItem →
    Except String (List Record)
  | _, [] => .ok []
  | ids, todo :: todos => do
      ensure (!ids.contains todo.id) "duplicate legacy todo id"
      todo.record.validate calendar
      let records ← legacyRecords (todo.id :: ids) todos
      return todo.record :: records

/-- `INSERT OR IGNORE INTO sources` -/
def addSource (store : Store) (id : String) : Store :=
  if (store.sources.map Prod.fst).contains id then store
  else { store with sources := store.sources ++ [(id, .ofLocal)] }

def adoptRecord (store : Store) (record : Record) : Except String Store := do
  let inserted ← (addSource store record.sourceId).insertRecord calendar record
  let found ← inserted.get calendar record.id
  ensure (found == some record) "legacy import verification mismatch"
  return inserted

namespace Database

/-- The todos of a file, and none where there is no file. -/
def todosOf (legacy : Option LegacyFile) : Except String (List TodoItem) :=
  match legacy with
  | some file => file.todos
  | none => .ok []

/-- What is checked and read before the transaction. -/
def readLegacy (legacy : Option LegacyFile) (backedUp : Except String Unit) :
    Except String (List Record) := do
  whenSome legacy fun file =>
    ensure (file.bytes.length ≤ 32 * 1024 * 1024) "legacy todo file too large"
  let todos ← todosOf legacy
  ensure (todos.length ≤ 10000) "legacy todo capacity exceeded"
  let records ← legacyRecords calendar [] todos
  backedUp
  return records

def adopt (database : Database) (records : List Record)
    (migration : Migration) : Except String (Unit × Database) := do
  let filled ← records.foldlM (adoptRecord calendar) database.store
  let migrations := database.migrations ++ [migration]
  let adopted : Store :=
    { filled with
      catalogRevision :=
        filled.catalogRevision + if records.isEmpty then 0 else 1
      migrations := weight migrations }
  adopted.ensurePayloadBudget
  return ((), ⟨adopted, migrations⟩)

/-- The row that tells of the adoption. -/
def migrationOf (legacy : Option LegacyFile) : Migration where
  name := "legacy-todos-v1"
  fingerprint := match legacy with
    | some file => digest file.bytes
    | none => "missing"
  payload := match legacy with
    | some file => file.bytes
    | none => []

def migrateLegacy (database : Database)
    (reading : Except String (Option LegacyFile))
    (backedUp : Except String Unit) (outcome : Outcome) :
    Except String Unit × Database :=
  match reading with
  | .error error => (.error error, database)
  | .ok legacy =>
      let migration := migrationOf digest legacy
      match database.migrations.find? fun row => row.name == migration.name with
      | some previous =>
          if legacy.isNone || previous.fingerprint == migration.fingerprint then
            (.ok (), database)
          else
            (.error "legacy todo content changed after migration; explicit reconciliation required",
              database)
      | none =>
          match readLegacy calendar legacy backedUp with
          | .error error => (.error error, database)
          | .ok records =>
              outcome.conclude fence database
                (outcome.attempt (database.adopt calendar records migration))

/-! ## Opening -/

/-- The file of the todos, whether it can be backed up, and how the database
carries the adoption out. -/
structure Legacy where
  reading : Except String (Option LegacyFile)
  backedUp : Except String Unit
  outcome : Outcome

/-- The database with the flags of a new connection. -/
def connected (database : Database) (existingOnly : Bool) : Database :=
  ⟨{ database.store with blocked := false, readOnly := existingOnly },
    database.migrations⟩

/-- The migration, where a path is given for it. -/
def adoptLegacy (database : Database) (legacy : Option Legacy) :
    Except String Unit × Database :=
  match legacy with
  | none => (.ok (), database)
  | some legacy => database.migrateLegacy calendar digest legacy.reading
      legacy.backedUp legacy.outcome

/-- `Database::open`, where the files and the schema are in order. -/
def openStore (database : Database) (legacy : Option Legacy)
    (existingOnly : Bool) : Except String Unit × Database :=
  let opened := database.connected existingOnly
  match opened.store.verifySchema with
  | .error error => (.error error, opened)
  | .ok _ =>
      let migrated := opened.adoptLegacy calendar digest legacy
      (migrated.1.bind fun _ => migrated.2.store.verifyRows calendar,
        migrated.2)

end Database

end Adoption

/-! ## What is adopted -/

variable {calendar : Calendar} {digest : List UInt8 → String}

/-- The tables while the records are taken in. -/
structure Filling (calendar : Calendar) (store : Store) : Prop where
  reserved : store.capabilities "local" = .ok .ofLocal
  decodes : store.Decodes calendar
  ids : (store.items.map ItemRow.id).Nodup
  apart : Apart ItemRow.clashes store.items
  sources : (store.sources.map Prod.fst).Nodup
  named : ∀ source ∈ store.sources, identifier source.1 = .ok ()

theorem capabilities_addSource {store : Store} {id source : String}
    {capabilities : Capabilities}
    (known : store.capabilities source = .ok capabilities) :
    (addSource store id).capabilities source = .ok capabilities := by
  rw [addSource]
  split
  · exact known
  · rw [Store.capabilities] at known ⊢
    cases found : store.sources.lookup source with
    | none => simp [found] at known
    | some _ => simpa [List.lookup_append, found] using known

theorem checkCapabilities_addSource {store : Store} {id error : String}
    {record : Record}
    (capable : store.checkCapabilities record error = .ok ()) :
    (addSource store id).checkCapabilities record error = .ok () := by
  rw [checkCapabilities, bind_eq_ok_iff] at capable ⊢
  obtain ⟨capabilities, known, equal⟩ := capable
  exact ⟨capabilities, capabilities_addSource known, equal⟩

@[simp]
theorem items_addSource (store : Store) (id : String) :
    (addSource store id).items = store.items := by
  rw [addSource]
  split <;> rfl

theorem filling_addSource {store : Store} (filling : Filling calendar store)
    {id : String} (named : identifier id = .ok ()) :
    Filling calendar (addSource store id) := by
  constructor
  · exact capabilities_addSource filling.reserved
  · intro row present
    rw [items_addSource] at present
    obtain ⟨same, valid, shape, capable⟩ :=
      decodeRow_eq_ok_iff.mp (filling.decodes row present)
    exact decodeRow_eq_ok_iff.mpr
      ⟨same, valid, shape, checkCapabilities_addSource capable⟩
  · rw [items_addSource]
    exact filling.ids
  · rw [items_addSource]
    exact filling.apart
  · rw [addSource]
    split
    · exact filling.sources
    · rename_i absent
      simp only [List.contains_eq_mem, decide_eq_true_eq] at absent
      rw [List.map_append, List.nodup_append]
      refine ⟨filling.sources, by simp, ?_⟩
      intro known present new last same
      simp only [List.map_cons, List.map_nil, List.mem_singleton] at last
      rw [same, last] at present
      exact absent present
  · rw [addSource]
    split
    · exact filling.named
    · intro source present
      rcases List.mem_append.mp present with known | last
      · exact filling.named source known
      · obtain rfl := List.mem_singleton.mp last
        exact named

theorem insertRecord_eq_ok {store after : Store} {record : Record}
    (inserts : store.insertRecord calendar record = .ok after) :
    record.validate calendar = .ok () ∧
      after = { store with
        items := store.items ++ [ItemRow.ofRecord record] } ∧
      ∀ row ∈ store.items, row.clashes (ItemRow.ofRecord record) = false := by
  simp only [insertRecord, bind_eq_ok_iff, ensure_eq_ok_iff, Bool.not_eq_true',
    List.any_eq_false, Bool.not_eq_true] at inserts
  obtain ⟨_, valid, _, _, _, _, _, free, done⟩ := inserts
  refine ⟨valid, (Except.ok.inj done).symm, ?_⟩
  intro row present
  rw [Database.clashes_symm]
  exact free row present

theorem filling_insertRecord {store after : Store} {record : Record}
    (filling : Filling calendar store)
    (inserts : store.insertRecord calendar record = .ok after) :
    Filling calendar after := by
  have decodes := decodes_insertRecord filling.decodes inserts
  obtain ⟨ids, _, _⟩ := keys_insertRecord filling.ids inserts
  obtain ⟨_, rfl, free⟩ := insertRecord_eq_ok inserts
  constructor
  · exact filling.reserved
  · exact decodes
  · exact ids
  · apply List.pairwise_append.mpr
    refine ⟨filling.apart, List.pairwise_singleton _ _, ?_⟩
    intro row present new last
    obtain rfl := List.mem_singleton.mp last
    exact free row present
  · exact filling.sources
  · exact filling.named

/-- One record is taken in, with its source. -/
theorem adoptRecord_eq_ok {store after : Store} {record : Record}
    (adopts : adoptRecord calendar store record = .ok after) :
    record.validate calendar = .ok () ∧
      after = { addSource store record.sourceId with
        items := store.items ++ [ItemRow.ofRecord record] } ∧
      (addSource store record.sourceId).insertRecord calendar record =
        .ok after := by
  simp only [adoptRecord, bind_eq_ok_iff] at adopts
  obtain ⟨inserted, inserts, _, _, _, _, done⟩ := adopts
  obtain rfl := Except.ok.inj done
  obtain ⟨valid, rows, _⟩ := insertRecord_eq_ok inserts
  rw [items_addSource] at rows
  exact ⟨valid, rows, inserts⟩

theorem identifier_of_validate {record : Record}
    (valid : record.validate calendar = .ok ()) :
    identifier record.sourceId = .ok () := by
  simp only [Record.validate, bind_eq_ok_iff] at valid
  obtain ⟨_, _, _, named, _⟩ := valid
  exact named

theorem filling_adoptRecord {store after : Store} {record : Record}
    (filling : Filling calendar store)
    (adopts : adoptRecord calendar store record = .ok after) :
    Filling calendar after := by
  obtain ⟨valid, _, inserts⟩ := adoptRecord_eq_ok adopts
  exact filling_insertRecord
    (filling_addSource filling (identifier_of_validate valid)) inserts

theorem length_addSource (store : Store) (id : String) :
    (addSource store id).sources.length ≤ store.sources.length + 1 := by
  rw [addSource]
  split <;> simp

/-- All the records are taken in, in their order, and nothing but the items
and the sources is touched. -/
theorem adoptRecords_eq_ok {records : List Record} {store after : Store}
    (filling : Filling calendar store)
    (adopts : records.foldlM (adoptRecord calendar) store = .ok after) :
    Filling calendar after ∧
      after = { store with
        items := store.items ++ records.map ItemRow.ofRecord
        sources := after.sources } ∧
      after.sources.length ≤ store.sources.length + records.length := by
  induction records generalizing store with
  | nil =>
      obtain rfl := Except.ok.inj adopts
      exact ⟨filling, by simp, by simp⟩
  | cons record records ih =>
      rw [List.foldlM_cons, bind_eq_ok_iff] at adopts
      obtain ⟨next, first, rest⟩ := adopts
      obtain ⟨whole, rows, bound⟩ := ih (filling_adoptRecord filling first) rest
      obtain ⟨_, rfl, _⟩ := adoptRecord_eq_ok first
      have more := length_addSource store record.sourceId
      refine ⟨whole, ?_, ?_⟩
      · rw [rows, addSource]
        split <;> simp
      · simp only [List.length_cons] at bound ⊢
        omega

end BarDaemon.Agendas
