import BarDaemon.AgendaReceipts
import BarDaemon.TableImports
import Mathlib.Data.String.Basic

/-!
# Exporting and restoring the agenda

A database is written out in the order of its keys, and an empty one takes
what was written as it is.
-/

namespace BarDaemon.Agendas

open CompactJson FallibleSteps TransitionRuns TableImports Store

/-! ## Databases -/

/-- A row of the migrations. -/
structure Migration where
  name : String
  fingerprint : String
  payload : List UInt8
deriving DecidableEq, Repr

/-- The tables of the store, and that of the migrations. -/
structure Database where
  store : Store
  migrations : List Migration
deriving DecidableEq, Repr

/-- The tables as the schema makes them. -/
def Database.created : Database where
  store :=
    { items := []
      sources := [("local", .ofLocal)]
      receipts := []
      migrations := 0
      catalogRevision := 0
      readOnly := false
      blocked := false }
  migrations := []

def Database.fence (blocked : Bool) (database : Database) : Database :=
  { database with store := { database.store with blocked } }

/-- `coalesce(sum(length(payload)),0)` -/
def Database.weight (migrations : List Migration) : Nat :=
  (migrations.map fun migration => migration.payload.length).sum

/-! ## Exports -/

/-- A row of the sources, with its flags as numbers. -/
structure SourceRow where
  id : String
  writable : Int
  deletable : Int
  completable : Int
deriving DecidableEq, Repr

def flag (value : Bool) : Int :=
  if value then 1 else 0

def SourceRow.ofSource (source : String × Capabilities) : SourceRow where
  id := source.1
  writable := flag source.2.write
  deletable := flag source.2.delete
  completable := flag source.2.complete

def SourceRow.source (row : SourceRow) : String × Capabilities :=
  (row.id, ⟨row.writable != 0, row.deletable != 0, row.completable != 0⟩)

structure Export where
  applicationId : Int
  schema : Nat
  items : List Record
  catalogRevision : Nat
  sources : List SourceRow
  receipts : List Receipt
  migrations : List Migration
deriving DecidableEq, Repr

/-- The bytes of a text. -/
def utf8 (text : String) : List UInt8 :=
  text.toUTF8.data.toList

def bytesJson (bytes : List UInt8) : Json :=
  .arr (bytes.map fun byte => .nat byte.toNat)

def SourceRow.toJson (row : SourceRow) : Json :=
  .arr [.str row.id, .int row.writable, .int row.deletable,
    .int row.completable]

/-- The payload is copied as the bytes of the text that it is stored in. -/
def Receipt.toJson (receipt : Receipt) : Json :=
  .arr [.str receipt.requestId, .str receipt.fingerprint,
    bytesJson (utf8 receipt.payload.toJson.render)]

def Migration.toJson (migration : Migration) : Json :=
  .arr [.str migration.name, .str migration.fingerprint,
    bytesJson migration.payload]

def Export.toJson (file : Export) : Json :=
  .obj [("application_id", .int file.applicationId),
    ("schema", .nat file.schema),
    ("snapshot", .obj [("items", .arr (file.items.map Record.toJson)),
      ("catalog_revision", .nat file.catalogRevision)]),
    ("sources", .arr (file.sources.map SourceRow.toJson)),
    ("receipts", .arr (file.receipts.map Receipt.toJson)),
    ("migrations", .arr (file.migrations.map Migration.toJson))]

/-- A file with an export in it, and its length. -/
structure ExportFile where
  content : Export
  length : Nat
deriving DecidableEq, Repr

/-- `APPLICATION_ID` -/
def applicationId : Int := 0x41474e44

namespace Database

variable (calendar : Calendar) (digest : List UInt8 → String)

def exported (database : Database) : Except String ExportFile := do
  ensure (!database.store.blocked) "agenda fenced"
  let items ← database.store.snapshot calendar
  let content : Export :=
    { applicationId := applicationId
      schema := 1
      items := byKey Record.id items
      catalogRevision := database.store.catalogRevision
      sources := (byKey Prod.fst database.store.sources).map SourceRow.ofSource
      receipts := byKey Receipt.requestId database.store.receipts
      migrations := byKey Migration.name database.migrations }
  return { content, length := content.toJson.size }

/-! ## Restoring -/

/-- The constraints of the sources table on one row. -/
def checkSource (row : SourceRow) : Except String Unit := do
  identifier row.id
  ensure ((row.writable == 0 || row.writable == 1) &&
    (row.deletable == 0 || row.deletable == 1) &&
    (row.completable == 0 || row.completable == 1)) "CHECK constraint failed"

def restoreItem (store : Store) (item : Record) : Except String Store := do
  store.checkCapabilities item "restored capability mismatch"
  store.insertRecord calendar item

def checkReceipt (store : Store) (receipt : Receipt) : Except String Unit := do
  let _ ← store.decodeReceipt calendar receipt
  ensure (receipt.payload.toJson.size ≤ 1048576) "CHECK constraint failed"

def checkMigration (migration : Migration) : Except String Unit :=
  ensure (migration.name == "legacy-todos-v1" &&
    migration.payload.length ≤ 32 * 1024 * 1024 &&
    (migration.fingerprint == digest migration.payload ||
      (migration.fingerprint == "missing" && migration.payload.isEmpty)))
    "invalid migration provenance"

def restoreTables (database : Database) (file : Export) :
    Except String (Unit × Database) := do
  let sources ← insertAll checkSource
    (fun first second => first.id == second.id) [] file.sources
  let filled ← file.items.foldlM (restoreItem calendar)
    { database.store with sources := sources.map SourceRow.source }
  let dated : Store := { filled with catalogRevision := file.catalogRevision }
  let receipts ← insertAll (checkReceipt calendar dated)
    (fun first second => first.requestId == second.requestId) filled.receipts
    file.receipts
  let migrations ← insertAll (checkMigration digest)
    (fun first second => first.name == second.name) database.migrations
    file.migrations
  let restored : Store :=
    { dated with
      receipts
      migrations := weight migrations }
  let capabilities ← restored.capabilities "local"
  ensure (capabilities == .ofLocal)
    "invalid reserved local source capabilities"
  restored.checkSources
  restored.ensurePayloadBudget
  return ((), ⟨restored, migrations⟩)

/-- The checks before anything is written. -/
def checkExport (database : Database) (file : ExportFile) :
    Except String Unit := do
  ensure (!database.store.readOnly)
    "existing-only maintenance store is read-only"
  ensure (!database.store.blocked) "agenda fenced"
  ensure (file.length ≤ 512 * 1024 * 1024) "export too large"
  let content := file.content
  ensure (content.applicationId == applicationId && content.schema == 1)
    "unsupported export schema"
  ensure (content.items.length ≤ 10000 && content.receipts.length ≤ 100000 &&
    content.sources.length ≤ 10001 && content.migrations.length ≤ 1)
    "export capacity exceeded"
  ensure (content.catalogRevision ≤ i64Max) "invalid catalog revision"
  ensure (database.store.items.isEmpty && database.store.receipts.isEmpty &&
    database.migrations.isEmpty && database.store.catalogRevision == 0)
    "restore requires empty store"

def restore (database : Database) (file : ExportFile) (outcome : Outcome) :
    Except String Unit × Database :=
  match database.checkExport file with
  | .error error => (.error error, database)
  | .ok _ =>
      outcome.conclude fence database
        (outcome.attempt
          (database.restoreTables calendar digest file.content))

variable {calendar : Calendar} {digest : List UInt8 → String}

/-- What the tables keep, beyond what is checked when they are opened. -/
structure Kept (calendar : Calendar) (digest : List UInt8 → String)
    (database : Database) : Prop where
  sound : database.store.Sound calendar
  apart : Apart ItemRow.clashes database.store.items
  sized : ∀ receipt ∈ database.store.receipts,
    receipt.payload.toJson.size ≤ 1048576
  sources : (database.store.sources.map Prod.fst).Nodup
  named : ∀ source ∈ database.store.sources, identifier source.1 = .ok ()
  many : database.store.sources.length ≤ 10001
  weighed : database.store.migrations = weight database.migrations
  single : database.migrations.length ≤ 1
  provenance : ∀ migration ∈ database.migrations,
    checkMigration digest migration = .ok ()

theorem kept_created : created.Kept calendar digest where
  sound :=
    { reserved := rfl
      decodes := by intro row absent; cases absent
      items := by decide
      ids := by decide
      receipts := by intro receipt absent; cases absent
      requests := by decide
      capacity := by decide
      budget := by decide }
  apart := List.Pairwise.nil
  sized := by intro receipt absent; cases absent
  sources := by decide
  named := by
    intro source present
    obtain rfl := List.mem_singleton.mp present
    decide +kernel
  many := by decide
  weighed := rfl
  single := by decide
  provenance := by intro migration absent; cases absent

/-! ### Sources -/

@[simp]
theorem source_ofSource (source : String × Capabilities) :
    (SourceRow.ofSource source).source = source := by
  obtain ⟨id, write, delete, complete⟩ := source
  cases write <;> cases delete <;> cases complete <;> rfl

theorem checkSource_ofSource {source : String × Capabilities}
    (named : identifier source.1 = .ok ()) :
    checkSource (SourceRow.ofSource source) = .ok () := by
  obtain ⟨id, write, delete, complete⟩ := source
  rw [checkSource, show (SourceRow.ofSource _).id = id from rfl, named]
  cases write <;> cases delete <;> cases complete <;> rfl

theorem capabilities_perm {store other : Store}
    (distinct : (store.sources.map Prod.fst).Nodup)
    (same : other.sources.Perm store.sources) :
    other.capabilities = store.capabilities := by
  funext source
  rw [Store.capabilities, Store.capabilities, lookup_eq_find?, lookup_eq_find?,
    find?_key_perm distinct same]

theorem decodeRow_perm {store other : Store}
    (distinct : (store.sources.map Prod.fst).Nodup)
    (same : other.sources.Perm store.sources) :
    other.decodeRow calendar = store.decodeRow calendar := by
  funext row
  simp only [decodeRow, checkCapabilities, capabilities_perm distinct same]

/-! ### Items -/

theorem clashes_symm (first second : ItemRow) :
    first.clashes second = second.clashes first := by
  rw [Bool.eq_iff_iff]
  simp only [ItemRow.clashes, Bool.or_eq_true, Bool.and_eq_true, beq_iff_eq]
  constructor
  · rintro (same | ⟨⟨source, present⟩, uid⟩)
    · exact .inl same.symm
    · exact .inr ⟨⟨source.symm, uid ▸ present⟩, uid.symm⟩
  · rintro (same | ⟨⟨source, present⟩, uid⟩)
    · exact .inl same.symm
    · exact .inr ⟨⟨source.symm, uid ▸ present⟩, uid.symm⟩

/-- A valid record is within the bounds of the columns. -/
theorem allowed_of_validate {record : Record}
    (valid : record.validate calendar = .ok ()) :
    (ItemRow.ofRecord record).allowed = true := by
  simp only [Record.validate, bind_eq_ok_iff, ensure_eq_ok_iff] at valid
  obtain ⟨_, _, _, _, _, revision, _, _, _, _, _, _, _, _, _, _, _, _, _, _, _, _,
    small⟩ := valid
  simp only [ItemRow.allowed, ItemRow.ofRecord, Bool.and_eq_true]
  exact ⟨(Bool.and_eq_true _ _).mp revision, small⟩

/-- What a restored record must meet. -/
def Restores (calendar : Calendar) (store : Store) (item : Record) : Prop :=
  item.validate calendar = .ok () ∧
    ∀ error, store.checkCapabilities item error = .ok ()

theorem restoreItem_eq_ok {store : Store} {item : Record}
    (restores : Restores calendar store item)
    (free : ∀ row ∈ store.items,
      row.clashes (ItemRow.ofRecord item) = false) :
    restoreItem calendar store item =
      .ok { store with items := store.items ++ [ItemRow.ofRecord item] } := by
  have unique : (!store.items.any (ItemRow.ofRecord item).clashes) = true := by
    rw [Bool.not_eq_true', List.any_eq_false]
    intro row present
    simp [clashes_symm _ row, free row present]
  rw [restoreItem, restores.2, ok_bind, insertRecord, restores.1, ok_bind,
    restores.2, ok_bind]
  simp only [ensure_of_true (allowed_of_validate restores.1), ok_bind]
  rw [ensure_of_true unique, ok_bind]
  rfl

theorem restoreItems_eq_ok {items : List Record} {store : Store}
    (restores : ∀ item ∈ items, Restores calendar store item)
    (apart : Apart ItemRow.clashes (items.map ItemRow.ofRecord))
    (free : ∀ item ∈ items, ∀ row ∈ store.items,
      row.clashes (ItemRow.ofRecord item) = false) :
    items.foldlM (restoreItem calendar) store =
      .ok { store with
        items := store.items ++ items.map ItemRow.ofRecord } := by
  induction items generalizing store with
  | nil => simp [pure, Except.pure]
  | cons item items ih =>
      obtain ⟨first, others⟩ := List.forall_mem_cons.mp restores
      obtain ⟨before, rest⟩ := List.pairwise_cons.mp apart
      rw [List.foldlM_cons,
        restoreItem_eq_ok first fun row => free item (by simp) row, ok_bind]
      have next := @ih
        { store with items := store.items ++ [ItemRow.ofRecord item] }
        others rest (by
          intro other among row present
          rcases List.mem_append.mp present with stored | last
          · exact free other (by simp [among]) row stored
          · obtain rfl := List.mem_singleton.mp last
            exact before _ (List.mem_map_of_mem among))
      simpa using next

/-! ## The round trip -/

/-- The file of a database that is kept. -/
def file (database : Database) : Export where
  applicationId := applicationId
  schema := 1
  items := byKey Record.id (database.store.items.map ItemRow.payload)
  catalogRevision := database.store.catalogRevision
  sources := (byKey Prod.fst database.store.sources).map SourceRow.ofSource
  receipts := byKey Receipt.requestId database.store.receipts
  migrations := byKey Migration.name database.migrations

theorem exported_eq_ok {database : Database}
    (sound : database.store.Sound calendar)
    (writable : database.store.blocked = false) :
    database.exported calendar =
      .ok ⟨database.file, database.file.toJson.size⟩ := by
  have snapshot : database.store.snapshot calendar =
      .ok (database.store.items.map ItemRow.payload) := by
    rw [Store.snapshot, ensure_of_true (by simpa using sound.items), ok_bind]
    exact mapM_decodeRow sound.decodes
  rw [exported, writable, snapshot]
  rfl

/-- The database that a file makes of an empty one. -/
def imported (file : Export) : Database where
  store :=
    { items := file.items.map ItemRow.ofRecord
      sources := file.sources.map SourceRow.source
      receipts := file.receipts
      migrations := weight file.migrations
      catalogRevision := file.catalogRevision
      readOnly := false
      blocked := false }
  migrations := file.migrations

theorem ofRecord_payload {store : Store} (decodes : store.Decodes calendar)
    {row : ItemRow} (present : row ∈ store.items) :
    ItemRow.ofRecord row.payload = row :=
  (decodeRow_eq_ok_iff.mp (decodes row present)).2.2.1.symm

section Imported

variable {database : Database}

theorem items_imported (kept : database.Kept calendar digest) :
    (imported database.file).store.items.Perm database.store.items := by
  have rows : (database.store.items.map ItemRow.payload).map ItemRow.ofRecord =
      database.store.items := by
    rw [List.map_map]
    nth_rewrite 2 [← List.map_id database.store.items]
    apply List.map_congr_left
    intro row present
    exact ofRecord_payload kept.sound.decodes present
  have perm := (byKey_perm Record.id
    (database.store.items.map ItemRow.payload)).map ItemRow.ofRecord
  rwa [rows] at perm

theorem sources_imported (database : Database) :
    (imported database.file).store.sources.Perm database.store.sources := by
  have same : SourceRow.source ∘ SourceRow.ofSource = id := by
    funext source
    exact source_ofSource source
  have back : (imported database.file).store.sources =
      byKey Prod.fst database.store.sources := by
    simp [imported, file, same]
  rw [back]
  exact byKey_perm _ _

theorem receipts_imported (database : Database) :
    (imported database.file).store.receipts.Perm database.store.receipts :=
  byKey_perm _ _

theorem migrations_imported (database : Database) :
    (imported database.file).migrations.Perm database.migrations :=
  byKey_perm _ _

theorem payloadSize_imported (kept : database.Kept calendar digest) :
    (imported database.file).store.payloadSize = database.store.payloadSize := by
  have items := ((items_imported kept).map
    fun row => row.payload.toJson.size).sum_eq
  have receipts := ((receipts_imported database).map
    fun receipt => receipt.payload.toJson.size).sum_eq
  have migrations := ((migrations_imported database).map
    fun migration => migration.payload.length).sum_eq
  rw [payloadSize, payloadSize, items, receipts, kept.weighed]
  congr 1

theorem sound_imported (kept : database.Kept calendar digest) :
    (imported database.file).store.Sound calendar := by
  have sound := kept.sound
  have items := items_imported kept
  have receipts := receipts_imported database
  have sources := sources_imported database
  constructor
  · rw [capabilities_perm kept.sources sources]
    exact sound.reserved
  · intro row present
    rw [decodeRow_perm kept.sources sources]
    exact sound.decodes row (items.mem_iff.mp present)
  · rw [items.length_eq]
    exact sound.items
  · exact (items.map _).nodup_iff.mpr sound.ids
  · intro receipt present
    exact decodeReceipt_mono le_rfl
      (sound.receipts receipt (receipts.mem_iff.mp present))
  · exact (receipts.map _).nodup_iff.mpr sound.requests
  · rw [receipts.length_eq]
    exact sound.capacity
  · rw [payloadSize_imported kept]
    exact sound.budget

theorem kept_imported (kept : database.Kept calendar digest) :
    (imported database.file).Kept calendar digest := by
  have sources := sources_imported database
  have migrations := migrations_imported database
  constructor
  · exact sound_imported kept
  · exact kept.apart.perm clashes_symm (items_imported kept)
  · intro receipt present
    exact kept.sized receipt
      ((receipts_imported database).mem_iff.mp present)
  · exact (sources.map _).nodup_iff.mpr kept.sources
  · intro source present
    exact kept.named source (sources.mem_iff.mp present)
  · rw [sources.length_eq]
    exact kept.many
  · rfl
  · rw [migrations.length_eq]
    exact kept.single
  · intro migration present
    exact kept.provenance migration (migrations.mem_iff.mp present)

/-- What is written of a restored database is what it was restored from. -/
theorem file_imported (kept : database.Kept calendar digest) :
    (imported database.file).file = database.file := by
  have items : (database.file.items.map ItemRow.ofRecord).map ItemRow.payload =
      database.file.items := by
    rw [List.map_map]
    exact List.map_id _
  have ids : ((database.store.items.map ItemRow.payload).map
      Record.id).Nodup := by
    have same : (database.store.items.map ItemRow.payload).map Record.id =
        database.store.items.map ItemRow.id := by
      rw [List.map_map]
      apply List.map_congr_left
      intro row present
      have read := ofRecord_payload kept.sound.decodes present
      exact congrArg ItemRow.id read
    rw [same]
    exact kept.sound.ids
  have names : (database.migrations.map Migration.name).Nodup := by
    have single := kept.single
    cases migrations : database.migrations with
    | nil => simp
    | cons first rest =>
        rw [migrations, List.length_cons] at single
        have none : rest = [] := List.eq_nil_of_length_eq_zero (by omega)
        simp [none]
  have sources := byKey_eq_of_perm kept.sources (sources_imported database)
  simp only [file, imported, Export.mk.injEq, true_and] at sources ⊢
  refine ⟨?_, ?_, ?_, ?_⟩
  · have again := byKey_byKey ids
    simpa [file] using (congrArg (byKey Record.id) items).trans again
  · rw [sources]
  · exact byKey_byKey kept.sound.requests
  · exact byKey_byKey names

theorem checkCapabilities_eq_ok {store : Store} {record : Record}
    {error : String}
    (capable : store.checkCapabilities record error = .ok ())
    (other : String) : store.checkCapabilities record other = .ok () := by
  simp only [checkCapabilities, bind_eq_ok_iff, ensure_eq_ok_iff] at capable ⊢
  exact capable

/-- Each record of a file has the capabilities of its restored source. -/
theorem restores_imported (kept : database.Kept calendar digest)
    {store : Store} (sources : store.sources =
      (imported database.file).store.sources)
    {item : Record} (present : item ∈ database.file.items) :
    Restores calendar store item := by
  obtain ⟨row, stored, rfl⟩ :=
    List.mem_map.mp ((byKey_perm Record.id _).mem_iff.mp present)
  obtain ⟨_, valid, _, capable⟩ :=
    decodeRow_eq_ok_iff.mp (kept.sound.decodes row stored)
  refine ⟨valid, fun error => ?_⟩
  have perm := sources_imported database
  rw [← sources] at perm
  have same : store.checkCapabilities row.payload error =
      database.store.checkCapabilities row.payload error := by
    rw [checkCapabilities, checkCapabilities,
      capabilities_perm kept.sources perm]
  rw [same]
  exact checkCapabilities_eq_ok capable error

theorem restoreTables_created (kept : database.Kept calendar digest) :
    created.restoreTables calendar digest database.file =
      .ok ((), imported database.file) := by
  have whole := kept_imported kept
  have sources : insertAll checkSource
      (fun first second => first.id == second.id) [] database.file.sources =
        .ok database.file.sources := by
    apply insertAll_nil
    · intro row present
      obtain ⟨source, among, rfl⟩ := List.mem_map.mp present
      exact checkSource_ofSource
        (kept.named source ((byKey_perm Prod.fst _).mem_iff.mp among))
    · apply apart_of_nodup
      have ids : database.file.sources.map SourceRow.id =
          (byKey Prod.fst database.store.sources).map Prod.fst := by
        rw [file, List.map_map]
        rfl
      rw [ids]
      exact ((byKey_perm Prod.fst _).map _).nodup_iff.mpr kept.sources
  have items := @restoreItems_eq_ok calendar database.file.items
    { created.store with
      sources := database.file.sources.map SourceRow.source }
    (fun item present => restores_imported kept rfl present) whole.apart
    (by intro item _ row absent; cases absent)
  have receipts (dated : Store)
      (revision : dated.catalogRevision = database.file.catalogRevision) :
      insertAll (checkReceipt calendar dated)
        (fun first second => first.requestId == second.requestId)
        created.store.receipts database.file.receipts =
          .ok database.file.receipts := by
    apply insertAll_nil
    · intro receipt present
      have decodes : dated.decodeReceipt calendar receipt =
          .ok receipt.payload :=
        decodeReceipt_mono revision.ge (whole.sound.receipts receipt present)
      rw [checkReceipt, decodes, ok_bind, ensure_eq_ok_iff]
      simpa using whole.sized receipt present
    · exact apart_of_nodup whole.sound.requests
  have migrations : insertAll (checkMigration digest)
      (fun first second => first.name == second.name) created.migrations
      database.file.migrations = .ok database.file.migrations := by
    apply insertAll_nil
    · exact whole.provenance
    · have single := whole.single
      change database.file.migrations.length ≤ 1 at single
      cases rows : database.file.migrations with
      | nil => exact List.Pairwise.nil
      | cons first rest =>
          rw [rows, List.length_cons] at single
          have none : rest = [] := List.eq_nil_of_length_eq_zero (by omega)
          rw [none]
          exact List.pairwise_singleton _ _
  have reserved := whole.sound.reserved
  have keyed := whole.sound.checkSources
  have budget : (imported database.file).store.ensurePayloadBudget = .ok () :=
    ensure_of_true (by simpa using whole.sound.budget) _
  simp only [restoreTables, sources, items, ok_bind]
  rw [receipts, ok_bind, migrations, ok_bind]
  on_goal 2 => rfl
  change (do
    let capabilities ← (imported database.file).store.capabilities "local"
    ensure (capabilities == .ofLocal) _
    (imported database.file).store.checkSources
    (imported database.file).store.ensurePayloadBudget
    return _ : Except String (Unit × Database)) = _
  rw [reserved, ok_bind, keyed, budget]
  rfl

end Imported

/-- An empty database takes what was written of another one. -/
theorem restore_created {database : Database}
    (kept : database.Kept calendar digest)
    (revision : database.store.catalogRevision ≤ i64Max)
    (fits : database.file.toJson.size ≤ 512 * 1024 * 1024)
    {outcome : Outcome} (faultless : outcome.fault = none)
    (committed : outcome.committed = true) (hardened : outcome.hardened = true) :
    created.restore calendar digest
        ⟨database.file, database.file.toJson.size⟩ outcome =
      (.ok (), imported database.file) := by
  have items : database.file.items.length ≤ 10000 := by
    simpa [file] using kept.sound.items
  have receipts : database.file.receipts.length ≤ 100000 := by
    simpa [file] using kept.sound.capacity
  have sources : database.file.sources.length ≤ 10001 := by
    simpa [file] using kept.many
  have migrations : database.file.migrations.length ≤ 1 := by
    simpa [file] using kept.single
  have dated : database.file.catalogRevision ≤ i64Max := revision
  have checked : created.checkExport
      ⟨database.file, database.file.toJson.size⟩ = .ok () := by
    simp only [checkExport]
    rw [ensure_of_true (by rfl), ok_bind, ensure_of_true (by rfl), ok_bind,
      ensure_of_true (by simpa using fits), ok_bind, ensure_of_true (by rfl),
      ok_bind, ensure_of_true (by simp [items, receipts, sources, migrations]),
      ok_bind, ensure_of_true (decide_eq_true dated), ok_bind]
    rfl
  rw [restore, checked, restoreTables_created kept]
  simp [Outcome.attempt, Outcome.conclude, faultless, committed, hardened]

/-- The rows of a restored database answer as those it was written from. -/
theorem same_imported {database : Database}
    (kept : database.Kept calendar digest) :
    (imported database.file).store.records = database.store.records ∧
      (imported database.file).store.capabilities =
        database.store.capabilities ∧
      ∀ request, (imported database.file).store.receipt calendar request =
        database.store.receipt calendar request := by
  refine ⟨?_, capabilities_perm kept.sources (sources_imported database), ?_⟩
  · funext id
    rw [records, records,
      find?_key_perm kept.sound.ids (items_imported kept)]
  · intro request
    have found := find?_key_perm kept.sound.requests
      (receipts_imported database) request
    rw [Store.receipt, Store.receipt, found]
    rfl

end Database

end BarDaemon.Agendas
