import BarDaemon.AgendaAdoption

/-!
# Lifecycles of the agenda database

From its creation on, through openings, adoptions, requests and restarts, the
database keeps what its tables need to be written out and restored.
-/

namespace BarDaemon.Agendas

open CompactJson FallibleSteps TransitionRuns TableImports Store

/-! ## Requests on a database -/

namespace Database

variable {calendar : Calendar} {digest : List UInt8 → String}

/-- The fingerprint of a text. -/
def textDigest (digest : List UInt8 → String) (text : String) : String :=
  digest (utf8 text)

theorem apart_applyItems {store after : Store} {mutation : Mutation}
    {fingerprint : String → String} {now : I64} {item : Option Record}
    {deletedId : Option String} (apart : Apart ItemRow.clashes store.items)
    (succeeded : store.applyItems calendar fingerprint mutation now =
      .ok (item, deletedId, after)) :
    Apart ItemRow.clashes after.items := by
  cases applied_of_applyItems succeeded with
  | created creates =>
      obtain ⟨_, inserts⟩ := createItem_eq_ok creates
      obtain ⟨_, rfl, free⟩ := insertRecord_eq_ok inserts
      apply List.pairwise_append.mpr
      refine ⟨apart, List.pairwise_singleton _ _, ?_⟩
      intro row present new last
      obtain rfl := List.mem_singleton.mp last
      exact free row present
  | patched patches =>
      rw [patchItem_items patches]
      apply List.pairwise_map.mpr
      apply List.Pairwise.imp _ apart
      intro first second free
      rw [ItemRow.clashes] at free ⊢
      split <;> split <;> exact free
  | deleted deletes =>
      rw [deleteItem_items deletes]
      exact apart.sublist List.filter_sublist

theorem sized_apply {store after : Store} {mutation : Mutation}
    {fingerprint : String → String} {hash : String} {now : I64}
    {result : MutationResult}
    (succeeded : store.apply calendar fingerprint mutation hash now =
      .ok (result, after)) :
    result.toJson.size ≤ 1048576 := by
  rw [apply, bind_eq_ok_iff] at succeeded
  obtain ⟨⟨item, deletedId, applied⟩, _, succeeded⟩ := succeeded
  simp only [bind_eq_ok_iff, ensure_eq_ok_iff, decide_eq_true_eq] at succeeded
  obtain ⟨_, small, _, _, _, _, done⟩ := succeeded
  cases Except.ok.inj done
  exact small

theorem Kept.fenced {database : Database}
    (kept : database.Kept calendar digest) (blocked readOnly : Bool) :
    Kept calendar digest
      ⟨{ database.store with blocked, readOnly }, database.migrations⟩ :=
  { kept with sound := kept.sound.fenced blocked readOnly }

theorem kept_change {database : Database} {action : Action} {after : Store}
    (printed : ∀ bytes, IsFingerprint (digest bytes) = true)
    (kept : database.Kept calendar digest)
    (change : Change calendar (textDigest digest) database.store action after) :
    Kept calendar digest ⟨after, database.migrations⟩ := by
  have sound := sound_change (fun text => printed (utf8 text))
    kept.sound change
  cases change with
  | kept action blocked => exact kept.fenced blocked database.store.readOnly
  | reopened existingOnly => exact kept.fenced false existingOnly
  | invalidated outcome blocked writable => exact { kept with sound := sound }
  | applied event result after blocked identified prepared applied =>
      have small := sized_apply applied
      obtain ⟨items, applies, frame, _, _, _, _, rfl⟩ := apply_eq_ok applied
      have apart := apart_applyItems kept.apart applies
      refine { kept with sound := sound, apart := apart, sized := ?_ }
      intro receipt present
      rcases List.mem_append.mp present with stored | last
      · exact kept.sized receipt stored
      · obtain rfl := List.mem_singleton.mp last
        exact small

/-! ## Adoption -/

/-- Nothing has been written but the schema. -/
def Pristine (database : Database) : Prop :=
  ∃ blocked readOnly,
    database = ⟨{ created.store with blocked, readOnly }, []⟩

theorem Pristine.kept {database : Database} (pristine : database.Pristine) :
    database.Kept calendar digest := by
  obtain ⟨blocked, readOnly, rfl⟩ := pristine
  exact kept_created.fenced blocked readOnly

theorem legacyRecords_eq_ok {ids : List String} {todos : List TodoItem}
    {records : List Record}
    (read : legacyRecords calendar ids todos = .ok records) :
    records = todos.map TodoItem.record := by
  induction todos generalizing ids records with
  | nil => exact (Except.ok.inj read).symm
  | cons todo todos ih =>
      simp only [legacyRecords, bind_eq_ok_iff] at read
      obtain ⟨_, _, _, _, others, rest, done⟩ := read
      obtain rfl := Except.ok.inj done
      rw [ih rest, List.map_cons]

theorem readLegacy_eq_ok {legacy : Option LegacyFile}
    {backedUp : Except String Unit} {records : List Record}
    (read : readLegacy calendar legacy backedUp = .ok records) :
    (migrationOf digest legacy).payload.length ≤ 32 * 1024 * 1024 ∧
      ∃ todos, todosOf legacy = .ok todos ∧ todos.length ≤ 10000 ∧
        records = todos.map TodoItem.record := by
  simp only [readLegacy, bind_eq_ok_iff, ensure_eq_ok_iff, decide_eq_true_eq]
    at read
  obtain ⟨_, small, todos, reads, _, few, taken, checked, _, _, done⟩ := read
  obtain rfl := Except.ok.inj done
  refine ⟨?_, todos, reads, few, legacyRecords_eq_ok checked⟩
  cases legacy with
  | none => simp [migrationOf]
  | some file =>
      simp only [whenSome, ensure_eq_ok_iff, decide_eq_true_eq] at small
      exact small

theorem checkMigration_migrationOf {legacy : Option LegacyFile}
    (small : (migrationOf digest legacy).payload.length ≤ 32 * 1024 * 1024) :
    checkMigration digest (migrationOf digest legacy) = .ok () := by
  rw [checkMigration, ensure_eq_ok_iff]
  cases legacy with
  | none => simp [migrationOf]
  | some file =>
      have fits := decide_eq_true small
      simp only [migrationOf] at fits ⊢
      simp [fits]

/-- The records of the todos are all that a pristine database gets. -/
theorem adopt_eq_ok {database after : Database} {legacy : Option LegacyFile}
    {backedUp : Except String Unit} {records : List Record}
    (pristine : database.Pristine)
    (read : readLegacy calendar legacy backedUp = .ok records)
    (adopts : database.adopt calendar records (migrationOf digest legacy) =
      .ok ((), after)) :
    after.Kept calendar digest ∧
      after.migrations = [migrationOf digest legacy] ∧
      after.store.items = records.map ItemRow.ofRecord ∧
      after.store.receipts = [] ∧
      after.store.catalogRevision = (if records.isEmpty then 0 else 1) ∧
      after.store.blocked = database.store.blocked ∧
      after.store.readOnly = database.store.readOnly := by
  have before : database.Kept calendar digest := pristine.kept
  obtain ⟨small, todos, _, few, rfl⟩ := @readLegacy_eq_ok calendar digest _ _ _ read
  obtain ⟨blocked, readOnly, rfl⟩ := pristine
  have filling : Filling calendar { created.store with blocked, readOnly } :=
    { reserved := before.sound.reserved
      decodes := before.sound.decodes
      ids := before.sound.ids
      apart := before.apart
      sources := before.sources
      named := before.named }
  simp only [adopt, bind_eq_ok_iff, ensurePayloadBudget, ensure_eq_ok_iff,
    decide_eq_true_eq] at adopts
  obtain ⟨filled, adopted, _, budget, done⟩ := adopts
  obtain ⟨whole, rows, bound⟩ := adoptRecords_eq_ok filling adopted
  simp only [pure, Except.pure, Except.ok.injEq, Prod.mk.injEq, true_and] at done
  subst done
  have items : filled.items =
      (todos.map TodoItem.record).map ItemRow.ofRecord := by
    rw [rows]
    rfl
  have receipts : filled.receipts = [] := by rw [rows]; rfl
  have revision : filled.catalogRevision = 0 := by rw [rows]; rfl
  have fenced : filled.blocked = blocked := by rw [rows]
  have mode : filled.readOnly = readOnly := by rw [rows]
  refine ⟨?_, rfl, items, receipts, by simp [revision], fenced, mode⟩
  constructor
  · constructor
    · exact whole.reserved
    · exact decodes_of_rows rfl whole.decodes
    · change filled.items.length ≤ 10000
      rw [items]
      simpa using few
    · exact whole.ids
    · intro receipt absent
      change receipt ∈ filled.receipts at absent
      rw [receipts] at absent
      cases absent
    · change (filled.receipts.map _).Nodup
      rw [receipts]
      exact List.nodup_nil
    · change filled.receipts.length ≤ 100000
      rw [receipts]
      exact Nat.zero_le _
    · exact budget
  · exact whole.apart
  · intro receipt absent
    change receipt ∈ filled.receipts at absent
    rw [receipts] at absent
    cases absent
  · exact whole.sources
  · exact whole.named
  · rw [List.length_map] at bound
    exact bound.trans (Nat.add_le_add_left few 1)
  · rfl
  · exact le_rfl
  · intro migration present
    obtain rfl := List.mem_singleton.mp present
    exact checkMigration_migrationOf small

/-- What the adoption of a pristine database leaves. -/
structure Adopted (calendar : Calendar) (digest : List UInt8 → String)
    (reading : Except String (Option LegacyFile)) (after : Database) :
    Prop where
  kept : after.Kept calendar digest
  read : ∃ legacy todos, reading = .ok legacy ∧ todosOf legacy = .ok todos ∧
    after.migrations = [migrationOf digest legacy] ∧
    after.store.items =
      todos.map (fun todo => ItemRow.ofRecord todo.record) ∧
    after.store.receipts = [] ∧
    after.store.catalogRevision = if todos.isEmpty then 0 else 1

theorem name_of_kept {database : Database}
    (kept : database.Kept calendar digest) {migration : Migration}
    (present : migration ∈ database.migrations) :
    migration.name = "legacy-todos-v1" := by
  have allowed := kept.provenance migration present
  rw [checkMigration, ensure_eq_ok_iff] at allowed
  simp only [Bool.and_eq_true, beq_iff_eq] at allowed
  exact allowed.1.1

/-- The row of the adoption is the only one. -/
theorem find?_migrationOf {database : Database}
    (kept : database.Kept calendar digest) (legacy : Option LegacyFile) :
    database.migrations.find?
        (fun row => row.name == (migrationOf digest legacy).name) =
      database.migrations.head? := by
  cases rows : database.migrations with
  | nil => rfl
  | cons first rest =>
      have named := @name_of_kept calendar digest database kept first (by simp [rows])
      simp [migrationOf, named]

/-- Where todos have been adopted, a file is only compared with them. -/
theorem migrateLegacy_again {database : Database}
    (kept : database.Kept calendar digest) {previous : Migration}
    (adopted : database.migrations = [previous]) (legacy : Option LegacyFile)
    (backedUp : Except String Unit) (outcome : Outcome) :
    database.migrateLegacy calendar digest (.ok legacy) backedUp outcome =
      (if legacy.isNone ||
          previous.fingerprint == (migrationOf digest legacy).fingerprint then
        .ok ()
      else
        .error "legacy todo content changed after migration; explicit reconciliation required",
        database) := by
  have found := find?_migrationOf kept legacy
  rw [adopted, List.head?_cons] at found
  simp only [migrateLegacy, adopted, found]
  split <;> rfl

theorem migrations_eq_singleton {database : Database}
    (kept : database.Kept calendar digest)
    (adopted : database.migrations ≠ []) :
    ∃ previous, database.migrations = [previous] := by
  have single := kept.single
  cases rows : database.migrations with
  | nil => exact absurd rows adopted
  | cons first rest =>
      rw [rows, List.length_cons] at single
      exact ⟨first, by simp [List.eq_nil_of_length_eq_zero
        (show rest.length = 0 by omega)]⟩

/-- A pristine database stays so, or it has adopted what was read. -/
theorem migrateLegacy_pristine {database after : Database}
    (pristine : database.Pristine)
    {reading : Except String (Option LegacyFile)}
    {backedUp result : Except String Unit} {outcome : Outcome}
    (migrates : database.migrateLegacy calendar digest reading backedUp
      outcome = (result, after)) :
    (after.Pristine ∧ ∃ error, result = .error error) ∨
      Adopted calendar digest reading after := by
  have fresh : database.migrations = [] := by
    obtain ⟨_, _, rfl⟩ := pristine
    rfl
  cases reading with
  | error error =>
      cases migrates
      exact .inl ⟨pristine, error, rfl⟩
  | ok legacy =>
      simp only [migrateLegacy, fresh, List.find?_nil] at migrates
      cases read : readLegacy calendar legacy backedUp with
      | error error =>
          rw [read] at migrates
          cases migrates
          exact .inl ⟨pristine, error, rfl⟩
      | ok records =>
          rw [read] at migrates
          have adopts : ∀ adopted, database.adopt calendar records
              (migrationOf digest legacy) = .ok ((), adopted) → ∀ blocked,
                Adopted calendar digest (.ok legacy)
                  (adopted.fence blocked) := by
            intro adopted carried blocked
            obtain ⟨kept, rows, items, receipts, revision, _, mode⟩ :=
              adopt_eq_ok pristine read carried
            obtain ⟨_, todos, reads, _, rfl⟩ :=
              @readLegacy_eq_ok calendar digest _ _ _ read
            refine ⟨kept.fenced blocked adopted.store.readOnly, legacy, todos,
              rfl, reads, rows, ?_, receipts, ?_⟩
            · rw [List.map_map] at items
              exact items
            · rw [show (adopted.fence blocked).store.catalogRevision =
                adopted.store.catalogRevision from rfl, revision]
              simp
          rcases conclude_cases outcome fence database (outcome.attempt
              (database.adopt calendar records (migrationOf digest legacy)))
            with ⟨error, blocked, ended⟩ | ⟨_, adopted, applied, ended⟩
          · left
            cases ended.symm.trans migrates
            obtain ⟨_, readOnly, rfl⟩ := pristine
            exact ⟨⟨blocked, readOnly, rfl⟩, error, rfl⟩
          · right
            obtain ⟨_, carried⟩ := (attempt_eq_ok_iff outcome).mp applied
            rcases ended with ended | ⟨error, ended⟩
            · cases ended.symm.trans migrates
              exact adopts after carried after.store.blocked
            · cases ended.symm.trans migrates
              exact adopts adopted carried true

/-! ## Opening -/

theorem Kept.connected {database : Database}
    (kept : database.Kept calendar digest) (existingOnly : Bool) :
    (database.connected existingOnly).Kept calendar digest :=
  kept.fenced false existingOnly

theorem Pristine.connected {database : Database}
    (pristine : database.Pristine) (existingOnly : Bool) :
    (database.connected existingOnly).Pristine := by
  obtain ⟨_, _, rfl⟩ := pristine
  exact ⟨false, existingOnly, rfl⟩

/-- A database that is kept opens as far as its todos can be adopted. -/
theorem openStore_eq {database : Database}
    (kept : database.Kept calendar digest) (legacy : Option Legacy)
    (existingOnly : Bool)
    (settled : ((database.connected existingOnly).adoptLegacy calendar digest
      legacy).2.Kept calendar digest) :
    database.openStore calendar digest legacy existingOnly =
      (database.connected existingOnly).adoptLegacy calendar digest legacy := by
  have opened := kept.connected existingOnly
  simp only [openStore, opened.sound.verifySchema, settled.sound.verifyRows]
  cases result : ((database.connected existingOnly).adoptLegacy calendar digest
    legacy).1 with
  | error error => exact Prod.ext result.symm rfl
  | ok done => exact Prod.ext result.symm rfl

/-! ## Lifecycles -/

/-- The database, and whether an owner runs on it. -/
structure Owner where
  database : Database
  running : Bool

/-- What may happen to the database: the daemon opens it with the path of the
todos, a maintenance reader opens it, and an owner that runs gets requests. -/
inductive Turn
  | daemon (legacy : Legacy)
  | maintenance
  | request (event : Event)
  | invalidate (outcome : Outcome)

def Owner.openWith (calendar : Calendar) (digest : List UInt8 → String)
    (owner : Owner) (legacy : Option Legacy) (existingOnly : Bool) : Owner :=
  let opened := owner.database.openStore calendar digest legacy existingOnly
  ⟨opened.2, opened.1.isOk⟩

def Owner.ask (calendar : Calendar) (digest : List UInt8 → String)
    (owner : Owner) (action : Action) : Owner :=
  if owner.running then
    { owner with
      database :=
        ⟨owner.database.store.act calendar (textDigest digest) action,
          owner.database.migrations⟩ }
  else
    owner

def Owner.step (calendar : Calendar) (digest : List UInt8 → String)
    (owner : Owner) : Turn → Owner
  | .daemon legacy => owner.openWith calendar digest (some legacy) false
  | .maintenance => owner.openWith calendar digest none true
  | .request event => owner.ask calendar digest (.request event)
  | .invalidate outcome => owner.ask calendar digest (.invalidate outcome)

/-- Nothing is written by an owner before the todos have been adopted. -/
structure Owner.Lives (calendar : Calendar) (digest : List UInt8 → String)
    (owner : Owner) : Prop where
  kept : owner.database.Kept calendar digest
  settled : owner.database.migrations ≠ [] ∨ owner.database.Pristine
  writable : owner.running = true → owner.database.store.readOnly = false →
    owner.database.migrations ≠ []

theorem readOnly_of_change {store after : Store} {action : Action}
    {fingerprint : String → String}
    (change : Change calendar fingerprint store action after) :
    (after.readOnly = store.readOnly ∧
        (store.readOnly = true → after = { store with
          blocked := after.blocked })) ∨
      ∃ existingOnly, action = .reopen existingOnly := by
  cases change with
  | kept action blocked => exact .inl ⟨rfl, fun _ => rfl⟩
  | reopened existingOnly => exact .inr ⟨existingOnly, rfl⟩
  | applied event result after blocked identified prepared applied =>
      obtain ⟨writable, _⟩ := prepare_fresh prepared
      obtain ⟨_, _, _, _, _, _, _, rfl⟩ := apply_eq_ok applied
      refine .inl ⟨rfl, fun readOnly => ?_⟩
      rw [writable] at readOnly
      cases readOnly
  | invalidated outcome blocked writable =>
      refine .inl ⟨rfl, fun readOnly => ?_⟩
      rw [writable] at readOnly
      cases readOnly

theorem Owner.Lives.opened {owner : Owner}
    (lives : owner.Lives calendar digest) (legacy : Option Legacy)
    (existingOnly : Bool) (mode : existingOnly = legacy.isNone) :
    (owner.openWith calendar digest legacy existingOnly).Lives calendar digest ∧
      (owner.database.migrations ≠ [] →
        (owner.openWith calendar digest legacy existingOnly).database =
          owner.database.connected existingOnly) := by
  have opened := lives.kept.connected existingOnly
  have opens := openStore_eq lives.kept legacy existingOnly
  rw [Owner.openWith]
  rcases lives.settled with adopted | pristine
  · have same : ((owner.database.connected existingOnly).adoptLegacy calendar
        digest legacy).2 = owner.database.connected existingOnly := by
      obtain ⟨previous, single⟩ := migrations_eq_singleton opened adopted
      cases legacy with
      | none => rfl
      | some legacy =>
          rw [adoptLegacy]
          cases reading : legacy.reading with
          | error error => rfl
          | ok file => rw [migrateLegacy_again opened single]
    have settled := opened
    rw [← same] at settled
    rw [opens settled, same]
    exact ⟨⟨opened, .inl adopted, fun _ _ => adopted⟩, fun _ => rfl⟩
  · refine ⟨?_, ?_⟩
    · have fresh := pristine.connected existingOnly
      cases legacy with
      | none =>
          rw [opens opened]
          refine ⟨opened, .inr fresh, fun _ readOnly => ?_⟩
          rw [mode] at readOnly
          cases readOnly
      | some legacy =>
          rcases migrates : (owner.database.connected existingOnly).adoptLegacy
            calendar digest (some legacy) with ⟨result, after⟩
          rw [migrates] at opens
          rcases migrateLegacy_pristine fresh migrates with
            ⟨unchanged, error, failed⟩ | adopted
          · rw [opens unchanged.kept]
            refine ⟨unchanged.kept, .inr unchanged, fun running => ?_⟩
            rw [failed] at running
            cases running
          · obtain ⟨_, _, _, _, single, _⟩ := adopted.read
            have some_ : after.migrations ≠ [] := by
              rw [single]
              simp
            rw [opens adopted.kept]
            exact ⟨adopted.kept, .inl some_, fun _ _ => some_⟩
    · intro adopted
      obtain ⟨_, _, same⟩ := pristine
      rw [same] at adopted
      exact absurd rfl adopted

theorem Owner.Lives.asked {owner : Owner}
    (printed : ∀ bytes, IsFingerprint (digest bytes) = true)
    (lives : owner.Lives calendar digest) (action : Action)
    (asked : ∀ existingOnly, action ≠ .reopen existingOnly) :
    (owner.ask calendar digest action).Lives calendar digest ∧
      (owner.ask calendar digest action).database.migrations =
        owner.database.migrations := by
  rw [Owner.ask]
  split
  · rename_i running
    have change := @change_act calendar (textDigest digest)
      owner.database.store action
    have kept := kept_change printed lives.kept change
    rcases readOnly_of_change change with ⟨mode, same⟩ | ⟨existingOnly, never⟩
    · refine ⟨⟨kept, ?_, ?_⟩, rfl⟩
      · rcases lives.settled with adopted | pristine
        · exact .inl adopted
        · cases readOnly : owner.database.store.readOnly with
          | false => exact .inl (lives.writable running readOnly)
          | true =>
              right
              obtain ⟨_, _, shape⟩ := pristine
              rw [same readOnly, shape]
              exact ⟨_, _, rfl⟩
      · intro _ readOnly
        exact lives.writable running (mode ▸ readOnly)
    · exact absurd never (asked existingOnly)
  · exact ⟨lives, rfl⟩

theorem Owner.Lives.stepped {owner : Owner}
    (printed : ∀ bytes, IsFingerprint (digest bytes) = true)
    (lives : owner.Lives calendar digest) (turn : Turn) :
    (owner.step calendar digest turn).Lives calendar digest ∧
      (owner.database.migrations ≠ [] →
        (owner.step calendar digest turn).database.migrations =
          owner.database.migrations) := by
  cases turn with
  | daemon legacy =>
      obtain ⟨after, same⟩ := lives.opened (some legacy) false rfl
      refine ⟨after, fun adopted => ?_⟩
      rw [Owner.step, same adopted]
      rfl
  | maintenance =>
      obtain ⟨after, same⟩ := lives.opened none true rfl
      refine ⟨after, fun adopted => ?_⟩
      rw [Owner.step, same adopted]
      rfl
  | request event =>
      obtain ⟨after, same⟩ := lives.asked printed (.request event)
        (fun _ never => by cases never)
      exact ⟨after, fun _ => same⟩
  | invalidate outcome =>
      obtain ⟨after, same⟩ := lives.asked printed (.invalidate outcome)
        (fun _ never => by cases never)
      exact ⟨after, fun _ => same⟩

theorem Owner.Lives.reached {owner : Owner}
    (printed : ∀ bytes, IsFingerprint (digest bytes) = true)
    (lives : owner.Lives calendar digest) (turns : List Turn) :
    (run (Owner.step calendar digest) owner turns).Lives calendar digest := by
  have always : StepsMeet (Owner.step calendar digest) (fun _ _ => True) owner
      turns := stepsMeet_of_forall (fun _ _ => trivial) owner turns
  apply invariant_run _ lives always
  intro state turn lives _
  exact (lives.stepped printed turn).1

/-- The database that has just been made, before it is opened. -/
def Owner.first : Owner :=
  ⟨created, false⟩

theorem Owner.lives_first : Owner.first.Lives calendar digest where
  kept := kept_created
  settled := .inr ⟨false, false, rfl⟩
  writable := fun running => by cases running

theorem Owner.Lives.migrations_reached {owner : Owner}
    (printed : ∀ bytes, IsFingerprint (digest bytes) = true)
    (lives : owner.Lives calendar digest)
    (adopted : owner.database.migrations ≠ []) (turns : List Turn) :
    (run (Owner.step calendar digest) owner turns).database.migrations =
      owner.database.migrations := by
  induction turns generalizing owner with
  | nil => rfl
  | cons turn turns ih =>
      obtain ⟨after, same⟩ := lives.stepped printed turn
      rw [run_cons, ih after (by rw [same adopted]; exact adopted),
        same adopted]

end Database

open Database

/-- The todos of a former version are adopted at most once, and then all of
them with nothing else: whatever has happened since the database was made, it is
pristine or has the row that says so; a pristine one that opens has the todos
that were read, and one that has adopted todos keeps the row and opens exactly
where the file is gone or has the same fingerprint. -/
theorem legacy_adopted_once (calendar : Calendar)
    (digest : List UInt8 → String)
    (printed : ∀ bytes, IsFingerprint (digest bytes) = true)
    (turns : List Turn) (legacy : Legacy) :
    let reached := run (Owner.step calendar digest) .first turns
    let opened := reached.database.openStore calendar digest (some legacy) false
    (reached.database.Pristine ∨
        ∃ previous, reached.database.migrations = [previous]) ∧
      (reached.database.Pristine →
        (opened.2.Pristine ∧ ∃ error, opened.1 = .error error) ∨
          Adopted calendar digest legacy.reading opened.2) ∧
      ∀ previous, reached.database.migrations = [previous] →
        (∀ more, (run (Owner.step calendar digest) reached
          more).database.migrations = [previous]) ∧
        opened.2 = reached.database.connected false ∧
        (opened.1 = .ok () ↔ ∃ file, legacy.reading = .ok file ∧
          (file = none ∨
            previous.fingerprint = (migrationOf digest file).fingerprint)) := by
  intro reached opened
  have lives : reached.Lives calendar digest :=
    Owner.lives_first.reached printed turns
  have fresh := lives.kept.connected false
  have opens := openStore_eq lives.kept (some legacy) false
  refine ⟨?_, ?_, ?_⟩
  · rcases lives.settled with adopted | pristine
    · exact .inr (migrations_eq_singleton lives.kept adopted)
    · exact .inl pristine
  · intro pristine
    rcases migrates : (reached.database.connected false).adoptLegacy calendar
      digest (some legacy) with ⟨result, after⟩
    have ends := migrateLegacy_pristine (pristine.connected false) migrates
    have kept : after.Kept calendar digest := by
      rcases ends with ⟨unchanged, _⟩ | adopted
      · exact unchanged.kept
      · exact adopted.kept
    rw [migrates] at opens
    have same : opened = (result, after) := opens kept
    rw [same]
    exact ends
  · intro previous adopted
    have settled : reached.database.migrations ≠ [] := by
      rw [adopted]
      simp
    refine ⟨fun more => ?_, ?_⟩
    · rw [lives.migrations_reached printed settled more, adopted]
    · cases reading : legacy.reading with
      | error error =>
          have same : (reached.database.connected false).adoptLegacy calendar
              digest (some legacy) =
                (.error error, reached.database.connected false) := by
            simp only [adoptLegacy, migrateLegacy, reading]
          rw [same] at opens
          have ends : opened = _ := opens fresh
          rw [ends]
          simp
      | ok file =>
          have again := migrateLegacy_again fresh adopted file legacy.backedUp
            legacy.outcome
          rw [← reading] at again
          have same : (reached.database.connected false).adoptLegacy calendar
              digest (some legacy) = _ := again
          rw [same] at opens
          have ends : opened = _ := opens fresh
          rw [ends]
          refine ⟨rfl, ?_⟩
          cases file with
          | none => simp
          | some file =>
              by_cases content : previous.fingerprint =
                  (migrationOf digest (some file)).fingerprint
              · simp [content]
              · simp [content]

/-- Whatever has happened since a database was made, what is written of it is
taken by an empty one, which then answers as the first one did and is written
out as the same file. -/
theorem restored_as_written (calendar : Calendar)
    (digest : List UInt8 → String)
    (printed : ∀ bytes, IsFingerprint (digest bytes) = true)
    (turns : List Turn) (outcome : Outcome) (database : Database)
    (reached : database =
      (run (Owner.step calendar digest) .first turns).database)
    (writable : database.store.blocked = false)
    (revision : database.store.catalogRevision ≤ i64Max)
    (fits : database.file.toJson.size ≤ 512 * 1024 * 1024)
    (faultless : outcome.fault = none) (committed : outcome.committed = true)
    (hardened : outcome.hardened = true) :
    ∃ file restored, database.exported calendar = .ok file ∧
      created.restore calendar digest file outcome = (.ok (), restored) ∧
      restored.Kept calendar digest ∧
      restored.exported calendar = .ok file ∧
      restored.store.records = database.store.records ∧
      restored.store.capabilities = database.store.capabilities ∧
      (∀ request, restored.store.receipt calendar request =
        database.store.receipt calendar request) ∧
      restored.store.catalogRevision = database.store.catalogRevision ∧
      restored.migrations.Perm database.migrations := by
  have kept : database.Kept calendar digest := by
    rw [reached]
    exact (Owner.lives_first.reached printed turns).kept
  have whole := kept_imported kept
  obtain ⟨items, capabilities, receipts⟩ := same_imported kept
  have again := exported_eq_ok whole.sound rfl
  rw [file_imported kept] at again
  exact ⟨_, Database.imported database.file, exported_eq_ok kept.sound writable,
    restore_created kept revision fits faultless committed hardened, whole,
    again, items, capabilities, receipts, rfl, migrations_imported database⟩

/-! A todo is adopted, written out and restored. -/

def adoptedOutcome : Outcome :=
  ⟨none, true, true, true, true⟩

def adoptedTodo : TodoItem where
  id := "t1"
  sourceId := "phone"
  title := "Call home"
  completed := false
  priority := 3
  dueUnixMs := none
  dueDate := some "2026-03-01"
  createdUnixMs := ⟨1000, thousand_i64⟩
  completedUnixMs := none

/-- The file of a former version with the todo. -/
def adoptedText : String :=
  "[\x7b\"id\":\"t1\",\"source_id\":\"phone\",\"title\":\"Call home\"," ++
    "\"completed\":false,\"priority\":3,\"due_unix_ms\":null," ++
    "\"due_date\":\"2026-03-01\",\"created_unix_ms\":1000," ++
    "\"completed_unix_ms\":null\x7d]"

def adoptedFile : LegacyFile :=
  ⟨utf8 adoptedText, .ok [adoptedTodo]⟩

/-- The digest of the file; the other one is that of nothing. -/
def adoptedDigest (bytes : List UInt8) : String :=
  if bytes = utf8 adoptedText then
    "dba88e3612e602caf897a14e5adabc6794d3a342fa30491900f10d7ef3ce5b34"
  else
    "e3b0c44298fc1c149afbf4c8996fb92427ae41e4649b934ca495991b7852b855"

theorem adoptedDigest_printed (bytes : List UInt8) :
    IsFingerprint (adoptedDigest bytes) = true := by
  rw [adoptedDigest]
  split
  · decide +kernel
  · decide +kernel

def adoptedLegacy : Legacy where
  reading := .ok (some adoptedFile)
  backedUp := .ok ()
  outcome := adoptedOutcome

def adoptedTurns : List Turn :=
  [.daemon adoptedLegacy, .invalidate adoptedOutcome]

def adoptedDatabase : Database :=
  (run (Owner.step sampleCalendar adoptedDigest) .first adoptedTurns).database

theorem legacy_adopted_once_sample :
    (adoptedDatabase.openStore sampleCalendar adoptedDigest (some adoptedLegacy)
      false).1 = .ok () := by
  obtain ⟨_, _, again⟩ := legacy_adopted_once sampleCalendar adoptedDigest
    adoptedDigest_printed adoptedTurns adoptedLegacy
  rw [show (run (Owner.step sampleCalendar adoptedDigest) .first
    adoptedTurns).database = adoptedDatabase from rfl] at again
  have adopted : adoptedDatabase.migrations =
      [migrationOf adoptedDigest (some adoptedFile)] := by
    decide +kernel
  obtain ⟨_, _, opens⟩ := again _ adopted
  exact opens.mpr ⟨_, rfl, .inr rfl⟩

theorem restored_as_written_sample :
    adoptedDatabase.store.items.length = 1 ∧
      ∃ file restored, adoptedDatabase.exported sampleCalendar = .ok file ∧
        created.restore sampleCalendar adoptedDigest file adoptedOutcome =
          (.ok (), restored) ∧
        restored.exported sampleCalendar = .ok file := by
  refine ⟨by decide +kernel, ?_⟩
  obtain ⟨file, restored, written, taken, _, again, _⟩ :=
    restored_as_written sampleCalendar adoptedDigest adoptedDigest_printed
      adoptedTurns adoptedOutcome adoptedDatabase rfl (by decide +kernel)
      (by decide +kernel) (by decide +kernel) rfl rfl rfl
  exact ⟨file, restored, written, taken, again⟩

end BarDaemon.Agendas
