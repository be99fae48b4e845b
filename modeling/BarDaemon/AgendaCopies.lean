import BarDaemon.AgendaReceipts
import BarDaemon.AgendaServices
import Mathlib.Data.List.Nodup

/-!
# Copies of the agenda store

What the store does to its rows, as the copy of the service has to follow it.
-/

namespace BarDaemon.Agendas.Store

open FallibleSteps

variable {calendar : Calendar} {fingerprint : String → String}

theorem open_of_prepare {store : Store} {mutation : Mutation}
    {prepared : String × Option MutationResult}
    (prepares : store.prepare calendar fingerprint mutation = .ok prepared) :
    store.blocked = false := by
  simp only [prepare, bind_eq_ok_iff, ensure_eq_ok_iff] at prepares
  obtain ⟨_, _, _, unblocked, _⟩ := prepares
  simpa using unblocked

theorem submit_blocked {store : Store} (blocked : store.blocked = true)
    (event : Event) :
    ∃ error, store.submit calendar fingerprint event = (.error error, store) := by
  rw [submit]
  split
  · exact ⟨_, rfl⟩
  · rw [mutate]
    cases prepares : store.prepare calendar fingerprint event.mutation with
    | error error => exact ⟨error, rfl⟩
    | ok prepared =>
        have unblocked := open_of_prepare prepares
        rw [blocked] at unblocked
        cases unblocked

/-- What has been applied: a receipt in the next revision, which tells what has
been done to the items. -/
structure Grows (calendar : Calendar) (store : Store) (result : MutationResult)
    (after : Store) : Prop where
  sound : after.Sound calendar
  known : ∃ receipt ∈ after.receipts, receipt.payload = result
  revision : after.catalogRevision = store.catalogRevision + 1
  told : result.catalogRevision = store.catalogRevision + 1
  records : after.records = result.replay store.records
  outcome : result.item.isSome ≠ result.deletedId.isSome
  unblocked : after.blocked = store.blocked

theorem grows_of_apply {store after : Store} {event : Event}
    {result : MutationResult}
    (printed : ∀ text, IsFingerprint (fingerprint text) = true)
    (sound : store.Sound calendar)
    (identified : checkIdentity event.mutation = .ok ())
    (prepared : store.prepare calendar fingerprint event.mutation =
      .ok (fingerprint event.mutation.toJson.render, none))
    (applied : store.apply calendar fingerprint event.mutation
      (fingerprint event.mutation.toJson.render) event.now =
        .ok (result, after)) :
    store.Grows calendar result after := by
  have change : Change calendar fingerprint store (.request event) after :=
    .applied event result after after.blocked identified prepared applied
  have records := (follows_apply sound.ids applied).2
  have sound := sound_change printed sound change
  obtain ⟨_, applies, _, revision, _, _, _, rfl⟩ := apply_eq_ok applied
  have outcome := (applyItems_frame applies).2.1
  exact
    { sound
      known := ⟨_, List.mem_append_right _ (List.mem_singleton_self _), rfl⟩
      revision := rfl
      told := revision
      records
      outcome
      unblocked := rfl }

/-- What comes of a request to a sound store. -/
theorem submit_spec {store : Store}
    (printed : ∀ text, IsFingerprint (fingerprint text) = true)
    (sound : store.Sound calendar) (event : Event) :
    (∃ error blocked, store.submit calendar fingerprint event =
        (.error error, { store with blocked }) ∧
          (store.blocked = true → blocked = true)) ∨
      (∃ result, store.submit calendar fingerprint event = (.ok result, store) ∧
        store.blocked = false ∧ result.catalogRevision ≤ store.catalogRevision ∧
          ∃ receipt ∈ store.receipts, receipt.payload = result) ∨
      (∃ result after, store.Grows calendar result after ∧
        store.blocked = false ∧
          (store.submit calendar fingerprint event = (.ok result, after) ∨
            ∃ error, store.submit calendar fingerprint event =
              (.error error, { after with blocked := true }))) := by
  cases blocked : store.blocked with
  | true =>
      obtain ⟨error, submitted⟩ := submit_blocked blocked event
      exact .inl ⟨error, store.blocked, submitted, fun _ => blocked⟩
  | false =>
      rcases store.submit_cases event with ⟨error, fenced, submitted⟩ |
        ⟨result, prepared, submitted⟩ |
        ⟨result, after, identified, prepared, applies, submitted⟩
      · refine .inl ⟨error, fenced, submitted, ?_⟩
        intro impossible
        cases impossible
      · have answered :
            (store.submit calendar fingerprint event).1 = .ok result := by
          rw [submitted]
        have recorded := (recorded_of_answered answered).1
        rw [step, submitted] at recorded
        have decodes := sound.receipts _ recorded
        have bound := (decodeReceipt_eq_ok_iff.mp decodes).2.2.2.2.2.1
        exact .inr (.inl ⟨result, submitted, rfl, bound, _, recorded, rfl⟩)
      · exact .inr (.inr ⟨result, after,
          grows_of_apply printed sound identified prepared applies, rfl,
          submitted⟩)

/-- The store in the next revision. -/
def invalidated (store : Store) : Store :=
  { store with catalogRevision := store.catalogRevision + 1 }

theorem Sound.invalidated {store : Store} (sound : store.Sound calendar) :
    store.invalidated.Sound calendar where
  reserved := sound.reserved
  decodes := decodes_of_rows rfl sound.decodes
  items := sound.items
  ids := sound.ids
  receipts receipt present :=
    decodeReceipt_mono (Nat.le_succ _) (sound.receipts receipt present)
  requests := sound.requests
  capacity := sound.capacity
  budget := sound.budget

theorem invalidateCatalog_spec (store : Store) (outcome : Outcome) :
    (∃ error blocked, store.invalidateCatalog outcome =
        (.error error, { store with blocked }) ∧
          (store.blocked = true → blocked = true)) ∨
      store.blocked = false ∧
        (store.invalidateCatalog outcome =
            (.ok (store.catalogRevision + 1), store.invalidated) ∨
          ∃ error, store.invalidateCatalog outcome =
            (.error error, { store.invalidated with blocked := true })) := by
  rw [invalidateCatalog]
  split
  · exact .inl ⟨_, store.blocked, rfl, fun blocked => blocked⟩
  · rename_i writable
    have unblocked : store.blocked = false := by
      simp only [Bool.or_eq_true, not_or, Bool.not_eq_true] at writable
      exact writable.2
    rcases store.settle_cases outcome (outcome.attempt
        (.ok (store.catalogRevision + 1, store.invalidated))) with
      ⟨error, fenced, settled⟩ | ⟨_, _, same, settled⟩
    · refine .inl ⟨error, fenced, settled, ?_⟩
      intro blocked
      rw [unblocked] at blocked
      cases blocked
    · obtain ⟨_, same⟩ := (attempt_eq_ok_iff outcome).mp same
      cases same
      exact .inr ⟨unblocked, settled⟩

end BarDaemon.Agendas.Store

namespace BarDaemon.AgendaService

open Agendas Agendas.Store FallibleSteps TableImports

variable {lib : Libraries}

/-! ## Copies -/

theorem find?_key_eq_some_iff {Row Key : Type} [DecidableEq Key]
    {key : Row → Key} {rows : List Row} (distinct : (rows.map key).Nodup)
    {sought : Key} {row : Row} :
    rows.find? (fun row => key row == sought) = some row ↔
      row ∈ rows ∧ key row = sought := by
  constructor
  · intro found
    have named := List.find?_some found
    exact ⟨List.mem_of_find?_eq_some found, beq_iff_eq.mp named⟩
  · rintro ⟨present, same⟩
    cases found : rows.find? (fun row => key row == sought) with
    | none =>
        have absent := List.find?_eq_none.mp found row present
        simp [same] at absent
    | some other =>
        have among := List.mem_of_find?_eq_some found
        have named := List.find?_some found
        rw [List.inj_on_of_nodup_map distinct among present
          ((beq_iff_eq.mp named).trans same.symm)]

/-- The copy is what the store holds. -/
structure Current (snapshot : Snapshot) (disk : Agendas.Store) : Prop where
  revision : snapshot.catalogRevision = disk.catalogRevision
  records : snapshot.records = disk.records

/-- The copy lacks at most one change, and the store has a receipt of it. -/
structure Behind (snapshot : Snapshot) (disk : Agendas.Store) : Prop where
  revision : snapshot.catalogRevision ≤ disk.catalogRevision
  records : disk.records = snapshot.records ∨
    ∃ receipt ∈ disk.receipts,
      snapshot.catalogRevision < receipt.payload.catalogRevision ∧
        disk.records = receipt.payload.replay snapshot.records

def Snapshot.Distinct (snapshot : Snapshot) : Prop :=
  (snapshot.items.map Record.id).Nodup

theorem Current.behind {snapshot : Snapshot} {disk : Agendas.Store}
    (current : Current snapshot disk) : Behind snapshot disk where
  revision := current.revision.le
  records := .inl current.records.symm

theorem Current.invalidated {snapshot : Snapshot} {disk : Agendas.Store}
    (current : Current snapshot disk) : Behind snapshot disk.invalidated where
  revision := current.revision.le.trans (Nat.le_succ _)
  records := .inl current.records.symm

theorem Current.grown {calendar : Calendar} {snapshot : Snapshot}
    {disk after : Agendas.Store} {result : MutationResult}
    (current : Current snapshot disk)
    (grows : disk.Grows calendar result after) : Behind snapshot after where
  revision := by
    rw [current.revision, grows.revision]
    exact Nat.le_succ _
  records := by
    obtain ⟨receipt, present, rfl⟩ := grows.known
    refine .inr ⟨receipt, present, ?_, ?_⟩
    · rw [current.revision, grows.told]
      exact Nat.lt_succ_self _
    · rw [grows.records, current.records]

/-- The items of a snapshot are those of the rows. -/
theorem readSnapshot_spec {disk : Agendas.Store} {snapshot : Snapshot}
    (sound : disk.Sound lib.calendar)
    (read : readSnapshot lib disk = .ok snapshot) :
    snapshot.items = byKey Record.id (disk.items.map ItemRow.payload) ∧
      Current snapshot disk ∧ snapshot.Distinct := by
  have named : ∀ row ∈ disk.items, row.payload.id = row.id := by
    intro row present
    obtain ⟨_, _, same, _⟩ := decodeRow_eq_ok_iff.mp (sound.decodes row present)
    exact (congrArg ItemRow.id same).symm
  have keys : (disk.items.map ItemRow.payload).map Record.id =
      disk.items.map ItemRow.id := by
    rw [List.map_map]
    exact List.map_congr_left named
  have payloads : ((disk.items.map ItemRow.payload).map Record.id).Nodup := by
    rw [keys]
    exact sound.ids
  have perm := byKey_perm Record.id (disk.items.map ItemRow.payload)
  have distinct : ((byKey Record.id (disk.items.map ItemRow.payload)).map
      Record.id).Nodup := (perm.map Record.id).nodup_iff.mpr payloads
  have opened : disk.snapshot lib.calendar =
      .ok (disk.items.map ItemRow.payload) := by
    rw [Store.snapshot, ensure_of_true (by simpa using sound.items), ok_bind]
    exact mapM_decodeRow sound.decodes
  rw [readSnapshot, opened, ok_bind] at read
  cases Except.ok.inj read
  refine ⟨rfl, ⟨rfl, ?_⟩, distinct⟩
  funext id
  apply Option.ext
  intro record
  rw [Snapshot.records, find?_key_eq_some_iff distinct, perm.mem_iff,
    Store.records, Option.map_eq_some_iff]
  constructor
  · rintro ⟨among, same⟩
    obtain ⟨row, present, rfl⟩ := List.mem_map.mp among
    refine ⟨row, (find?_key_eq_some_iff sound.ids).mpr ⟨present, ?_⟩, rfl⟩
    rw [← same, named row present]
  · rintro ⟨row, found, rfl⟩
    obtain ⟨present, same⟩ := (find?_key_eq_some_iff sound.ids).mp found
    exact ⟨List.mem_map_of_mem present, by rw [named row present, same]⟩

theorem find?_others (items : List Record) (gone id : String) :
    (items.filter fun record => record.id != gone).find?
        (fun record => record.id == id) =
      if gone = id then none else items.find? fun record => record.id == id := by
  split
  · rename_i same
    rw [List.find?_eq_none]
    intro record among
    have other := (List.mem_filter.mp among).2
    simpa [← same] using other
  · rename_i other
    have kept : (fun record : Record =>
        decide ((record.id != gone) = true ∧ (record.id == id) = true)) =
          fun record => record.id == id := by
      funext record
      by_cases named : record.id = id
      · simp [named, Ne.symm other]
      · simp [named]
    rw [List.find?_filter, kept]

/-- The copy follows an answer as the items have. -/
theorem Snapshot.records_apply (snapshot : Snapshot) {result : MutationResult}
    (outcome : result.item.isSome ≠ result.deletedId.isSome) :
    (snapshot.apply result).records = result.replay snapshot.records := by
  funext id
  cases item : result.item with
  | none =>
      cases deleted : result.deletedId with
      | none => simp [item, deleted] at outcome
      | some gone =>
          simp only [Snapshot.records, Snapshot.apply, MutationResult.replay,
            MutationResult.target, item, deleted, find?_others, Option.map_none,
            Option.none_or, Option.some.injEq]
  | some record =>
      cases deleted : result.deletedId with
      | some gone => simp [item, deleted] at outcome
      | none =>
          simp only [Snapshot.records, Snapshot.apply, MutationResult.replay,
            MutationResult.target, item, deleted, List.find?_append,
            find?_others, Option.map_some, Option.some_or, Option.some.injEq]
          by_cases same : record.id = id
          · simp [same]
          · simp [same]

theorem Snapshot.Distinct.placed {snapshot : Snapshot}
    (distinct : snapshot.Distinct) (item : Record) :
    (((snapshot.items.filter fun record => record.id != item.id) ++
      [item]).map Record.id).Nodup := by
  simp only [List.map_append, List.map_cons, List.map_nil]
  rw [List.nodup_append]
  refine ⟨distinct.sublist (List.filter_sublist.map Record.id), by simp, ?_⟩
  intro id among other last
  obtain ⟨record, kept, rfl⟩ := List.mem_map.mp among
  obtain rfl := List.mem_singleton.mp last
  simpa using (List.mem_filter.mp kept).2

theorem Snapshot.Distinct.apply {snapshot : Snapshot}
    (distinct : snapshot.Distinct) (result : MutationResult) :
    (snapshot.apply result).Distinct := by
  have without : ∀ items : List Record, (items.map Record.id).Nodup →
      ∀ id, ((items.filter fun record => record.id != id).map
        Record.id).Nodup :=
    fun _ kept _ => kept.sublist (List.filter_sublist.map Record.id)
  cases item : result.item with
  | none =>
      cases deleted : result.deletedId with
      | none =>
          simpa only [Distinct, Snapshot.apply, item, deleted] using distinct
      | some id =>
          simpa only [Distinct, Snapshot.apply, item, deleted] using
            without _ distinct id
  | some record =>
      cases deleted : result.deletedId with
      | none =>
          simpa only [Distinct, Snapshot.apply, item, deleted] using
            distinct.placed record
      | some id =>
          simpa only [Distinct, Snapshot.apply, item, deleted] using
            without _ (distinct.placed record) id

theorem Current.apply {calendar : Calendar} {snapshot : Snapshot}
    {disk after : Agendas.Store} {result : MutationResult}
    (current : Current snapshot disk)
    (grows : disk.Grows calendar result after) :
    Current (snapshot.apply result) after where
  revision := by
    rw [grows.revision, ← grows.told]
    rfl
  records := by
    rw [snapshot.records_apply grows.outcome, grows.records, current.records]

end BarDaemon.AgendaService
