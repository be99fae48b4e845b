import BarDaemon.AgendaMutations

/-!
# The owner of the agenda store

Requests, invalidations of the catalog and restarts reach the store in any
order.  What they leave passes every check that is made when it is opened.
-/

namespace BarDaemon.Agendas

open CompactJson FallibleSteps TransitionRuns

namespace Store

/-! ## Transactions of any result -/

section Conclusion

variable {Value State : Type} (outcome : Outcome) (fence : Bool → State → State)

/-- `Database::finish` -/
def Outcome.conclude (before : State)
    (applied : Except String (Value × State)) : Except String Value × State :=
  match applied with
  | .error error =>
      (.error error, fence (!outcome.rolledBack || !outcome.hardened) before)
  | .ok (result, after) =>
      if outcome.committed then
        if outcome.hardened then
          (.ok result, after)
        else
          (.error
            "committed but sidecar protection failed; resolve by receipt",
            fence true after)
      else if outcome.durable then
        (.error "commit failed", fence true after)
      else
        (.error "commit failed", fence true before)

/-- The statements of a transaction, of which one may fail. -/
def Outcome.attempt (statements : Except String Value) : Except String Value :=
  match outcome.fault with
  | some error => .error error
  | none => statements

theorem attempt_eq_ok_iff {statements : Except String Value} {value : Value} :
    outcome.attempt statements = .ok value ↔
      outcome.fault = none ∧ statements = .ok value := by
  rw [Outcome.attempt]
  cases outcome.fault <;> simp

/-- A transaction leaves its rows or those before it, and with an answer that
is not an error it leaves its own. -/
theorem conclude_cases (before : State)
    (applied : Except String (Value × State)) :
    (∃ error blocked, outcome.conclude fence before applied =
        (.error error, fence blocked before)) ∨
      (∃ result after, applied = .ok (result, after) ∧
        (outcome.conclude fence before applied = (.ok result, after) ∨
          ∃ error, outcome.conclude fence before applied =
            (.error error, fence true after))) := by
  cases applied with
  | error error => exact .inl ⟨error, _, rfl⟩
  | ok applied =>
      obtain ⟨result, after⟩ := applied
      cases committed : outcome.committed with
      | true =>
          right
          refine ⟨result, after, rfl, ?_⟩
          cases hardened : outcome.hardened with
          | true => left; simp [Outcome.conclude, committed, hardened]
          | false => right; simp [Outcome.conclude, committed, hardened]
      | false =>
          cases durable : outcome.durable with
          | true =>
              right
              refine ⟨result, after, rfl, .inr ?_⟩
              simp [Outcome.conclude, committed, durable]
          | false =>
              left
              refine ⟨"commit failed", true, ?_⟩
              simp [Outcome.conclude, committed, durable]

end Conclusion

def settle {Value : Type} (store : Store) (outcome : Outcome)
    (applied : Except String (Value × Store)) : Except String Value × Store :=
  outcome.conclude (fun blocked store => { store with blocked }) store applied

theorem finish_eq_settle (store : Store) (outcome : Outcome)
    (applied : Except String (MutationResult × Store)) :
    store.finish outcome applied = store.settle outcome applied := by
  cases applied <;> rfl

theorem settle_cases {Value : Type} (store : Store) (outcome : Outcome)
    (applied : Except String (Value × Store)) :
    (∃ error blocked, store.settle outcome applied =
        (.error error, { store with blocked })) ∨
      (∃ result after, applied = .ok (result, after) ∧
        (store.settle outcome applied = (.ok result, after) ∨
          ∃ error, store.settle outcome applied =
            (.error error, { after with blocked := true }))) :=
  conclude_cases outcome _ store applied

/-- `invalidate_catalog` -/
def invalidateCatalog (store : Store) (outcome : Outcome) :
    Except String Nat × Store :=
  if store.readOnly || store.blocked then
    (.error "agenda writes fenced", store)
  else
    store.settle outcome
      (outcome.attempt (.ok (store.catalogRevision + 1,
        { store with catalogRevision := store.catalogRevision + 1 })))

/-! ## Opening -/

section Opening

variable (calendar : Calendar)

/-- `validate_receipts` -/
def validateReceipts (store : Store) : Except String Unit := do
  ensure (store.receipts.length ≤ 100000) "receipt capacity exceeded"
  store.receipts.forM fun receipt => do
    let _ ← store.decodeReceipt calendar receipt

/-- `PRAGMA foreign_key_check` -/
def checkSources (store : Store) : Except String Unit :=
  ensure (store.items.all fun row =>
      (store.sources.map Prod.fst).contains row.sourceId)
    "agenda foreign key failure"

/-- What is checked before there may be something to migrate. -/
def verifySchema (store : Store) : Except String Unit := do
  store.checkSources
  let capabilities ← store.capabilities "local"
  ensure (capabilities == .ofLocal)
    "invalid reserved local source capabilities"

/-- What is checked of the rows. -/
def verifyRows (store : Store) : Except String Unit := do
  let _ ← store.snapshot calendar
  store.validateReceipts calendar
  store.ensurePayloadBudget

/-- `Database::open` of a store that exists, once its files and its schema are
in order and there is nothing left to migrate. -/
def reopen (store : Store) (existingOnly : Bool) : Except String Store := do
  store.verifySchema
  store.verifyRows calendar
  return { store with
    blocked := false
    readOnly := existingOnly }

end Opening

/-! ## Actions -/

/-- What happens to the store of an owner. -/
inductive Action
  | request (event : Event)
  | invalidate (outcome : Outcome)
  | reopen (existingOnly : Bool)
deriving DecidableEq, Repr

variable (calendar : Calendar) (fingerprint : String → String)

/-- A store that cannot be opened is left as it is. -/
def act (store : Store) : Action → Store
  | .request event => store.step calendar fingerprint event
  | .invalidate outcome => (store.invalidateCatalog outcome).2
  | .reopen existingOnly =>
      match store.reopen calendar existingOnly with
      | .ok opened => opened
      | .error _ => store

/-- What one action does to the rows of the store. -/
inductive Change (store : Store) : Action → Store → Prop
  | kept (action : Action) (blocked : Bool) :
      Change store action { store with blocked }
  | reopened (existingOnly : Bool) :
      Change store (.reopen existingOnly)
        { store with blocked := false, readOnly := existingOnly }
  | applied (event : Event) (result : MutationResult) (after : Store)
      (blocked : Bool)
      (identified : checkIdentity event.mutation = .ok ())
      (prepared : store.prepare calendar fingerprint event.mutation =
        .ok (fingerprint event.mutation.toJson.render, none))
      (applied : store.apply calendar fingerprint event.mutation
        (fingerprint event.mutation.toJson.render) event.now =
          .ok (result, after)) :
      Change store (.request event) { after with blocked }
  | invalidated (outcome : Outcome) (blocked : Bool)
      (writable : store.readOnly = false) :
      Change store (.invalidate outcome)
        { store with
          catalogRevision := store.catalogRevision + 1
          blocked }

variable {calendar fingerprint}

theorem hash_of_prepare {store : Store} {mutation : Mutation} {hash : String}
    {known : Option MutationResult}
    (prepared : store.prepare calendar fingerprint mutation =
      .ok (hash, known)) :
    hash = fingerprint mutation.toJson.render := by
  simp only [prepare, bind_eq_ok_iff] at prepared
  obtain ⟨_, _, _, _, _, _, _, _, found, _, prepared⟩ := prepared
  cases found with
  | none =>
      simp only [bind_eq_ok_iff] at prepared
      obtain ⟨_, _, done⟩ := prepared
      cases Except.ok.inj done
      rfl
  | some found =>
      simp only [bind_eq_ok_iff] at prepared
      obtain ⟨_, _, done⟩ := prepared
      cases Except.ok.inj done
      rfl

/-- What a request gets: an error that leaves the rows, the result of its
receipt, or a change that may not be answered. -/
theorem submit_cases (store : Store) (event : Event) :
    (∃ error blocked, store.submit calendar fingerprint event =
        (.error error, { store with blocked })) ∨
      (∃ result,
        store.prepare calendar fingerprint event.mutation =
            .ok (fingerprint event.mutation.toJson.render, some result) ∧
          store.submit calendar fingerprint event = (.ok result, store)) ∨
      (∃ result after,
        checkIdentity event.mutation = .ok () ∧
          store.prepare calendar fingerprint event.mutation =
            .ok (fingerprint event.mutation.toJson.render, none) ∧
          store.apply calendar fingerprint event.mutation
              (fingerprint event.mutation.toJson.render) event.now =
            .ok (result, after) ∧
          (store.submit calendar fingerprint event = (.ok result, after) ∨
            ∃ error, store.submit calendar fingerprint event =
              (.error error, { after with blocked := true }))) := by
  rw [submit]
  split
  · rename_i error _
    exact .inl ⟨error, store.blocked, rfl⟩
  · rename_i accepted
    simp only [bind_eq_ok_iff] at accepted
    obtain ⟨_, _, _, identified, _⟩ := accepted
    rw [mutate]
    cases prepared : store.prepare calendar fingerprint event.mutation with
    | error error => exact .inl ⟨error, store.blocked, rfl⟩
    | ok answer =>
        obtain ⟨hash, known⟩ := answer
        obtain rfl := hash_of_prepare prepared
        cases known with
        | some result => exact .inr (.inl ⟨result, rfl, rfl⟩)
        | none =>
            rcases store.settle_cases event.outcome (event.outcome.attempt
                (store.apply calendar fingerprint event.mutation
                  (fingerprint event.mutation.toJson.render) event.now))
              with ⟨error, blocked, settled⟩ | ⟨result, after, applies, settled⟩
            · left
              refine ⟨error, blocked, ?_⟩
              rw [← settled]
              exact store.finish_eq_settle _ _
            · right
              right
              obtain ⟨_, carried⟩ := (attempt_eq_ok_iff _).mp applies
              refine ⟨result, after, identified, rfl, carried, ?_⟩
              rw [← finish_eq_settle] at settled
              exact settled

theorem change_request (store : Store) (event : Event) :
    Change calendar fingerprint store (.request event)
      (store.step calendar fingerprint event) := by
  rw [step]
  rcases store.submit_cases event with ⟨error, blocked, submitted⟩ |
    ⟨result, _, submitted⟩ |
    ⟨result, after, identified, prepared, applies, submitted | ⟨_, submitted⟩⟩
  · rw [submitted]
    exact .kept _ blocked
  · rw [submitted]
    exact .kept _ store.blocked
  · rw [submitted]
    exact .applied event result after after.blocked identified prepared applies
  · rw [submitted]
    exact .applied event result after true identified prepared applies

theorem change_invalidate (store : Store) (outcome : Outcome) :
    Change calendar fingerprint store (.invalidate outcome)
      (store.invalidateCatalog outcome).2 := by
  rw [invalidateCatalog]
  split
  · exact .kept _ store.blocked
  · rename_i open_
    have writable : store.readOnly = false := by
      simp only [Bool.or_eq_true, not_or, Bool.not_eq_true] at open_
      exact open_.1
    rcases store.settle_cases outcome (outcome.attempt
        (.ok (store.catalogRevision + 1,
          { store with catalogRevision := store.catalogRevision + 1 }))) with
      ⟨_, blocked, settled⟩ | ⟨_, _, same, settled | ⟨_, settled⟩⟩
    · rw [settled]
      exact .kept _ blocked
    · obtain ⟨_, same⟩ := (attempt_eq_ok_iff outcome).mp same
      cases same
      rw [settled]
      exact .invalidated outcome store.blocked writable
    · obtain ⟨_, same⟩ := (attempt_eq_ok_iff outcome).mp same
      cases same
      rw [settled]
      exact .invalidated outcome true writable

theorem eq_of_reopen {store opened : Store} {existingOnly : Bool}
    (opens : store.reopen calendar existingOnly = .ok opened) :
    opened = { store with blocked := false, readOnly := existingOnly } := by
  simp only [reopen, bind_eq_ok_iff] at opens
  obtain ⟨_, _, _, _, done⟩ := opens
  exact (Except.ok.inj done).symm

/-- One action. -/
theorem change_act (store : Store) (action : Action) :
    Change calendar fingerprint store action
      (store.act calendar fingerprint action) := by
  cases action with
  | request event => exact store.change_request event
  | invalidate outcome => exact store.change_invalidate outcome
  | reopen existingOnly =>
      rw [act]
      cases opens : store.reopen calendar existingOnly with
      | error error => exact .kept _ store.blocked
      | ok opened =>
          rw [eq_of_reopen opens]
          exact .reopened existingOnly

/-! ## Sound stores -/

/-- What `decode` asks of a fingerprint. -/
def IsFingerprint (text : String) : Bool :=
  byteLength text == 64 && text.toList.all fun char =>
    char.isDigit || ('a' ≤ char && char ≤ 'f') || ('A' ≤ char && char ≤ 'F')

/-- Every check that is made when a store is opened, and the keys of its
tables. -/
structure Sound (calendar : Calendar) (store : Store) : Prop where
  reserved : store.capabilities "local" = .ok .ofLocal
  decodes : store.Decodes calendar
  items : store.items.length ≤ 10000
  ids : (store.items.map ItemRow.id).Nodup
  receipts : ∀ receipt ∈ store.receipts,
    store.decodeReceipt calendar receipt = .ok receipt.payload
  requests : (store.receipts.map Receipt.requestId).Nodup
  capacity : store.receipts.length ≤ 100000
  budget : store.payloadSize ≤ 100 * 1024 * 1024

theorem decodeReceipt_eq_ok_iff {store : Store} {receipt : Receipt}
    {result : MutationResult} :
    store.decodeReceipt calendar receipt = .ok result ↔
      result = receipt.payload ∧ identifier receipt.requestId = .ok () ∧
        IsFingerprint receipt.fingerprint = true ∧
        result.requestId = receipt.requestId ∧ 0 < result.catalogRevision ∧
        result.catalogRevision ≤ store.catalogRevision ∧
        result.item.isSome ≠ result.deletedId.isSome ∧
        whenSome result.item (Record.validate calendar) = .ok () ∧
        whenSome result.deletedId identifier = .ok () := by
  simp only [decodeReceipt, bind_eq_ok_iff, ensure_eq_ok_iff, Bool.and_eq_true,
    beq_iff_eq, bne_iff_ne, decide_eq_true_eq, IsFingerprint]
  constructor
  · rintro ⟨_, request, _, printed, _, ⟨⟨⟨same, positive⟩, bound⟩, outcome⟩, _,
      valid, _, deleted, done⟩
    obtain rfl := Except.ok.inj done
    exact ⟨rfl, request, printed, same, positive, bound, outcome, valid,
      deleted⟩
  · rintro ⟨rfl, request, printed, same, positive, bound, outcome, valid,
      deleted⟩
    exact ⟨(), request, (), printed, (), ⟨⟨⟨same, positive⟩, bound⟩, outcome⟩,
      (), valid, (), deleted, rfl⟩

/-- Receipts stay readable while the catalog moves on. -/
theorem decodeReceipt_mono {store after : Store} {receipt : Receipt}
    (later : store.catalogRevision ≤ after.catalogRevision)
    (decodes : store.decodeReceipt calendar receipt = .ok receipt.payload) :
    after.decodeReceipt calendar receipt = .ok receipt.payload := by
  rw [decodeReceipt_eq_ok_iff] at decodes ⊢
  obtain ⟨same, request, printed, named, positive, bound, rest⟩ := decodes
  exact ⟨same, request, printed, named, positive, bound.trans later, rest⟩

/-- Only the rows of the items differ. -/
theorem applyItems_frame {store after : Store} {mutation : Mutation}
    {now : I64} {item : Option Record} {deletedId : Option String}
    (succeeded : store.applyItems calendar fingerprint mutation now =
      .ok (item, deletedId, after)) :
    after = { store with items := after.items } ∧
      item.isSome ≠ deletedId.isSome ∧
      ∀ id ∈ deletedId, ∃ request revision,
        mutation = .delete request id revision := by
  cases applied_of_applyItems succeeded with
  | created creates =>
      obtain ⟨_, inserts⟩ := createItem_eq_ok creates
      simp only [insertRecord, bind_eq_ok_iff] at inserts
      obtain ⟨_, _, _, _, _, _, _, _, done⟩ := inserts
      cases Except.ok.inj done
      simp
  | patched patches =>
      rw [patchItem_items patches]
      simp
  | deleted deletes =>
      refine ⟨by rw [deleteItem_items deletes], by simp, ?_⟩
      intro other same
      cases same
      exact ⟨_, _, rfl⟩

/-- The transaction of a request: its items, one more catalog revision and its
receipt. -/
theorem apply_eq_ok {store after : Store} {mutation : Mutation}
    {hash : String} {now : I64} {result : MutationResult}
    (succeeded : store.apply calendar fingerprint mutation hash now =
      .ok (result, after)) :
    ∃ applied, store.applyItems calendar fingerprint mutation now =
        .ok (result.item, result.deletedId, applied) ∧
      applied = { store with items := applied.items } ∧
      result.catalogRevision = store.catalogRevision + 1 ∧
      result.requestId = mutation.requestId ∧
      mutation.requestId ∉ store.receipts.map Receipt.requestId ∧
      after.payloadSize ≤ 100 * 1024 * 1024 ∧
      after = { store with
        items := applied.items
        catalogRevision := store.catalogRevision + 1
        receipts := store.receipts ++ [⟨mutation.requestId, hash, result⟩] } := by
  rw [apply, bind_eq_ok_iff] at succeeded
  obtain ⟨⟨item, deletedId, applied⟩, applies, succeeded⟩ := succeeded
  obtain ⟨frame, _⟩ := applyItems_frame applies
  simp only [bind_eq_ok_iff, ensure_eq_ok_iff, ensurePayloadBudget,
    decide_eq_true_eq] at succeeded
  obtain ⟨_, _, _, fresh, _, budget, done⟩ := succeeded
  cases Except.ok.inj done
  refine ⟨applied, applies, frame, ?_⟩
  rw [frame] at fresh budget ⊢
  refine ⟨rfl, rfl, ?_, budget, rfl⟩
  simpa [List.any_eq_true] using fresh

/-! ### The items of a sound store -/

theorem keys_insertRecord {store after : Store} {record : Record}
    (ids : (store.items.map ItemRow.id).Nodup)
    (succeeded : store.insertRecord calendar record = .ok after) :
    (after.items.map ItemRow.id).Nodup ∧
      after.items = store.items ++ [ItemRow.ofRecord record] ∧
      ∀ row ∈ store.items, row.id ≠ record.id := by
  simp only [insertRecord, bind_eq_ok_iff, ensure_eq_ok_iff] at succeeded
  obtain ⟨_, _, _, _, _, _, _, fresh, done⟩ := succeeded
  cases Except.ok.inj done
  have other : ∀ row ∈ store.items, row.id ≠ record.id := by
    intro row present same
    simp only [Bool.not_eq_true', List.any_eq_false] at fresh
    have never := fresh row present
    simp [ItemRow.clashes, ItemRow.ofRecord, same] at never
  refine ⟨?_, rfl, other⟩
  rw [List.map_append, List.nodup_append]
  refine ⟨ids, by simp, ?_⟩
  intro id present new last same
  obtain ⟨row, member, rfl⟩ := List.mem_map.mp present
  simp only [List.map_cons, List.map_nil, List.mem_singleton] at last
  exact other row member (same.trans last)

@[simp]
theorem write_id (row : ItemRow) (record : Record) :
    (row.write record).id = row.id :=
  rfl

theorem keys_applyItems {store after : Store} {mutation : Mutation}
    {now : I64} {item : Option Record} {deletedId : Option String}
    (ids : (store.items.map ItemRow.id).Nodup)
    (items : store.items.length ≤ 10000)
    (succeeded : store.applyItems calendar fingerprint mutation now =
      .ok (item, deletedId, after)) :
    (after.items.map ItemRow.id).Nodup ∧ after.items.length ≤ 10000 := by
  cases applied_of_applyItems succeeded with
  | created creates =>
      simp only [createItem, bind_eq_ok_iff, ensure_eq_ok_iff,
        decide_eq_true_eq] at creates
      obtain ⟨_, room, _, _, _, _, inserted, inserts, created⟩ := creates
      cases Except.ok.inj created
      obtain ⟨distinct, rows, _⟩ := keys_insertRecord ids inserts
      refine ⟨distinct, ?_⟩
      rw [rows, List.length_append, List.length_singleton]
      exact room
  | @patched request id revision fields record _ patches =>
      have same : ItemRow.id ∘ (fun row : ItemRow =>
          if row.isAt id revision then row.write record else row) =
            ItemRow.id := by
        funext row
        by_cases chosen : row.isAt id revision <;> simp [chosen]
      simpa [patchItem_items patches, same] using ⟨ids, items⟩
  | deleted deletes =>
      rw [deleteItem_items deletes]
      constructor
      · exact ids.sublist (List.filter_sublist.map ItemRow.id)
      · exact (List.length_filter_le _ _).trans items

/-! ### Every action keeps a store sound -/

/-- Nothing that is checked depends on the fence or on the mode. -/
theorem Sound.fenced {store : Store} (sound : store.Sound calendar)
    (blocked readOnly : Bool) :
    { store with blocked, readOnly }.Sound calendar where
  reserved := sound.reserved
  decodes := decodes_of_rows rfl sound.decodes
  items := sound.items
  ids := sound.ids
  receipts := sound.receipts
  requests := sound.requests
  capacity := sound.capacity
  budget := sound.budget

theorem prepare_fresh {store : Store} {mutation : Mutation} {hash : String}
    (prepared : store.prepare calendar fingerprint mutation =
      .ok (hash, none)) :
    store.readOnly = false ∧ store.blocked = false ∧
      identifier mutation.requestId = .ok () ∧
      store.receipts.length < 100000 := by
  simp only [prepare, bind_eq_ok_iff, ensure_eq_ok_iff, Bool.not_eq_true']
    at prepared
  obtain ⟨_, writable, _, open_, _, named, _, _, found, _, prepared⟩ := prepared
  cases found with
  | none =>
      simp only [bind_eq_ok_iff, ensure_eq_ok_iff, decide_eq_true_eq]
        at prepared
      obtain ⟨_, room, _⟩ := prepared
      exact ⟨writable, open_, named, room⟩
  | some found =>
      simp only [bind_eq_ok_iff] at prepared
      obtain ⟨_, _, done⟩ := prepared
      cases Except.ok.inj done

/-- The outcome of a request is of one kind, and what it names is valid. -/
theorem decodeReceipt_apply {store after : Store} {mutation : Mutation}
    {hash : String} {now : I64} {result : MutationResult}
    (decodes : store.Decodes calendar)
    (printed : IsFingerprint hash = true)
    (named : identifier mutation.requestId = .ok ())
    (identified : checkIdentity mutation = .ok ())
    (succeeded : store.apply calendar fingerprint mutation hash now =
      .ok (result, after)) :
    after.decodeReceipt calendar ⟨mutation.requestId, hash, result⟩ =
      .ok result := by
  have valid := (decodes_apply decodes succeeded).2
  obtain ⟨applied, applies, _, revision, request, _, _, rfl⟩ :=
    apply_eq_ok succeeded
  obtain ⟨_, outcome, deleted⟩ := applyItems_frame applies
  rw [decodeReceipt_eq_ok_iff]
  refine ⟨rfl, named, printed, request, ?_, revision.le, outcome, ?_, ?_⟩
  · rw [revision]
    exact Nat.succ_pos _
  · cases item : result.item with
    | none => rfl
    | some record => exact valid record item
  · cases identity : result.deletedId with
    | none => rfl
    | some id =>
        obtain ⟨_, _, rfl⟩ := deleted id identity
        exact identified

theorem sound_apply {store after : Store} {mutation : Mutation} {now : I64}
    {result : MutationResult} (sound : store.Sound calendar)
    (printed : ∀ text, IsFingerprint (fingerprint text) = true)
    (identified : checkIdentity mutation = .ok ())
    (prepared : store.prepare calendar fingerprint mutation =
      .ok (fingerprint mutation.toJson.render, none))
    (succeeded : store.apply calendar fingerprint mutation
      (fingerprint mutation.toJson.render) now = .ok (result, after)) :
    after.Sound calendar := by
  obtain ⟨_, _, named, room⟩ := prepare_fresh prepared
  have decodes := (decodes_apply sound.decodes succeeded).1
  have added := decodeReceipt_apply sound.decodes (printed _) named identified
    succeeded
  obtain ⟨applied, applies, frame, revision, request, fresh, budget, rfl⟩ :=
    apply_eq_ok succeeded
  obtain ⟨ids, items⟩ := keys_applyItems sound.ids sound.items applies
  constructor
  · exact sound.reserved
  · exact decodes
  · exact items
  · exact ids
  · intro receipt present
    rcases List.mem_append.mp present with stored | last
    · exact decodeReceipt_mono (Nat.le_succ _) (sound.receipts receipt stored)
    · obtain rfl := List.mem_singleton.mp last
      exact added
  · rw [List.map_append, List.nodup_append]
    refine ⟨sound.requests, by simp, ?_⟩
    intro id present new last same
    simp only [List.map_cons, List.map_nil, List.mem_singleton] at last
    rw [same, last] at present
    exact fresh present
  · rw [List.length_append, List.length_singleton]
    exact room
  · exact budget

theorem sound_change {store after : Store} {action : Action}
    (printed : ∀ text, IsFingerprint (fingerprint text) = true)
    (sound : store.Sound calendar)
    (change : Change calendar fingerprint store action after) :
    after.Sound calendar := by
  cases change with
  | kept action blocked => exact sound.fenced blocked store.readOnly
  | reopened existingOnly => exact sound.fenced false existingOnly
  | applied event result after blocked identified prepared applied =>
      have kept := sound_apply sound printed identified prepared applied
      exact kept.fenced blocked after.readOnly
  | invalidated outcome blocked writable =>
      exact
        { reserved := sound.reserved
          decodes := decodes_of_rows rfl sound.decodes
          items := sound.items
          ids := sound.ids
          receipts := fun receipt present =>
            decodeReceipt_mono (Nat.le_succ _) (sound.receipts receipt present)
          requests := sound.requests
          capacity := sound.capacity
          budget := sound.budget }

theorem sound_run {store : Store}
    (printed : ∀ text, IsFingerprint (fingerprint text) = true)
    (sound : store.Sound calendar) (actions : List Action) :
    (run (act calendar fingerprint) store actions).Sound calendar := by
  have always : StepsMeet (act calendar fingerprint) (fun _ _ => True) store
      actions := stepsMeet_of_forall (fun _ _ => trivial) store actions
  apply invariant_run _ sound always
  intro state action sound _
  exact sound_change printed sound (state.change_act action)

/-! ## Opening what was left -/

theorem mapM_decodeRow {store : Store} {rows : List ItemRow}
    (decodes : ∀ row ∈ rows, store.decodeRow calendar row = .ok row.payload) :
    rows.mapM (store.decodeRow calendar) = .ok (rows.map ItemRow.payload) := by
  induction rows with
  | nil => rfl
  | cons row rows ih =>
      rw [List.mapM_cons, decodes row (by simp),
        ih fun other present => decodes other (by simp [present])]
      rfl

theorem forM_decodeReceipt {store : Store} {receipts : List Receipt}
    (decodes : ∀ receipt ∈ receipts,
      store.decodeReceipt calendar receipt = .ok receipt.payload) :
    (receipts.forM fun receipt => do
      let _ ← store.decodeReceipt calendar receipt : Except String Unit) =
        .ok () := by
  induction receipts with
  | nil => rfl
  | cons receipt receipts ih =>
      have first := decodes receipt (by simp)
      change ((store.decodeReceipt calendar receipt >>= fun _ => pure ()) >>=
        fun _ => receipts.forM _) = _
      rw [first]
      exact ih fun other present => decodes other (by simp [present])

theorem Sound.checkSources {store : Store} (sound : store.Sound calendar) :
    store.checkSources = .ok () := by
  rw [Store.checkSources, ensure_eq_ok_iff, List.all_eq_true]
  intro row present
  obtain ⟨_, _, same, capable⟩ :=
    decodeRow_eq_ok_iff.mp (sound.decodes row present)
  rw [checkCapabilities, bind_eq_ok_iff] at capable
  obtain ⟨capabilities, found, _⟩ := capable
  rw [Store.capabilities] at found
  cases search : store.sources.lookup row.payload.sourceId with
  | none =>
      rw [search] at found
      cases found
  | some _ =>
      have known := List.lookup_isSome_iff.mp (Option.isSome_of_eq_some search)
      obtain ⟨source, listed, named⟩ := known
      rw [same]
      simp only [List.contains_eq_mem, decide_eq_true_eq]
      exact List.mem_map.mpr ⟨source, listed, (beq_iff_eq.mp named).symm⟩

theorem Sound.verifySchema {store : Store} (sound : store.Sound calendar) :
    store.verifySchema = .ok () := by
  rw [Store.verifySchema, sound.checkSources, sound.reserved]
  rfl

theorem Sound.verifyRows {store : Store} (sound : store.Sound calendar) :
    store.verifyRows calendar = .ok () := by
  have snapshot : store.snapshot calendar =
      .ok (store.items.map ItemRow.payload) := by
    rw [Store.snapshot, ensure_of_true (by simpa using sound.items), ok_bind]
    exact mapM_decodeRow sound.decodes
  have receipts : store.validateReceipts calendar = .ok () := by
    rw [validateReceipts, ensure_of_true (by simpa using sound.capacity),
      ok_bind]
    exact forM_decodeReceipt sound.receipts
  rw [Store.verifyRows, snapshot, receipts]
  exact ensure_of_true (by simpa using sound.budget) _

/-- A sound store opens. -/
theorem Sound.reopen {store : Store} (sound : store.Sound calendar)
    (existingOnly : Bool) :
    store.reopen calendar existingOnly =
      .ok { store with blocked := false, readOnly := existingOnly } := by
  rw [Store.reopen, sound.verifySchema, sound.verifyRows]
  rfl

theorem decodes_of_mapM {store : Store} {rows : List ItemRow}
    {records : List Record}
    (decoded : rows.mapM (store.decodeRow calendar) = .ok records) :
    ∀ row ∈ rows, store.decodeRow calendar row = .ok row.payload := by
  induction rows generalizing records with
  | nil => simp
  | cons row rows ih =>
      rw [List.mapM_cons, bind_eq_ok_iff] at decoded
      obtain ⟨record, first, decoded⟩ := decoded
      rw [bind_eq_ok_iff] at decoded
      obtain ⟨others, rest, _⟩ := decoded
      obtain ⟨rfl, _⟩ := decodeRow_eq_ok_iff.mp first
      intro other present
      rcases List.mem_cons.mp present with rfl | present
      · exact first
      · exact ih rest other present

theorem receipts_of_forM {store : Store} {receipts : List Receipt}
    (decoded : (receipts.forM fun receipt => do
      let _ ← store.decodeReceipt calendar receipt : Except String Unit) =
        .ok ()) :
    ∀ receipt ∈ receipts,
      store.decodeReceipt calendar receipt = .ok receipt.payload := by
  induction receipts with
  | nil => simp
  | cons receipt receipts ih =>
      change ((store.decodeReceipt calendar receipt >>= fun _ => pure ()) >>=
        fun _ => receipts.forM _) = _ at decoded
      simp only [bind_eq_ok_iff] at decoded
      obtain ⟨_, ⟨result, first, _⟩, rest⟩ := decoded
      obtain ⟨rfl, _⟩ := decodeReceipt_eq_ok_iff.mp first
      intro other present
      rcases List.mem_cons.mp present with rfl | present
      · exact first
      · exact ih rest other present

/-- A store that opens is sound, where its tables have their keys. -/
theorem sound_of_reopen {store opened : Store} {existingOnly : Bool}
    (ids : (store.items.map ItemRow.id).Nodup)
    (requests : (store.receipts.map Receipt.requestId).Nodup)
    (opens : store.reopen calendar existingOnly = .ok opened) :
    store.Sound calendar := by
  simp only [reopen, verifySchema, verifyRows, validateReceipts,
    ensurePayloadBudget, snapshot, bind_eq_ok_iff, ensure_eq_ok_iff,
    beq_iff_eq, decide_eq_true_eq] at opens
  obtain ⟨_, ⟨_, _, _, reserved, rfl⟩, _, ⟨_, ⟨_, items, decoded⟩, _,
    ⟨_, capacity, receipts⟩, budget⟩, _⟩ := opens
  exact
    { reserved := reserved
      decodes := decodes_of_mapM decoded
      items := items
      ids := ids
      receipts := receipts_of_forM receipts
      requests := requests
      capacity := capacity
      budget := budget }

end Store

open Store in
/-- A store that has been opened once opens again, in either mode, after any
requests, invalidations and restarts, however the database carried them out. -/
theorem opens_again (calendar : Calendar) (fingerprint : String → String)
    (printed : ∀ text, IsFingerprint (fingerprint text) = true)
    (store opened : Store) (existingOnly : Bool)
    (ids : (store.items.map ItemRow.id).Nodup)
    (requests : (store.receipts.map Receipt.requestId).Nodup)
    (opens : store.reopen calendar existingOnly = .ok opened)
    (actions : List Action) (again : Bool) :
    let reached := run (act calendar fingerprint) opened actions
    reached.Sound calendar ∧
      reached.reopen calendar again =
        .ok { reached with blocked := false, readOnly := again } := by
  intro reached
  have before := sound_of_reopen ids requests opens
  have sound : opened.Sound calendar := by
    rw [eq_of_reopen opens]
    exact before.fenced false existingOnly
  have kept : reached.Sound calendar := sound_run printed sound actions
  exact ⟨kept, kept.reopen again⟩

theorem sampleFingerprint_printed (text : String) :
    Store.IsFingerprint (sampleFingerprint text) = true := by
  rw [sampleFingerprint]
  split <;> decide +kernel

theorem thousand_i64 :
    -(i64Max : Int) - 1 ≤ 1000 ∧ (1000 : Int) ≤ i64Max := by decide

/-- A commit that lasts without an answer, and a restart. -/
def sampleActions : List Store.Action :=
  [.request ⟨.create "r1" sampleItem, ⟨1000, thousand_i64⟩,
      ⟨none, false, true, true, true⟩⟩,
    .reopen false, .invalidate ⟨none, true, true, true, true⟩]

theorem opens_again_sample :
    (run (Store.act sampleCalendar sampleFingerprint) sampleStore
        sampleActions).catalogRevision = 2 ∧
      (run (Store.act sampleCalendar sampleFingerprint) sampleStore
        sampleActions).Sound sampleCalendar :=
  ⟨by decide +kernel,
    (opens_again sampleCalendar sampleFingerprint sampleFingerprint_printed
      sampleStore sampleStore false (by decide) (by decide) (by decide +kernel)
      sampleActions true).1⟩

end BarDaemon.Agendas
