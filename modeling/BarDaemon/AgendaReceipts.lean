import BarDaemon.AgendaOwners
import BarDaemon.AgendaRequests
import Mathlib.Data.List.Nodup

/-!
# Receipts of the agenda

The receipts are a journal of the changes: each request that has been carried
out has one, what they tell makes the items, and a request that comes again is
answered from its receipt.
-/

namespace BarDaemon.Agendas

open CompactJson FallibleSteps TransitionRuns

/-! ## The journal -/

/-- The item that an answer is about. -/
def MutationResult.target (result : MutationResult) : Option String :=
  (result.item.map Record.id).or result.deletedId

/-- The items after the change that an answer tells of. -/
def MutationResult.replay (records : String → Option Record)
    (result : MutationResult) : String → Option Record :=
  fun id => if result.target = some id then result.item else records id

namespace Store

/-- The items by their identities. -/
def records (store : Store) : String → Option Record :=
  fun id => (store.items.find? fun row => row.id == id).map ItemRow.payload

variable {calendar : Calendar} {fingerprint : String → String}

theorem records_insertRecord {store after : Store} {record : Record}
    (ids : (store.items.map ItemRow.id).Nodup)
    (succeeded : store.insertRecord calendar record = .ok after) :
    store.records record.id = none ∧
      ∀ id, after.records id =
        if record.id = id then some record else store.records id := by
  obtain ⟨_, rows, other⟩ := keys_insertRecord ids succeeded
  have absent : store.items.find? (fun row => row.id == record.id) = none := by
    simpa [List.find?_eq_none] using other
  constructor
  · simp [records, absent]
  · intro id
    by_cases same : record.id = id
    · subst same
      simp [records, rows, List.find?_append, absent, ItemRow.ofRecord]
    · simp [records, rows, List.find?_append, same, ItemRow.ofRecord]

/-- The first row of an identity is the row of the record that is found. -/
theorem find?_of_get {store : Store} {id : String} {record : Record}
    (found : store.get calendar id = .ok (some record)) :
    store.items.find? (fun row => row.id == id) =
        some (ItemRow.ofRecord record) ∧ record.id = id := by
  rw [get] at found
  split at found
  · rename_i row search
    obtain ⟨decoded, decode, same⟩ := map_eq_ok_iff.mp found
    cases same
    obtain ⟨_, _, rfl, _⟩ := decodeRow_eq_ok_iff.mp decode
    have named := List.find?_some search
    exact ⟨search, beq_iff_eq.mp named⟩
  · cases found

theorem records_patchItem {store after : Store} {id : String}
    {expectedRevision : U64} {patch : ItemPatch} {now : I64}
    {patched : Record}
    (succeeded : store.patchItem calendar id expectedRevision patch now =
      .ok (patched, after)) :
    ∃ record, store.records id = some record ∧
      record.revision = expectedRevision ∧
      Patched calendar record patch now patched ∧ patched.id = id ∧
      ∀ other, after.records other =
        if patched.id = other then some patched else store.records other := by
  rw [patchItem, bind_eq_ok_iff] at succeeded
  obtain ⟨found, search, succeeded⟩ := succeeded
  cases found with
  | none => cases succeeded
  | some record =>
      simp only [bind_eq_ok_iff] at succeeded
      obtain ⟨_, patches, _, _, _, _, done⟩ := succeeded
      cases Except.ok.inj done
      obtain ⟨same, change⟩ := patched_of_patchRecord patches
      obtain ⟨first, rfl⟩ := find?_of_get search
      refine ⟨record, by simp [records, first, ItemRow.ofRecord], same, change,
        change.id, ?_⟩
      intro other
      have keyed : (fun row : ItemRow => row.id == other) ∘
          (fun row : ItemRow => if row.isAt record.id expectedRevision then
            row.write patched else row) = fun row => row.id == other := by
        funext row
        by_cases chosen : row.isAt record.id expectedRevision <;> simp [chosen]
      by_cases named : patched.id = other
      · have known : record.id = other := change.id.symm.trans named
        have chosen :
            (ItemRow.ofRecord record).isAt record.id expectedRevision := by
          simp [ItemRow.isAt, ItemRow.ofRecord, same]
        rw [known] at first
        simp only [records, List.find?_map, keyed, first, if_pos named,
          Option.map_some, if_pos chosen]
        rfl
      · simp only [records, List.find?_map, keyed, Option.map_map, if_neg named]
        cases hit : store.items.find? (fun row => row.id == other) with
        | none => rfl
        | some row =>
            have matched := List.find?_some hit
            have key : row.id = other := beq_iff_eq.mp matched
            have elsewhere : row.isAt record.id expectedRevision = false := by
              rw [change.id] at named
              simp [ItemRow.isAt, key, Ne.symm named]
            simp [elsewhere]

theorem records_deleteItem {store after : Store} {id : String}
    {expectedRevision : U64} (ids : (store.items.map ItemRow.id).Nodup)
    (succeeded :
      store.deleteItem calendar id expectedRevision = .ok after) :
    ∃ record, store.records id = some record ∧
      record.revision = expectedRevision ∧
      ∀ other, after.records other =
        if id = other then none else store.records other := by
  rw [deleteItem, bind_eq_ok_iff] at succeeded
  obtain ⟨found, search, succeeded⟩ := succeeded
  cases found with
  | none => cases succeeded
  | some record =>
      simp only [bind_eq_ok_iff, ensure_eq_ok_iff, beq_iff_eq] at succeeded
      obtain ⟨_, same, _, _, _, _, done⟩ := succeeded
      cases Except.ok.inj done
      obtain ⟨first, rfl⟩ := find?_of_get search
      refine ⟨record, by simp [records, first, ItemRow.ofRecord], same, ?_⟩
      intro other
      by_cases named : record.id = other
      · subst named
        have only : ∀ row ∈ store.items, row.id = record.id →
            row = ItemRow.ofRecord record := fun row present same =>
          List.inj_on_of_nodup_map ids present
            (List.mem_of_find?_eq_some first) same
        have gone : (store.items.filter fun row =>
            !row.isAt record.id expectedRevision).find?
              (fun row => row.id == record.id) = none := by
          rw [List.find?_eq_none]
          intro row kept matched
          obtain ⟨present, other⟩ := List.mem_filter.mp kept
          rw [only row present (beq_iff_eq.mp matched)] at other
          simp [ItemRow.isAt, ItemRow.ofRecord, same] at other
        simp [records, gone]
      · have kept : (fun row : ItemRow =>
            decide ((!row.isAt record.id expectedRevision) = true ∧
              (row.id == other) = true)) = fun row => row.id == other := by
          funext row
          by_cases key : row.id = other
          · simp [ItemRow.isAt, key, Ne.symm named]
          · simp [key]
        simp only [records, List.find?_filter, kept, if_neg named]

/-- What an answer tells is what has been done. -/
theorem records_applyItems {store after : Store} {mutation : Mutation}
    {now : I64} {item : Option Record} {deletedId : Option String}
    (ids : (store.items.map ItemRow.id).Nodup)
    (succeeded : store.applyItems calendar fingerprint mutation now =
      .ok (item, deletedId, after)) (result : MutationResult)
    (told : result.item = item) (deleted : result.deletedId = deletedId) :
    after.records = result.replay store.records := by
  funext other
  cases applied_of_applyItems succeeded with
  | created creates =>
      obtain ⟨_, inserts⟩ := createItem_eq_ok creates
      rw [(records_insertRecord ids inserts).2 other]
      simp [MutationResult.replay, MutationResult.target, told, deleted]
  | patched patches =>
      obtain ⟨_, _, _, _, _, replaced⟩ := records_patchItem patches
      rw [replaced other]
      simp [MutationResult.replay, MutationResult.target, told, deleted]
  | deleted deletes =>
      obtain ⟨_, _, _, removed⟩ := records_deleteItem ids deletes
      rw [removed other]
      simp [MutationResult.replay, MutationResult.target, told, deleted]

end Store

/-! ## The ledger -/

section Ledger

variable (calendar : Calendar) (fingerprint : String → String)

/-- The request is answered for the items as they are: an item is created
where there is none, and one is patched or deleted in the revision that the
request expects. -/
def Follows (records : String → Option Record) (mutation : Mutation)
    (result : MutationResult) : Prop :=
  result.requestId = mutation.requestId ∧
    match mutation with
    | .create request item => ∃ now,
        let record := createRecord ("local:" ++ fingerprint request) item now
        records record.id = none ∧ result.item = some record ∧
          result.deletedId = none
    | .patch _ id expectedRevision fields => ∃ old now record,
        records id = some old ∧ old.revision = expectedRevision ∧
          Patched calendar old fields now record ∧ record.id = id ∧
          result.item = some record ∧ result.deletedId = none
    | .delete _ id expectedRevision => ∃ old,
        records id = some old ∧ old.revision = expectedRevision ∧
          result.item = none ∧ result.deletedId = some id

/-- Requests that are answered one after the other, each for the items that
the answers before it have left, and in a later revision of the catalog. -/
inductive History : (String → Option Record) → Nat →
    List (Mutation × MutationResult) → (String → Option Record) → Nat → Prop
  | nil (records : String → Option Record) {revision last : Nat}
      (later : revision ≤ last) : History records revision [] records last
  | cons {records final : String → Option Record} {revision last : Nat}
      {mutation : Mutation} {result : MutationResult}
      {rest : List (Mutation × MutationResult)}
      (follows : Follows calendar fingerprint records mutation result)
      (later : revision < result.catalogRevision)
      (others : History (result.replay records) result.catalogRevision rest
        final last) :
      History records revision ((mutation, result) :: rest) final last

end Ledger

variable {calendar : Calendar} {fingerprint : String → String}

theorem History.weaken {records final : String → Option Record}
    {revision lower last : Nat} {history : List (Mutation × MutationResult)}
    (follows : History calendar fingerprint records revision history final last)
    (below : lower ≤ revision) :
    History calendar fingerprint records lower history final last := by
  cases follows with
  | nil _ later => exact .nil _ (below.trans later)
  | cons follows later others =>
      exact .cons follows (below.trans_lt later) others

theorem History.replayed {records final : String → Option Record}
    {revision last : Nat} {history : List (Mutation × MutationResult)}
    (follows : History calendar fingerprint records revision history final
      last) :
    final = (history.map Prod.snd).foldl MutationResult.replay records := by
  induction follows with
  | nil records later => rfl
  | cons follows later others ih => simpa using ih

namespace Store

theorem follows_apply {store after : Store} {mutation : Mutation}
    {hash : String} {now : I64} {result : MutationResult}
    (ids : (store.items.map ItemRow.id).Nodup)
    (succeeded : store.apply calendar fingerprint mutation hash now =
      .ok (result, after)) :
    Follows calendar fingerprint store.records mutation result ∧
      after.records = result.replay store.records := by
  obtain ⟨applied, applies, _, _, request, _, _, rfl⟩ := apply_eq_ok succeeded
  refine ⟨⟨request, ?_⟩, records_applyItems ids applies result rfl rfl⟩
  have applied := applied_of_applyItems applies
  generalize result.item = item, result.deletedId = deletedId at applied ⊢
  cases applied with
  | created creates =>
      obtain ⟨rfl, inserts⟩ := createItem_eq_ok creates
      exact ⟨now, (records_insertRecord ids inserts).1, rfl, rfl⟩
  | patched patches =>
      obtain ⟨old, present, current, patched, named, _⟩ :=
        records_patchItem patches
      exact ⟨old, now, _, present, current, patched, named, rfl, rfl⟩
  | deleted deletes =>
      obtain ⟨old, present, current, _⟩ := records_deleteItem ids deletes
      exact ⟨old, present, current, rfl, rfl⟩

/-- The request of an action. -/
def Action.mutation? : Action → Option Mutation
  | .request event => some event.mutation
  | .invalidate _ => none
  | .reopen _ => none

/-- The receipt of a request that has been answered. -/
def receiptOf (fingerprint : String → String)
    (entry : Mutation × MutationResult) : Receipt :=
  ⟨entry.1.requestId, fingerprint entry.1.toJson.render, entry.2⟩

/-- The requests that have taken effect, in the order in which they came. -/
theorem history_run {store : Store}
    (printed : ∀ text, IsFingerprint (fingerprint text) = true)
    (sound : store.Sound calendar) (actions : List Action) :
    ∃ history : List (Mutation × MutationResult),
      let reached := run (act calendar fingerprint) store actions
      reached.receipts = store.receipts ++ history.map (receiptOf fingerprint) ∧
        History calendar fingerprint store.records store.catalogRevision history
          reached.records reached.catalogRevision ∧
        (history.map Prod.fst).Sublist (actions.filterMap Action.mutation?) := by
  induction actions generalizing store with
  | nil => exact ⟨[], by simp, .nil _ le_rfl, by simp⟩
  | cons action actions ih =>
      have change : Change calendar fingerprint store action
          (store.act calendar fingerprint action) := store.change_act action
      have after := sound_change printed sound change
      obtain ⟨history, receipts, follows, order⟩ := ih after
      rw [run_cons]
      generalize store.act calendar fingerprint action = next at *
      cases change with
      | kept _ blocked =>
          refine ⟨history, receipts, follows, order.trans ?_⟩
          exact List.Sublist.filterMap _ (List.sublist_cons_self _ _)
      | reopened existingOnly =>
          exact ⟨history, receipts, follows, order⟩
      | invalidated outcome blocked writable =>
          exact ⟨history, receipts, History.weaken follows (Nat.le_succ _),
            order⟩
      | applied event result after blocked identified prepared applied =>
          obtain ⟨first, records⟩ := follows_apply sound.ids applied
          obtain ⟨_, _, _, revision, _, _, _, rfl⟩ := apply_eq_ok applied
          refine ⟨(event.mutation, result) :: history, ?_, .cons first ?_ ?_, ?_⟩
          · simpa [receiptOf] using receipts
          · rw [revision]
            exact Nat.lt_succ_self _
          · rw [revision, ← records]
            exact follows
          · simpa [Action.mutation?] using order

/-! ## Requests that come again -/

theorem receipt_of_mem {store : Store} (sound : store.Sound calendar)
    {receipt : Receipt} (known : receipt ∈ store.receipts) :
    store.receipt calendar receipt.requestId =
      .ok (some (receipt.fingerprint, receipt.payload)) := by
  have decodes := sound.receipts receipt known
  obtain ⟨_, named, _⟩ := decodeReceipt_eq_ok_iff.mp decodes
  have search : store.receipts.find?
      (fun other => other.requestId == receipt.requestId) = some receipt := by
    cases hit : store.receipts.find?
        (fun other => other.requestId == receipt.requestId) with
    | none =>
        have absent := List.find?_eq_none.mp hit receipt known
        simp at absent
    | some other =>
        have matched := List.find?_some hit
        rw [List.inj_on_of_nodup_map sound.requests
          (List.mem_of_find?_eq_some hit) known (beq_iff_eq.mp matched)]
  rw [Store.receipt, named, search]
  simp only [decodes, ok_bind]
  rfl

/-- The checks of a request that do not depend on the store. -/
def accepts (calendar : Calendar) (mutation : Mutation) : Except String Unit :=
  do
    identifier mutation.requestId
    checkIdentity mutation
    mutation.validateBounds calendar

/-- A request whose identity is known leaves the store as it is, and is only
answered with the result that its receipt holds, to the same content. -/
theorem submit_known {store : Store} (sound : store.Sound calendar)
    {receipt : Receipt} (known : receipt ∈ store.receipts) (event : Event)
    (named : event.mutation.requestId = receipt.requestId) :
    (store.submit calendar fingerprint event).2 = store ∧
      ∀ result, (store.submit calendar fingerprint event).1 = .ok result ↔
        store.readOnly = false ∧ store.blocked = false ∧
          accepts calendar event.mutation = .ok () ∧
          fingerprint event.mutation.toJson.render = receipt.fingerprint ∧
          result = receipt.payload := by
  have found := receipt_of_mem sound known
  rw [← named] at found
  have prepared : store.prepare calendar fingerprint event.mutation = (do
      ensure (!store.readOnly) "existing-only maintenance store is read-only"
      ensure (!store.blocked) "agenda writes fenced"
      identifier event.mutation.requestId
      event.mutation.validateBounds calendar
      ensure (fingerprint event.mutation.toJson.render == receipt.fingerprint)
        "request_id fingerprint mismatch"
      return (fingerprint event.mutation.toJson.render,
        some receipt.payload)) := by
    simp only [prepare, found, ok_bind]
  constructor
  · rw [submit]
    split
    · rfl
    · rw [mutate, prepared]
      split
      · rfl
      · rfl
      · rename_i never
        simp only [bind_eq_ok_iff] at never
        obtain ⟨_, _, _, _, _, _, _, _, _, _, done⟩ := never
        cases Except.ok.inj done
  · intro result
    cases accepted : accepts calendar event.mutation with
    | error error =>
        rw [accepts] at accepted
        rw [submit, accepted]
        simp
    | ok done =>
        have parts := accepted
        simp only [accepts, bind_eq_ok_iff] at parts
        obtain ⟨_, identity, _, _, bounds⟩ := parts
        rw [accepts] at accepted
        rw [submit, accepted]
        simp only [mutate, prepared, identity, bounds, ok_bind]
        cases writable : store.readOnly with
        | true => simp [ensure, error_bind]
        | false =>
            cases fenced : store.blocked with
            | true => simp [ensure, error_bind, ok_bind]
            | false =>
                by_cases content : fingerprint event.mutation.toJson.render =
                    receipt.fingerprint
                · simp [ensure, ok_bind, content, pure, Except.pure, eq_comm]
                · simp [ensure, ok_bind, content]

/-- A request that is answered has its receipt. -/
theorem recorded_of_answered {store : Store} {event : Event}
    {result : MutationResult}
    (answered : (store.submit calendar fingerprint event).1 = .ok result) :
    receiptOf fingerprint (event.mutation, result) ∈
        (store.step calendar fingerprint event).receipts ∧
      accepts calendar event.mutation = .ok () := by
  have accepted : accepts calendar event.mutation = .ok () := by
    cases checked : accepts calendar event.mutation with
    | ok _ => rfl
    | error error =>
        rw [accepts] at checked
        rw [submit, checked] at answered
        cases answered
  refine ⟨?_, accepted⟩
  rw [step]
  rcases store.submit_cases event with ⟨error, _, submitted⟩ |
    ⟨known, prepared, submitted⟩ |
    ⟨fresh, after, _, _, applies, submitted | ⟨error, submitted⟩⟩
  · rw [submitted] at answered
    cases answered
  · rw [submitted] at answered ⊢
    obtain rfl := Except.ok.inj answered
    simp only [prepare, bind_eq_ok_iff] at prepared
    obtain ⟨_, _, _, _, _, _, _, _, found, search, prepared⟩ := prepared
    cases found with
    | none =>
        simp only [bind_eq_ok_iff] at prepared
        obtain ⟨_, _, done⟩ := prepared
        cases Except.ok.inj done
    | some found =>
        obtain ⟨previous, stored⟩ := found
        simp only [bind_eq_ok_iff, ensure_eq_ok_iff, beq_iff_eq] at prepared
        obtain ⟨_, same, done⟩ := prepared
        cases Except.ok.inj done
        rw [Store.receipt, bind_eq_ok_iff] at search
        obtain ⟨_, _, search⟩ := search
        split at search
        · rename_i receipt hit
          rw [bind_eq_ok_iff] at search
          obtain ⟨decoded, decodes, done⟩ := search
          cases Except.ok.inj done
          obtain ⟨rfl, _⟩ := decodeReceipt_eq_ok_iff.mp decodes
          have matched := List.find?_some hit
          have named : receipt.requestId = event.mutation.requestId :=
            beq_iff_eq.mp matched
          rw [receiptOf, same, ← named]
          exact List.mem_of_find?_eq_some hit
        · cases Except.ok.inj search
  · rw [submitted] at answered ⊢
    obtain rfl := Except.ok.inj answered
    obtain ⟨_, _, _, _, _, _, _, rfl⟩ := apply_eq_ok applies
    simp [receiptOf]
  · rw [submitted] at answered
    cases answered

end Store

open Store

/-- The requests that take effect do so at most once each and in the order in
which they come, each for the items that those before it have left; and their
receipts tell what has become of the items. -/
theorem requests_take_effect_once (calendar : Calendar)
    (fingerprint : String → String)
    (printed : ∀ text, IsFingerprint (fingerprint text) = true)
    (store : Store) (sound : store.Sound calendar) (actions : List Action) :
    ∃ history : List (Mutation × MutationResult),
      let reached := run (act calendar fingerprint) store actions
      reached.receipts =
          store.receipts ++ history.map (receiptOf fingerprint) ∧
        (reached.receipts.map Receipt.requestId).Nodup ∧
        (history.map Prod.fst).Sublist (actions.filterMap Action.mutation?) ∧
        History calendar fingerprint store.records store.catalogRevision history
          reached.records reached.catalogRevision ∧
        reached.records =
          (history.map Prod.snd).foldl MutationResult.replay store.records := by
  obtain ⟨history, receipts, follows, order⟩ :=
    history_run printed sound actions
  exact ⟨history, receipts, (sound_run printed sound actions).requests, order,
    follows, follows.replayed⟩

/-- An answered request has its receipt from then on.  When its identity comes
again nothing changes, the same request gets the same answer wherever writes
are not refused, and another one is refused unless the fingerprints of their
texts collide. -/
theorem answered_once (calendar : Calendar) (fingerprint : String → String)
    (printed : ∀ text, IsFingerprint (fingerprint text) = true)
    (store : Store) (sound : store.Sound calendar) (before after : List Action)
    (event : Event) (result : MutationResult)
    (answered : ((run (act calendar fingerprint) store before).submit calendar
      fingerprint event).1 = .ok result) :
    let reached := run (act calendar fingerprint) store
      (before ++ .request event :: after)
    receiptOf fingerprint (event.mutation, result) ∈ reached.receipts ∧
      ∀ again : Event,
        again.mutation.requestId = event.mutation.requestId →
          (reached.submit calendar fingerprint again).2 = reached ∧
            (∀ other, (reached.submit calendar fingerprint again).1 =
              .ok other → other = result) ∧
            (again.mutation = event.mutation → reached.readOnly = false →
              reached.blocked = false →
                (reached.submit calendar fingerprint again).1 = .ok result) ∧
            (again.mutation ≠ event.mutation →
              (fingerprint again.mutation.toJson.render =
                  fingerprint event.mutation.toJson.render →
                again.mutation.toJson.render =
                  event.mutation.toJson.render) →
                ∃ error, (reached.submit calendar fingerprint again).1 =
                  .error error) := by
  intro reached
  obtain ⟨recorded, accepted⟩ := recorded_of_answered answered
  have split : reached = run (act calendar fingerprint)
      ((run (act calendar fingerprint) store before).step calendar fingerprint
        event) after := by
    rw [show reached = run _ _ _ from rfl, run_append, run_cons]
    rfl
  have soundBefore := sound_run printed sound before
  have soundAfter := sound_change printed soundBefore
    (change_request _ event)
  have soundReached : reached.Sound calendar := by
    rw [split]
    exact sound_run printed soundAfter after
  have known : receiptOf fingerprint (event.mutation, result) ∈
      reached.receipts := by
    obtain ⟨history, receipts, _⟩ := history_run printed soundAfter after
    rw [split, receipts]
    exact List.mem_append_left _ recorded
  refine ⟨known, ?_⟩
  intro again named
  obtain ⟨same, answers⟩ := @submit_known calendar fingerprint reached
    soundReached _ known again named
  refine ⟨same, ?_, ?_, ?_⟩
  · intro other told
    exact ((answers other).mp told).2.2.2.2
  · intro alike writable open_
    rw [answers result, alike]
    exact ⟨writable, open_, accepted, rfl, rfl⟩
  · intro different collide
    cases told : (reached.submit calendar fingerprint again).1 with
    | error error => exact ⟨error, rfl⟩
    | ok other =>
        have content := ((answers other).mp told).2.2.2.1
        have alike := faithful_mutation.eq_of_render_eq (collide content)
        exact absurd alike different

/-- A request that fails leaves every row as it was, or it has been stored and
writes are fenced until the store is opened again: then the same request gets
the answer that was lost, and changes nothing. -/
theorem unanswered_resolved (calendar : Calendar)
    (fingerprint : String → String)
    (printed : ∀ text, IsFingerprint (fingerprint text) = true)
    (store : Store) (sound : store.Sound calendar) (actions : List Action)
    (event : Event) (error : String)
    (failed : ((run (act calendar fingerprint) store actions).submit calendar
      fingerprint event).1 = .error error) :
    let reached := run (act calendar fingerprint) store actions
    let next := reached.step calendar fingerprint event
    next = { reached with blocked := next.blocked } ∨
      ∃ result, next.blocked = true ∧
        next.receipts = reached.receipts ++
          [receiptOf fingerprint (event.mutation, result)] ∧
        ∀ (now : I64) (outcome : Outcome),
          let opened := next.act calendar fingerprint (.reopen false)
          opened.submit calendar fingerprint ⟨event.mutation, now, outcome⟩ =
            (.ok result, opened) := by
  intro reached next
  have soundReached : reached.Sound calendar := sound_run printed sound actions
  have soundNext : next.Sound calendar :=
    sound_change printed soundReached (reached.change_request event)
  rcases @submit_cases calendar fingerprint reached event with
    ⟨_, blocked, submitted⟩ |
    ⟨_, _, submitted⟩ |
    ⟨result, after, identified, prepared, applies, submitted |
      ⟨_, submitted⟩⟩
  · left
    simp only [next, step, submitted]
  · rw [submitted] at failed
    cases failed
  · rw [submitted] at failed
    cases failed
  · right
    have stored : next = { after with blocked := true } := by
      simp only [next, step, submitted]
    obtain ⟨_, _, _, _, _, _, _, rfl⟩ := apply_eq_ok applies
    refine ⟨result, by rw [stored], by rw [stored]; rfl, ?_⟩
    intro now outcome opened
    have opens : opened = { next with blocked := false, readOnly := false } := by
      simp only [opened, act, soundNext.reopen false]
    have soundOpened : opened.Sound calendar := by
      rw [opens]
      exact soundNext.fenced false false
    have known : receiptOf fingerprint (event.mutation, result) ∈
        opened.receipts := by
      rw [opens, stored]
      simp [receiptOf]
    have accepted : accepts calendar event.mutation = .ok () := by
      simp only [prepare, bind_eq_ok_iff] at prepared
      obtain ⟨_, _, _, _, _, named, _, bounds, _⟩ := prepared
      simp only [accepts, named, identified, ok_bind]
      exact bounds
    obtain ⟨same, answers⟩ := @submit_known calendar fingerprint opened
      soundOpened _ known ⟨event.mutation, now, outcome⟩ rfl
    have told := (answers result).mpr
      ⟨by rw [opens], by rw [opens], accepted, rfl, rfl⟩
    exact Prod.ext told same

/-! An answer that is lost with its commit, and the request once more. -/

theorem sampleStore_sound : sampleStore.Sound sampleCalendar :=
  @sound_of_reopen sampleCalendar sampleStore sampleStore false (by decide)
    (by decide) (by decide +kernel)

def sampleCreate (outcome : Outcome) : Event :=
  ⟨.create "r1" sampleItem, ⟨1000, thousand_i64⟩, outcome⟩

def sampleAnswer : MutationResult :=
  ⟨some sampleRecord, 1, "r1", none⟩

theorem requests_take_effect_once_sample :
    ∃ history : List (Mutation × MutationResult),
      (run (act sampleCalendar sampleFingerprint) sampleStore
          sampleActions).receipts =
        history.map (receiptOf sampleFingerprint) ∧ history.length = 1 := by
  obtain ⟨history, receipts, _⟩ :=
    requests_take_effect_once sampleCalendar sampleFingerprint
      sampleFingerprint_printed sampleStore sampleStore_sound sampleActions
  refine ⟨history, receipts, ?_⟩
  have many := congrArg List.length receipts
  rw [List.length_append, List.length_map] at many
  have one : (run (act sampleCalendar sampleFingerprint) sampleStore
      sampleActions).receipts.length = 1 := by decide +kernel
  have empty : sampleStore.receipts.length = 0 := rfl
  omega

theorem answered_once_sample :
    receiptOf sampleFingerprint (.create "r1" sampleItem, sampleAnswer) ∈
      (run (act sampleCalendar sampleFingerprint) sampleStore
        ([] ++ .request (sampleCreate ⟨none, true, true, true, true⟩) ::
          sampleActions)).receipts :=
  (answered_once sampleCalendar sampleFingerprint sampleFingerprint_printed
    sampleStore sampleStore_sound [] sampleActions
    (sampleCreate ⟨none, true, true, true, true⟩) sampleAnswer
    (by decide +kernel)).1

/-- The store after a commit that lasts without an answer. -/
def sampleUnanswered : Store :=
  sampleStore.step sampleCalendar sampleFingerprint
    (sampleCreate ⟨none, false, true, true, true⟩)

theorem unanswered_resolved_sample :
    ∃ result, sampleUnanswered.blocked = true ∧
      sampleUnanswered.receipts = [receiptOf sampleFingerprint
        (.create "r1" sampleItem, result)] ∧
      ((sampleUnanswered.act sampleCalendar sampleFingerprint
        (.reopen false)).submit sampleCalendar sampleFingerprint
          (sampleCreate ⟨none, true, true, true, true⟩)).1 = .ok result := by
  have resolved := unanswered_resolved sampleCalendar sampleFingerprint
    sampleFingerprint_printed sampleStore sampleStore_sound []
    (sampleCreate ⟨none, false, true, true, true⟩) "commit failed"
    (by decide +kernel)
  rcases resolved with same | ⟨result, fenced, stored, answered⟩
  · have without : sampleUnanswered.receipts = [] :=
      congrArg Store.receipts same
    exact absurd without (by decide +kernel)
  · exact ⟨result, fenced, stored, congrArg Prod.fst (answered _ _)⟩

end BarDaemon.Agendas
