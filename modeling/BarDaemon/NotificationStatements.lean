import BarDaemon.NotificationTables

/-!
# What the statements leave behind

A sequence of statements that succeeds has changed the tables in one way,
whatever could have failed on the way.
-/

namespace BarDaemon.Notifications

open Attempt FallibleSteps RelationalRows Std

variable {lookups : Lookups} {icons : IconRegistry}
  {connection after : Connection}

theorem execute_ok {Value : Type}
    {statement : NotificationTables →
      Except String (Value × NotificationTables)} {value : Value}
    (done : execute statement connection = (.ok value, after)) :
    statement connection.tables = .ok (value, after.tables) := by
  unfold execute at done
  split at done
  · cases done
  · cases result : statement connection.tables with
    | error error =>
        rw [result] at done
        cases done
    | ok pair =>
        rw [result] at done
        cases done
        rfl

theorem update_ok {change : NotificationTables → NotificationTables}
    {value : Unit} (done : update change connection = (.ok value, after)) :
    after.tables = change connection.tables := by
  have result := execute_ok done
  simp only [Except.ok.injEq, Prod.mk.injEq] at result
  exact result.2.symm

theorem query_ok {Value : Type} {read : NotificationTables → Value}
    {value : Value} (done : query read connection = (.ok value, after)) :
    value = read connection.tables ∧ after.tables = connection.tables := by
  have result := execute_ok done
  simp only [Except.ok.injEq, Prod.mk.injEq] at result
  exact ⟨result.1.symm, result.2.symm⟩

theorem lift_ok {Value : Type} {outcome : Except String Value} {value : Value}
    (done : (lift id outcome : Attempt Connection String Value) connection =
      (.ok value, after)) :
    outcome = .ok value ∧ after = connection := by
  cases outcome with
  | error error => cases done
  | ok other =>
      cases done
      exact ⟨rfl, rfl⟩

theorem ensure_ok {condition : Bool} {error : String} {value : Unit}
    (done : (Attempt.ensure condition error : Attempt Connection String Unit)
      connection = (.ok value, after)) :
    condition = true ∧ after = connection := by
  cases condition with
  | false => cases done
  | true =>
      cases done
      exact ⟨rfl, rfl⟩

/-! ### Children -/

theorem ChildRow.insert_eq_ok {Value : Type} {rows after : List (ChildRow Value)}
    {row : ChildRow Value}
    (inserted : ChildRow.insert rows row = .ok after) :
    after = rows ++ [row] := by
  unfold ChildRow.insert at inserted
  split at inserted
  · cases inserted
  · cases inserted
    rfl

/-- All rows of an owner are inserted into one of the tables. -/
theorem insertChildren_ok {Value : Type}
    {insert : ChildRow Value → NotificationTables →
      Except String NotificationTables}
    {rows : NotificationTables → List (ChildRow Value)}
    {write : NotificationTables → List (ChildRow Value) → NotificationTables}
    (inserts : ∀ row tables next, insert row tables = .ok next →
      next = write tables (rows tables ++ [row]))
    (read : ∀ tables values, rows (write tables values) = values)
    (rewrite : ∀ tables values others,
      write (write tables values) others = write tables others)
    (same : ∀ tables, write tables (rows tables) = tables)
    {children : List (ChildRow Value)} {value : Unit}
    (done : insertChildren insert children connection =
      (.ok value, after)) :
    after.tables = write connection.tables
      (rows connection.tables ++ children) := by
  induction children generalizing connection with
  | nil =>
      cases done
      rw [List.append_nil, same]
  | cons row children ih =>
      obtain ⟨_, middle, first, rest⟩ := bind_eq_ok_iff.mp done
      have next := execute_ok first
      obtain ⟨tables, inserted, equal⟩ := map_eq_ok_iff.mp next
      have written := inserts row connection.tables tables inserted
      have reached : middle.tables = tables := (Prod.mk.inj equal).2.symm
      rw [ih rest, reached, written, read, rewrite, List.append_assoc]
      rfl

theorem insertActions_ok {children : List (ChildRow NotificationAction)}
    {value : Unit}
    (done : insertChildren insertAction children connection =
      (.ok value, after)) :
    after.tables = { connection.tables with
      actions := connection.tables.actions ++ children } := by
  apply @insertChildren_ok _ _ _ insertAction NotificationTables.actions
    (fun tables rows => { tables with actions := rows }) ?_
    (fun _ _ => rfl) (fun _ _ _ => rfl) (fun _ => rfl) _ _ done
  intro row tables next inserted
  obtain ⟨rows, grown, rfl⟩ := map_eq_ok_iff.mp inserted
  rw [ChildRow.insert_eq_ok grown]

theorem insertContextActions_ok {children : List (ChildRow ContextAction)}
    {value : Unit}
    (done : insertChildren insertContextAction children connection =
      (.ok value, after)) :
    after.tables = { connection.tables with
      contextActions := connection.tables.contextActions ++ children } := by
  apply @insertChildren_ok _ _ _ insertContextAction
    NotificationTables.contextActions
    (fun tables rows => { tables with contextActions := rows }) ?_
    (fun _ _ => rfl) (fun _ _ _ => rfl) (fun _ => rfl) _ _ done
  intro row tables next inserted
  obtain ⟨rows, grown, rfl⟩ := map_eq_ok_iff.mp inserted
  rw [ChildRow.insert_eq_ok grown]

/-! ### Deleting -/

namespace NotificationTables

/-- The tables without the children of some notifications. -/
def withoutChildren (tables : NotificationTables) (doomed : Nat → Bool) :
    NotificationTables :=
  { tables with
    actions := ChildRow.remove tables.actions doomed
    contextActions := ChildRow.remove tables.contextActions doomed
    previews := tables.previews.filter fun id _ => !doomed id }

/-- The tables without some notifications and their children. -/
def deleted (tables : NotificationTables)
    (predicate : NotificationTable → Nat → Row → Bool) : NotificationTables :=
  { tables.withoutChildren fun id => tables.notifications[id]?.any
      (predicate tables.notifications id) with
    notifications := tables.notifications.filter fun id row =>
      !predicate tables.notifications id row }

end NotificationTables

theorem deleteChildren_ok {doomed : NotificationTable → Nat → Bool}
    {value : Unit}
    (done : deleteChildren doomed connection = (.ok value, after)) :
    after.tables = connection.tables.withoutChildren
      (doomed connection.tables.notifications) := by
  obtain ⟨_, second, first, rest⟩ := bind_eq_ok_iff.mp done
  obtain ⟨_, third, middle, last⟩ := bind_eq_ok_iff.mp rest
  rw [update_ok last, update_ok middle, update_ok first]
  rfl

theorem deleteWhere_ok {predicate : NotificationTable → Nat → Row → Bool}
    {count : Nat}
    (done : deleteWhere predicate connection = (.ok count, after)) :
    after.tables = connection.tables.deleted predicate := by
  obtain ⟨_, middle, first, rest⟩ := bind_eq_ok_iff.mp done
  have last := execute_ok rest
  rw [deleteChildren_ok first] at last
  simp only [Except.ok.injEq, Prod.mk.injEq] at last
  rw [← last.2]
  rfl

/-! ### Saving -/

/-- A row that `save_content` has written. -/
structure Saved (lookups : Lookups) (item : ActiveNotification)
    (before : NotificationTables) (id : Nat) (row : Row) : Prop where
  cells : ∃ cells, contentCells lookups item = .ok cells ∧
    row = (before.notifications[id]?.getD fun _ => .null).update
      contentColumns cells
  fits : id ≤ i64Max
  /-- It replaces the open row of the session, or its key is new. -/
  place : (∃ old, before.notifications[id]? = some old ∧
      isOpenFor item.id old = true) ∨
    before.notifications[id]? = none ∧ before.sequence < id
  opened : isOpenFor item.id row = true
  checks : contentChecks.all (passes row) = true
  alone : ∀ (other : Nat) (old : Row), other ≠ id →
    before.notifications[other]? = some old → isOpenFor item.id old = false

namespace NotificationTables

def withContent (tables : NotificationTables) (id : Nat) (row : Row) :
    NotificationTables :=
  { tables with
    notifications := tables.notifications.insert id row
    sequence := max tables.sequence id }

/-- The tables after the children of a notification have been replaced. -/
def withChildren (tables : NotificationTables) (lookups : Lookups)
    (icons : IconRegistry) (id : Nat) (item : ActiveNotification) :
    NotificationTables :=
  let bare := tables.withoutChildren (· == id)
  { bare with
    actions := bare.actions ++ ChildRow.numbered id 0 item.actions
    contextActions := bare.contextActions ++
      ChildRow.numbered id 0 item.contextActions
    previews := bare.previews.insert id (.ofColumns previewColumns
      (previewCells id (.fromActive lookups icons item ""))) }

def remembering (tables : NotificationTables) (id : Nat) :
    NotificationTables :=
  { tables with lastNotificationId := max tables.lastNotificationId id }

theorem openId_eq_some {tables : NotificationTables} {session id : Nat}
    (found : tables.openId session = some id) :
    ∃ row, tables.notifications[id]? = some row ∧
      isOpenFor session row = true := by
  obtain ⟨⟨key, row⟩, first, rfl⟩ := Option.map_eq_some_iff.mp found
  have listed := List.mem_of_find?_eq_some first
  have meets := @List.find?_some _
    (fun entry : Nat × Row => isOpenFor session entry.2) _ _ first
  exact ⟨row, ExtTreeMap.mem_toList_iff_getElem?_eq_some.mp listed, meets⟩

theorem sequence_lt_nextId (tables : NotificationTables) :
    tables.sequence < tables.nextId :=
  Nat.lt_succ_of_le (Nat.le_max_left ..)

theorem getElem?_nextId (tables : NotificationTables) :
    tables.notifications[tables.nextId]? = none := by
  apply ExtTreeMap.getElem?_eq_none
  intro member
  have below : tables.nextId ≤ tables.notifications.keys.max?.getD 0 :=
    List.le_max?_getD_of_mem (ExtTreeMap.mem_keys.mpr member)
  unfold nextId at below
  omega

/-- What an upsert that has not been refused has checked. -/
theorem insertContent_ok {tables next : NotificationTables}
    {existing : Option Nat} {session : Nat} {cells : List Cell}
    (inserted : tables.insertContent existing session cells = .ok next) :
    ∃ row, row = (tables.notifications[existing.getD tables.nextId]?.getD
        fun _ => .null).update contentColumns cells ∧
      existing.getD tables.nextId ≤ i64Max ∧
      contentChecks.all (passes row) = true ∧
      (∀ (other : Nat) (old : Row), other ≠ existing.getD tables.nextId →
        tables.notifications[other]? = some old →
        isOpenFor session old = false) ∧
      next = tables.withContent (existing.getD tables.nextId) row := by
  obtain ⟨_, first, rest⟩ := bind_eq_ok_iff.mp inserted
  obtain ⟨_, second, rest⟩ := bind_eq_ok_iff.mp rest
  obtain ⟨_, third, last⟩ := bind_eq_ok_iff.mp rest
  have fits := of_decide_eq_true (ensure_eq_ok first)
  have checks := ensure_eq_ok second
  have unique := List.all_eq_true.mp (ensure_eq_ok third)
  cases last
  refine ⟨_, rfl, fits, checks, ?_, rfl⟩
  intro other old different listed
  have holds := unique (other, old)
    (ExtTreeMap.mem_toList_iff_getElem?_eq_some.mpr listed)
  simpa [different] using holds

end NotificationTables

/-- The key of an upsert is that of the open row, or a new one. -/
theorem NotificationTables.upsertKey_place (tables : NotificationTables)
    {existing : Option Nat} {session : Nat}
    (present : existing = tables.openId session) :
    (∃ old, tables.notifications[existing.getD tables.nextId]? = some old ∧
        isOpenFor session old = true) ∨
      tables.notifications[existing.getD tables.nextId]? = none ∧
        tables.sequence < existing.getD tables.nextId := by
  cases existing with
  | none => exact .inr ⟨tables.getElem?_nextId, tables.sequence_lt_nextId⟩
  | some id => exact .inl (openId_eq_some present.symm)

theorem saveContent_ok {item : ActiveNotification} {id : Nat}
    (done : saveContent lookups item connection = (.ok id, after)) :
    ∃ row, Saved lookups item connection.tables id row ∧
      after.tables = connection.tables.withContent id row := by
  obtain ⟨existing, first, asked, rest⟩ := bind_eq_ok_iff.mp done
  obtain ⟨cells, second, lifted, rest⟩ := bind_eq_ok_iff.mp rest
  obtain ⟨_, third, written, rest⟩ := bind_eq_ok_iff.mp rest
  obtain ⟨saved, fourth, again, rest⟩ := bind_eq_ok_iff.mp rest
  obtain ⟨present, firstTables⟩ := query_ok asked
  obtain ⟨encoded, rfl⟩ := lift_ok lifted
  have inserted := execute_ok written
  obtain ⟨tables, inserted, equal⟩ := map_eq_ok_iff.mp inserted
  obtain ⟨-, rfl⟩ := Prod.mk.inj equal
  obtain ⟨savedId, fourthTables⟩ := query_ok again
  rw [firstTables] at inserted
  have place := connection.tables.upsertKey_place present
  cases saved with
  | none => cases rest
  | some found =>
      cases rest
      rw [fourthTables]
      obtain ⟨row, wrote, fits, checks, alone, equal⟩ :=
        NotificationTables.insertContent_ok inserted
      generalize existing.getD connection.tables.nextId = key at *
      rw [equal] at savedId ⊢
      obtain ⟨old, listed, opened⟩ :=
        NotificationTables.openId_eq_some savedId.symm
      have same : id = key := by
        by_contra different
        have kept : connection.tables.notifications[id]? = some old := by
          have other : ¬ key = id := fun equal => different equal.symm
          simpa [NotificationTables.withContent,
            ExtTreeMap.getElem?_insert, other] using listed
        rw [alone id old different kept] at opened
        cases opened
      subst same
      have newest : row = old := by
        simpa [NotificationTables.withContent] using listed
      subst newest
      exact ⟨row, ⟨⟨cells, encoded, wrote⟩, fits, place, opened, checks, alone⟩,
        rfl⟩

theorem saveChildren_ok {item : ActiveNotification} {owner : Nat}
    {value : Unit}
    (done : saveChildren lookups icons owner item connection =
      (.ok value, after)) :
    after.tables =
      connection.tables.withChildren lookups icons owner item := by
  obtain ⟨_, bare, first, rest⟩ := bind_eq_ok_iff.mp done
  obtain ⟨_, second, acted, rest⟩ := bind_eq_ok_iff.mp rest
  obtain ⟨_, third, placed, last⟩ := bind_eq_ok_iff.mp rest
  have written := execute_ok last
  obtain ⟨tables, inserted, equal⟩ := map_eq_ok_iff.mp written
  have reached := (Prod.mk.inj equal).2
  obtain ⟨_, -, inserted⟩ := FallibleSteps.bind_eq_ok_iff.mp inserted
  cases inserted
  rw [← reached, insertContextActions_ok placed, insertActions_ok acted,
    deleteChildren_ok first]
  rfl

theorem saveInner_ok {item : ActiveNotification} {value : Unit}
    (done : saveInner lookups icons item connection = (.ok value, after)) :
    (item.hints.transient = true ∧
      after.tables = (connection.tables.remembering item.id).deleted
        fun _ _ row => isOpenFor item.id row) ∨
    (item.hints.transient = false ∧ ∃ id row,
      Saved lookups item (connection.tables.remembering item.id) id row ∧
      after.tables = ((connection.tables.remembering item.id).withContent id
        row).withChildren lookups icons id item) := by
  obtain ⟨_, remembered, first, rest⟩ := bind_eq_ok_iff.mp done
  have tables : remembered.tables =
      connection.tables.remembering item.id := update_ok first
  split at rest
  · rename_i transient
    obtain ⟨_, deleted, second, last⟩ := bind_eq_ok_iff.mp rest
    cases last
    refine .inl ⟨transient, ?_⟩
    rw [deleteWhere_ok second, tables]
  · rename_i lasting
    obtain ⟨-, rest⟩ := ensure_bind_eq_ok_iff.mp rest
    obtain ⟨id, saved, second, last⟩ := bind_eq_ok_iff.mp rest
    obtain ⟨row, wrote, content⟩ := saveContent_ok second
    rw [tables] at wrote content
    refine .inr ⟨eq_false_of_ne_true lasting, id, row, wrote, ?_⟩
    rw [saveChildren_ok last, content]

/-! ### Closing and pruning -/

theorem closeInner_ok {session : Option Nat} {closed reason : Nat}
    {value : Unit}
    (done : closeInner session closed reason connection =
      (.ok value, after)) :
    (∀ (id : Nat) (row : Row), connection.tables.notifications[id]? =
        some row → closes session row = true →
      closeChecks.all (passes (closedRow closed reason row)) = true) ∧
    after.tables = { connection.tables with
      notifications := connection.tables.notifications.map fun _ row =>
        if closes session row then closedRow closed reason row else row } := by
  obtain ⟨stamp, first, lifted, last⟩ := bind_eq_ok_iff.mp done
  obtain ⟨converted, rfl⟩ := lift_ok lifted
  have same : stamp = closed := by
    unfold integer at converted
    split at converted
    · cases converted
      rfl
    · cases converted
  subst same
  have written := execute_ok last
  obtain ⟨tables, updated, equal⟩ := map_eq_ok_iff.mp written
  have reached := (Prod.mk.inj equal).2
  obtain ⟨_, checked, updated⟩ := FallibleSteps.bind_eq_ok_iff.mp updated
  have checks := List.all_eq_true.mp (ensure_eq_ok checked)
  cases updated
  refine ⟨?_, reached.symm⟩
  intro id row listed closing
  have holds := checks (id, row)
    (ExtTreeMap.mem_toList_iff_getElem?_eq_some.mpr listed)
  simpa [closing] using holds

theorem pruneInner_ok {now count : Nat}
    (done : pruneInner now connection = (.ok count, after)) :
    ∃ cutoff, after.tables =
      connection.tables.deleted (prunable cutoff) := by
  obtain ⟨days, first, asked, rest⟩ := bind_eq_ok_iff.mp done
  obtain ⟨_, second, checked, rest⟩ := bind_eq_ok_iff.mp rest
  obtain ⟨cutoff, third, lifted, last⟩ := bind_eq_ok_iff.mp rest
  obtain ⟨-, rfl⟩ := lift_ok lifted
  obtain ⟨-, rfl⟩ := ensure_ok checked
  refine ⟨cutoff, ?_⟩
  rw [deleteWhere_ok last, (query_ok asked).2]

end BarDaemon.Notifications
