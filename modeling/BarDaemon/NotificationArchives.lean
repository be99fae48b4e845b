import BarDaemon.NotificationStatements
import Mathlib.Logic.Function.Basic

/-!
# Archives

What the tables of the notification database stand for: one notification for
each key, whose row, preview and numbered actions are those that were saved.
Every change of the tables is a change of the archive.
-/

namespace BarDaemon.Notifications

open FallibleSteps RelationalRows Std

/-- The notifications of the database by `history_id`. -/
abbrev Archive := Nat → Option KeptNotification

namespace KeptNotification

/-- Close an open notification, of one session or of any. -/
def close (session : Option Nat) (closed reason : Nat)
    (kept : KeptNotification) : KeptNotification :=
  if kept.closed = none ∧ session.all (fun id => kept.item.id == id) then
    { kept with closed := some (closed, reason) }
  else kept

theorem close_item (session : Option Nat) (closed reason : Nat)
    (kept : KeptNotification) :
    (kept.close session closed reason).item = kept.item := by
  unfold close
  split <;> rfl

theorem close_icons (session : Option Nat) (closed reason : Nat)
    (kept : KeptNotification) :
    (kept.close session closed reason).icons = kept.icons := by
  unfold close
  split <;> rfl

/-- Closing opens nothing. -/
theorem open_of_close {session : Option Nat} {closed reason : Nat}
    {kept : KeptNotification}
    (opened : (kept.close session closed reason).closed = none) :
    kept.closed = none := by
  unfold close at opened
  split at opened
  · cases opened
  · exact opened

def previewRow (kept : KeptNotification) (lookups : Lookups) (id : Nat) :
    Row :=
  .ofColumns previewColumns (previewCells id
    (.fromActive lookups kept.icons kept.item ""))

theorem previewRow_select (kept : KeptNotification) (lookups : Lookups)
    (id : Nat) :
    (kept.previewRow lookups id).select previewColumns =
      previewCells id (.fromActive lookups kept.icons kept.item "") :=
  Row.select_ofColumns previewColumns_nodup rfl

end KeptNotification

namespace Archive

def store (archive : Archive) (id : Nat) (kept : KeptNotification) : Archive :=
  Function.update archive id (some kept)

def without (archive : Archive) (doomed : Nat → Bool) : Archive :=
  fun id => if doomed id then none else archive id

def close (archive : Archive) (session : Option Nat) (closed reason : Nat) :
    Archive :=
  fun id => (archive id).map (·.close session closed reason)

@[simp]
theorem store_self (archive : Archive) (id : Nat) (kept : KeptNotification) :
    archive.store id kept id = some kept :=
  Function.update_self ..

theorem store_of_ne (archive : Archive) {id other : Nat}
    (different : other ≠ id) (kept : KeptNotification) :
    archive.store id kept other = archive other :=
  Function.update_of_ne different ..

theorem without_eq_some {archive : Archive} {doomed : Nat → Bool} {id : Nat}
    {kept : KeptNotification} (found : archive.without doomed id = some kept) :
    doomed id = false ∧ archive id = some kept := by
  unfold without at found
  split at found
  · cases found
  · rename_i stays
    exact ⟨eq_false_of_ne_true stays, found⟩

end Archive

/-! ### Rows of the archive -/

variable {lookups : Lookups} {icons : IconRegistry}

theorem contentCells_length {item : ActiveNotification} {cells : List Cell}
    (encoded : contentCells lookups item = .ok cells) : cells.length = 24 := by
  obtain ⟨-, -, -, -, rfl⟩ := contentCells_eq_ok encoded
  rfl

namespace Holds

variable {kept : KeptNotification} {row : Row}

theorem sessionCell (holds : Holds lookups kept row) :
    row "session_id" = .ofNat kept.item.id := by
  obtain ⟨cells, encoded, written⟩ := holds.cells
  obtain ⟨-, -, -, -, rfl⟩ := contentCells_eq_ok encoded
  exact (List.cons.inj written).1

theorem closedCell_eq_null (holds : Holds lookups kept row) :
    row "closed_unix_ms" = .null ↔ kept.closed = none := by
  rw [holds.closed]
  cases kept.closed with
  | none => exact ⟨fun _ => rfl, fun _ => rfl⟩
  | some times =>
      exact ⟨fun never => (nomatch never), fun never => (nomatch never)⟩

theorem isOpenFor_eq (holds : Holds lookups kept row) (session : Nat) :
    isOpenFor session row = true ↔
      kept.item.id = session ∧ kept.closed = none := by
  have cells : (Cell.ofNat kept.item.id == Cell.ofNat session) = true ↔
      kept.item.id = session := by
    rw [beq_iff_eq, Cell.ofNat_inj]
  unfold isOpenFor
  rw [Bool.and_eq_true, holds.sessionCell, cells, beq_iff_eq,
    holds.closedCell_eq_null]

theorem closes_eq (holds : Holds lookups kept row) (session : Option Nat) :
    closes session row = true ↔ kept.closed = none ∧
      session.all (fun id => kept.item.id == id) = true := by
  have cells (id : Nat) : (Cell.ofNat kept.item.id == Cell.ofNat id) =
      (kept.item.id == id) := by
    rw [Bool.eq_iff_iff, beq_iff_eq, beq_iff_eq, Cell.ofNat_inj]
  unfold closes
  rw [Bool.and_eq_true, beq_iff_eq, holds.closedCell_eq_null,
    holds.sessionCell]
  simp only [cells]

end Holds

/-- A row that passes a check of a column holds `NULL` or fits. -/
theorem passes_ofNat {row : Row} {name : String} {low high value : Nat}
    (checked : passes row (name, low, high) = true)
    (cell : row name = .ofNat value) : low ≤ value ∧ value ≤ high := by
  unfold passes at checked
  rw [cell] at checked
  have bounds := of_decide_eq_true checked
  constructor
  · exact Int.ofNat_le.mp bounds.1
  · exact Int.ofNat_le.mp bounds.2

/-- What an upsert writes is the open notification. -/
theorem Saved.holds {item : ActiveNotification} {before : NotificationTables}
    {id : Nat} {row : Row} (saved : Saved lookups item before id row)
    (past : ∀ old, before.notifications[id]? = some old →
      old "closed_unix_ms" = .null → old "close_reason" = .null) :
    Holds lookups ⟨icons, item, none⟩ row := by
  obtain ⟨cells, encoded, written⟩ := saved.cells
  have selected : row.select contentColumns = cells := by
    rw [written, Row.select_update]
    apply Row.select_ofColumns contentColumns_nodup
    rw [contentCells_length encoded]
    rfl
  have kept {name : String} (other : name ∉ contentColumns) :
      row name = (before.notifications[id]?.getD fun _ => .null) name := by
    rw [written]
    exact Row.update_of_not_mem other ..
  have opened := saved.opened
  unfold isOpenFor at opened
  simp only [Bool.and_eq_true, beq_iff_eq] at opened
  have closed : row "closed_unix_ms" = .null := opened.2
  have reason : row "close_reason" = .null := by
    rw [kept (by decide)]
    rw [kept (by decide)] at closed
    cases found : before.notifications[id]? with
    | none => rfl
    | some old =>
        rw [found] at closed
        exact past old found closed
  have checks := List.all_eq_true.mp saved.checks
  have urgency : row "urgency" = .ofNat item.hints.urgency := by
    obtain ⟨-, -, -, -, rfl⟩ := contentCells_eq_ok encoded
    simp only [Row.select, contentColumns, List.map_cons, List.map_nil,
      List.cons.injEq] at selected
    simp only [selected]
  constructor
  · exact ⟨cells, encoded, selected⟩
  · exact (passes_ofNat (checks ("session_id", 1, u32Max)
      (List.mem_cons_self ..)) opened.1).2
  · exact (passes_ofNat (checks ("urgency", 0, 255)
      (List.mem_cons_of_mem _ (List.mem_cons_self ..))) urgency).2
  · exact closed
  · exact reason
  · exact fun _ never => by cases never
  · exact fun _ never => by cases never

/-- What closing writes is the closed notification. -/
theorem Holds.close {kept : KeptNotification} {row : Row}
    (holds : Holds lookups kept row) {closed reason : Nat}
    (checked : closeChecks.all (passes (closedRow closed reason row)) = true) :
    Holds lookups { kept with closed := some (closed, reason) }
      (closedRow closed reason row) := by
  have checks := List.all_eq_true.mp checked
  obtain ⟨cells, encoded, written⟩ := holds.cells
  have same : (closedRow closed reason row).select contentColumns =
      row.select contentColumns := by
    apply List.map_congr_left
    intro name member
    apply Row.update_of_not_mem
    rintro either
    have distinct : ∀ name ∈ contentColumns,
        name ∉ ["closed_unix_ms", "close_reason"] := by
      decide +kernel
    exact distinct name member either
  constructor
  · exact ⟨cells, encoded, same.trans written⟩
  · exact holds.session
  · exact holds.urgency
  · rfl
  · rfl
  · rintro limit ⟨⟩
    exact (passes_ofNat (checks ("closed_unix_ms", 0, i64Max)
      (List.mem_cons_self ..)) rfl).2
  · rintro limit ⟨⟩
    exact (passes_ofNat (checks ("close_reason", 0, u32Max)
      (List.mem_cons_of_mem _ (List.mem_cons_self ..))) rfl).2

/-! ### The tables of an archive -/

namespace Archive

def actions (archive : Archive) (id : Nat) : List NotificationAction :=
  ((archive id).map (·.item.actions)).getD []

def contextActions (archive : Archive) (id : Nat) : List ContextAction :=
  ((archive id).map (·.item.contextActions)).getD []

theorem close_actions (archive : Archive) (session : Option Nat)
    (closed reason id : Nat) :
    (archive.close session closed reason).actions id =
      archive.actions id := by
  simp only [actions, close, Option.map_map, Function.comp_def,
    KeptNotification.close_item]

theorem close_contextActions (archive : Archive) (session : Option Nat)
    (closed reason id : Nat) :
    (archive.close session closed reason).contextActions id =
      archive.contextActions id := by
  simp only [contextActions, close, Option.map_map, Function.comp_def,
    KeptNotification.close_item]

end Archive

/-- The tables hold an archive and nothing else. -/
structure Represents (lookups : Lookups) (archive : Archive)
    (tables : NotificationTables) : Prop where
  rows : ∀ id kept, archive id = some kept →
    ∃ row, tables.notifications[id]? = some row ∧ Holds lookups kept row
  absent : ∀ id, archive id = none → tables.notifications[id]? = none
  fits : ∀ id kept, archive id = some kept → id ≤ i64Max
  previews : ∀ id : Nat,
    tables.previews[id]? = (archive id).map (·.previewRow lookups id)
  actions : ∀ id, ChildRow.ofOwner tables.actions id =
    ChildRow.numbered id 0 (archive.actions id)
  contextActions : ∀ id, ChildRow.ofOwner tables.contextActions id =
    ChildRow.numbered id 0 (archive.contextActions id)
  alone : ∀ first second kept other, archive first = some kept →
    archive second = some other → kept.closed = none → other.closed = none →
    kept.item.id = other.item.id → first = second

namespace NotificationTables

variable (tables : NotificationTables) (item : ActiveNotification)
  (id other : Nat)

theorem withChildren_previews :
    (tables.withChildren lookups icons id item).previews[other]? =
      if other = id then
        some (KeptNotification.previewRow ⟨icons, item, none⟩ lookups id)
      else tables.previews[other]? := by
  unfold withChildren withoutChildren
  by_cases same : other = id
  · subst same
    rw [if_pos rfl]
    exact ExtTreeMap.getElem?_insert_self
  · rw [if_neg same]
    have spared : (other == id) = false := beq_false_of_ne same
    have kept : (tables.previews.filter fun key _ => !(key == id))[other]? =
        tables.previews[other]? := by
      rw [ExtTreeMap.getElem?_filter', spared]
      cases tables.previews[other]? <;> rfl
    simpa [ExtTreeMap.getElem?_insert, Ne.symm same] using kept

theorem withChildren_actions :
    ChildRow.ofOwner (tables.withChildren lookups icons id item).actions other =
      if other = id then ChildRow.numbered id 0 item.actions
      else ChildRow.ofOwner tables.actions other := by
  unfold withChildren withoutChildren
  simp only [ChildRow.ofOwner_append, ChildRow.ofOwner_remove,
    ChildRow.ofOwner_numbered, beq_iff_eq]
  by_cases same : other = id
  · rw [if_pos same, if_pos same.symm, if_pos same]
    rfl
  · rw [if_neg same, if_neg (Ne.symm same), if_neg same, List.append_nil]

theorem withChildren_contextActions :
    ChildRow.ofOwner
        (tables.withChildren lookups icons id item).contextActions other =
      if other = id then ChildRow.numbered id 0 item.contextActions
      else ChildRow.ofOwner tables.contextActions other := by
  unfold withChildren withoutChildren
  simp only [ChildRow.ofOwner_append, ChildRow.ofOwner_remove,
    ChildRow.ofOwner_numbered, beq_iff_eq]
  by_cases same : other = id
  · rw [if_pos same, if_pos same.symm, if_pos same]
    rfl
  · rw [if_neg same, if_neg (Ne.symm same), if_neg same, List.append_nil]

end NotificationTables

namespace Represents

variable {archive : Archive} {tables : NotificationTables}

theorem empty (lookups : Lookups) : Represents lookups (fun _ => none) {} where
  rows := fun _ _ never => nomatch never
  absent := fun _ _ => ExtTreeMap.getElem?_empty
  fits := fun _ _ never => nomatch never
  previews := fun _ => ExtTreeMap.getElem?_empty
  actions := fun _ => rfl
  contextActions := fun _ => rfl
  alone := fun _ _ _ _ never => nomatch never

/-- Every row is that of a notification. -/
theorem row (represents : Represents lookups archive tables) {id : Nat}
    {row : Row} (listed : tables.notifications[id]? = some row) :
    ∃ kept, archive id = some kept ∧ Holds lookups kept row := by
  cases found : archive id with
  | none =>
      rw [represents.absent id found] at listed
      cases listed
  | some kept =>
      obtain ⟨same, read, holds⟩ := represents.rows id kept found
      rw [read] at listed
      cases listed
      exact ⟨kept, rfl, holds⟩

theorem remember (represents : Represents lookups archive tables)
    (id : Nat) : Represents lookups archive (tables.remembering id) :=
  { represents with }

/-- A saved notification takes the place of its key. -/
theorem save (represents : Represents lookups archive tables)
    {item : ActiveNotification} {id : Nat} {row : Row}
    (saved : Saved lookups item tables id row) :
    Represents lookups (archive.store id ⟨icons, item, none⟩)
      ((tables.withContent id row).withChildren lookups icons id item) := by
  have past : ∀ old, tables.notifications[id]? = some old →
      old "closed_unix_ms" = .null → old "close_reason" = .null := by
    intro old listed opened
    obtain ⟨kept, -, holds⟩ := represents.row listed
    rw [holds.reason, holds.closedCell_eq_null.mp opened]
    rfl
  have others {other : Nat} (different : other ≠ id) :
      (tables.notifications.insert id row)[other]? =
        tables.notifications[other]? := by
    simp [ExtTreeMap.getElem?_insert, Ne.symm different]
  -- no other open row belongs to the session of the saved one
  have single : ∀ other kept, other ≠ id → archive other = some kept →
      kept.closed = none → kept.item.id ≠ item.id := by
    intro other kept different found opened same
    obtain ⟨old, listed, holds⟩ := represents.rows other kept found
    have never := saved.alone other old different listed
    rw [(holds.isOpenFor_eq item.id).mpr ⟨same, opened⟩] at never
    cases never
  constructor
  · intro other kept found
    by_cases same : other = id
    · subst same
      rw [Archive.store_self] at found
      cases found
      exact ⟨row, ExtTreeMap.getElem?_insert_self, saved.holds past⟩
    · rw [Archive.store_of_ne archive same] at found
      obtain ⟨old, listed, holds⟩ := represents.rows other kept found
      exact ⟨old, (others same).trans listed, holds⟩
  · intro other missing
    by_cases same : other = id
    · subst same
      rw [Archive.store_self] at missing
      cases missing
    · rw [Archive.store_of_ne archive same] at missing
      exact (others same).trans (represents.absent other missing)
  · intro other kept found
    by_cases same : other = id
    · rw [same]
      exact saved.fits
    · rw [Archive.store_of_ne archive same] at found
      exact represents.fits other kept found
  · intro other
    rw [NotificationTables.withChildren_previews]
    split <;> rename_i same
    · rw [same, Archive.store_self]
      rfl
    · rw [Archive.store_of_ne archive same]
      exact represents.previews other
  · intro other
    rw [NotificationTables.withChildren_actions, Archive.actions]
    split <;> rename_i same
    · rw [same, Archive.store_self]
      rfl
    · rw [Archive.store_of_ne archive same]
      exact represents.actions other
  · intro other
    rw [NotificationTables.withChildren_contextActions,
      Archive.contextActions]
    split <;> rename_i same
    · rw [same, Archive.store_self]
      rfl
    · rw [Archive.store_of_ne archive same]
      exact represents.contextActions other
  · intro first second kept other left right leftOpen rightOpen session
    by_cases same : first = id
    · by_cases equal : second = id
      · rw [same, equal]
      · rw [same, Archive.store_self] at left
        rw [Archive.store_of_ne archive equal] at right
        cases left
        exact absurd session.symm (single second other equal right rightOpen)
    · rw [Archive.store_of_ne archive same] at left
      by_cases equal : second = id
      · rw [equal, Archive.store_self] at right
        cases right
        exact absurd session (single first kept same left leftOpen)
      · rw [Archive.store_of_ne archive equal] at right
        exact represents.alone first second kept other left right leftOpen
          rightOpen session

/-- Deleting removes notifications with all that belongs to them. -/
theorem delete (represents : Represents lookups archive tables)
    (predicate : NotificationTable → Nat → Row → Bool) :
    Represents lookups
      (archive.without fun id => tables.notifications[id]?.any
        (predicate tables.notifications id))
      (tables.deleted predicate) := by
  have kept (id : Nat) : (tables.deleted predicate).notifications[id]? =
      tables.notifications[id]?.filter
        fun row => !predicate tables.notifications id row :=
    ExtTreeMap.getElem?_filter'
  constructor
  · intro id value found
    obtain ⟨stays, found⟩ := Archive.without_eq_some found
    obtain ⟨row, listed, holds⟩ := represents.rows id value found
    rw [listed, Option.any_some] at stays
    refine ⟨row, ?_, holds⟩
    rw [kept, listed]
    simp [stays]
  · intro id missing
    rw [kept]
    unfold Archive.without at missing
    split at missing
    · rename_i gone
      cases listed : tables.notifications[id]? with
      | none => rfl
      | some row =>
          simp only [listed, Option.any_some] at gone
          simp [gone]
    · rw [represents.absent id missing]
      rfl
  · intro id value found
    exact represents.fits id value (Archive.without_eq_some found).2
  · intro id
    have filtered : (tables.deleted predicate).previews[id]? =
        tables.previews[id]?.filter fun _ =>
          !tables.notifications[id]?.any (predicate tables.notifications id) :=
      ExtTreeMap.getElem?_filter'
    rw [filtered, represents.previews, Archive.without]
    split <;> rename_i gone
    · cases archive id <;> simp [gone]
    · cases archive id <;> simp [gone]
  · intro id
    have removed := ChildRow.ofOwner_remove tables.actions
      (fun id => tables.notifications[id]?.any
        (predicate tables.notifications id)) id
    refine removed.trans ?_
    unfold Archive.actions Archive.without
    split <;> rename_i gone
    · rfl
    · exact represents.actions id
  · intro id
    have removed := ChildRow.ofOwner_remove tables.contextActions
      (fun id => tables.notifications[id]?.any
        (predicate tables.notifications id)) id
    refine removed.trans ?_
    unfold Archive.contextActions Archive.without
    split <;> rename_i gone
    · rfl
    · exact represents.contextActions id
  · intro first second value other left right
    exact represents.alone first second value other
      (Archive.without_eq_some left).2 (Archive.without_eq_some right).2

/-- Closing keeps all but the time and the reason. -/
theorem close (represents : Represents lookups archive tables)
    {session : Option Nat} {closed reason : Nat}
    (checked : ∀ (id : Nat) (row : Row), tables.notifications[id]? =
        some row → closes session row = true →
      closeChecks.all (passes (closedRow closed reason row)) = true) :
    Represents lookups (archive.close session closed reason)
      { tables with
        notifications := tables.notifications.map fun _ row =>
          if closes session row then closedRow closed reason row
          else row } := by
  have mapped (id : Nat) : (tables.notifications.map fun _ row =>
      if closes session row then closedRow closed reason row
      else row)[id]? = tables.notifications[id]?.map fun row =>
        if closes session row then closedRow closed reason row else row :=
    ExtTreeMap.getElem?_map
  constructor
  · intro id value found
    obtain ⟨kept, present, rfl⟩ := Option.map_eq_some_iff.mp found
    obtain ⟨row, listed, holds⟩ := represents.rows id kept present
    refine ⟨if closes session row then closedRow closed reason row else row,
      (mapped id).trans (congrArg _ listed), ?_⟩
    have both := holds.closes_eq session
    unfold KeptNotification.close
    by_cases closing : closes session row = true
    · rw [if_pos closing, if_pos (both.mp closing)]
      exact holds.close (checked id row listed closing)
    · rw [if_neg closing, if_neg fun meets => closing (both.mpr meets)]
      exact holds
  · intro id missing
    have absent := represents.absent id (Option.map_eq_none_iff.mp missing)
    exact (mapped id).trans (congrArg _ absent)
  · intro id value found
    obtain ⟨kept, present, rfl⟩ := Option.map_eq_some_iff.mp found
    exact represents.fits id kept present
  · intro id
    refine (represents.previews id).trans ?_
    unfold Archive.close
    cases archive id with
    | none => rfl
    | some kept => simp [KeptNotification.previewRow,
        KeptNotification.close_item, KeptNotification.close_icons]
  · intro id
    rw [Archive.close_actions]
    exact represents.actions id
  · intro id
    rw [Archive.close_contextActions]
    exact represents.contextActions id
  · intro first second value other left right leftOpen rightOpen same
    obtain ⟨kept, earlier, rfl⟩ := Option.map_eq_some_iff.mp left
    obtain ⟨late, later, rfl⟩ := Option.map_eq_some_iff.mp right
    rw [KeptNotification.close_item, KeptNotification.close_item] at same
    exact represents.alone first second kept late earlier later
      (KeptNotification.open_of_close leftOpen)
      (KeptNotification.open_of_close rightOpen) same

end Represents

end BarDaemon.Notifications
