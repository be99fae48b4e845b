import BarDaemon.FallibleSteps
import Mathlib.Data.List.Sort

/-!
# Importing tables

Rows that are taken into a table one after the other, each of them checked on
its own and against those that are there, and the order in which a table is
written out.
-/

namespace BarDaemon.TableImports

open FallibleSteps

/-! ## Insertion -/

section Insertion

variable {Row : Type} (accept : Row → Except String Unit)
  (clashes : Row → Row → Bool)

def insertAll (table : List Row) : List Row → Except String (List Row)
  | [] => .ok table
  | row :: rows => do
      accept row
      ensure (!table.any (clashes · row)) "UNIQUE constraint failed"
      insertAll (table ++ [row]) rows

/-- No row clashes with one before it. -/
def Apart (rows : List Row) : Prop :=
  rows.Pairwise fun first second => clashes first second = false

variable {accept clashes}

/-- The rows are taken as they are, or none of them is. -/
theorem insertAll_eq_ok_iff {table rows result : List Row} :
    insertAll accept clashes table rows = .ok result ↔
      result = table ++ rows ∧ (∀ row ∈ rows, accept row = .ok ()) ∧
        Apart clashes rows ∧
        ∀ row ∈ rows, ∀ present ∈ table, clashes present row = false := by
  induction rows generalizing table with
  | nil =>
      simp only [insertAll, List.append_nil, Except.ok.injEq]
      constructor
      · rintro rfl
        exact ⟨rfl, by simp, List.Pairwise.nil, by simp⟩
      · rintro ⟨rfl, _⟩
        rfl
  | cons row rows ih =>
      simp only [insertAll, bind_eq_ok_iff, ensure_eq_ok_iff, ih,
        Bool.not_eq_true', List.any_eq_false, Bool.not_eq_true]
      constructor
      · rintro ⟨_, accepted, _, free, rfl, others, apart, clear⟩
        refine ⟨by simp, ?_, ?_, ?_⟩
        · exact List.forall_mem_cons.mpr ⟨accepted, others⟩
        · apply List.pairwise_cons.mpr ⟨?_, apart⟩
          exact fun other among => clear other among row (by simp)
        · intro other among present member
          rcases List.mem_cons.mp among with rfl | among
          · exact free present member
          · exact clear other among present (by simp [member])
      · rintro ⟨rfl, accepted, apart, clear⟩
        obtain ⟨first, others⟩ := List.forall_mem_cons.mp accepted
        obtain ⟨before, rest⟩ := List.pairwise_cons.mp apart
        refine ⟨(), first, (), clear row (by simp), by simp, others, rest, ?_⟩
        intro other among present member
        rcases List.mem_append.mp member with stored | last
        · exact clear other (by simp [among]) present stored
        · obtain rfl := List.mem_singleton.mp last
          exact before other among

/-- An empty table takes rows that are accepted and apart. -/
theorem insertAll_nil {rows : List Row}
    (accepted : ∀ row ∈ rows, accept row = .ok ())
    (apart : Apart clashes rows) :
    insertAll accept clashes [] rows = .ok rows :=
  insertAll_eq_ok_iff.mpr ⟨rfl, accepted, apart, by simp⟩

/-- Which rows clash does not depend on their order. -/
theorem Apart.perm (symmetric : ∀ first second,
      clashes first second = clashes second first)
    {rows others : List Row} (apart : Apart clashes rows)
    (same : others.Perm rows) : Apart clashes others := by
  apply (List.Perm.pairwise_iff ?_ same).mpr apart
  intro first second free
  rw [symmetric]
  exact free

/-- Rows with a key of their own. -/
theorem apart_of_nodup {Key : Type} [DecidableEq Key] {key : Row → Key}
    {rows : List Row} (distinct : (rows.map key).Nodup) :
    Apart (fun first second => key first == key second) rows := by
  apply (List.pairwise_map.mp distinct).imp
  intro first second different
  simpa using different

end Insertion

/-! ## Rows by their keys -/

section Keys

variable {Row Key : Type} [DecidableEq Key] {key : Row → Key}

theorem find?_key_eq_some_iff {rows : List Row}
    (distinct : (rows.map key).Nodup) {wanted : Key} {row : Row} :
    rows.find? (fun row => key row == wanted) = some row ↔
      row ∈ rows ∧ key row = wanted := by
  constructor
  · intro found
    have matched := List.find?_some found
    exact ⟨List.mem_of_find?_eq_some found, beq_iff_eq.mp matched⟩
  · rintro ⟨present, rfl⟩
    cases found : rows.find? (fun other => key other == key row) with
    | none =>
        have absent := List.find?_eq_none.mp found row present
        simp at absent
    | some other =>
        have matched := List.find?_some found
        rw [List.inj_on_of_nodup_map distinct
          (List.mem_of_find?_eq_some found) present (beq_iff_eq.mp matched)]

/-- The row of a key does not depend on the order of the rows. -/
theorem find?_key_perm {rows others : List Row}
    (distinct : (rows.map key).Nodup) (same : others.Perm rows)
    (wanted : Key) :
    others.find? (fun row => key row == wanted) =
      rows.find? fun row => key row == wanted := by
  have others_distinct : (others.map key).Nodup :=
    (same.map key).nodup_iff.mpr distinct
  ext row
  rw [find?_key_eq_some_iff distinct, find?_key_eq_some_iff others_distinct,
    same.mem_iff]

theorem lookup_eq_find? {Value : Type} (entries : List (Key × Value))
    (wanted : Key) :
    entries.lookup wanted =
      (entries.find? fun entry => entry.1 == wanted).map Prod.snd := by
  induction entries with
  | nil => rfl
  | cons entry entries ih =>
      obtain ⟨other, value⟩ := entry
      by_cases same : wanted = other
      · simp [same]
      · have differ : (wanted == other) = false := beq_false_of_ne same
        simp [List.lookup_cons, ih, differ, Ne.symm same]

end Keys

/-! ## The order of a table -/

section Order

variable {Row Key : Type} [LinearOrder Key] (key : Row → Key)

/-- `ORDER BY` -/
def byKey (rows : List Row) : List Row :=
  rows.insertionSort fun first second => key first ≤ key second

theorem byKey_perm (rows : List Row) : (byKey key rows).Perm rows :=
  List.perm_insertionSort _ _

variable {key}

@[simp]
theorem mem_byKey {row : Row} {rows : List Row} :
    row ∈ byKey key rows ↔ row ∈ rows :=
  (byKey_perm key rows).mem_iff

@[simp]
theorem length_byKey (rows : List Row) :
    (byKey key rows).length = rows.length :=
  (byKey_perm key rows).length_eq

theorem sorted_byKey (rows : List Row) :
    (byKey key rows).Pairwise fun first second => key first ≤ key second := by
  have total : Std.Total fun first second : Row => key first ≤ key second :=
    ⟨fun first second => le_total (key first) (key second)⟩
  have transitive : IsTrans Row fun first second => key first ≤ key second :=
    ⟨fun _ _ _ => le_trans⟩
  exact List.pairwise_insertionSort _ rows

/-- Where the keys are distinct, the order of the rows is forgotten. -/
theorem byKey_eq_of_perm {rows others : List Row}
    (distinct : (rows.map key).Nodup) (same : others.Perm rows) :
    byKey key others = byKey key rows := by
  have perm : (byKey key others).Perm (byKey key rows) :=
    (byKey_perm key others).trans (same.trans (byKey_perm key rows).symm)
  apply perm.eq_of_pairwise _ (sorted_byKey others) (sorted_byKey rows)
  intro first second among other below above
  have key_eq := le_antisymm below above
  have stored : first ∈ rows := same.mem_iff.mp (mem_byKey.mp among)
  exact List.inj_on_of_nodup_map distinct stored (mem_byKey.mp other) key_eq

theorem byKey_byKey {rows : List Row} (distinct : (rows.map key).Nodup) :
    byKey key (byKey key rows) = byKey key rows :=
  byKey_eq_of_perm distinct (byKey_perm key rows)

end Order

end BarDaemon.TableImports
