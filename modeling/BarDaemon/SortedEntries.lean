import Mathlib.Algebra.BigOperators.Group.List.Basic
import Mathlib.Algebra.Order.Group.Nat
import Mathlib.Data.List.Nodup
import Mathlib.Data.List.Perm.Subperm

/-!
# Sorted entries

Entries in the order of their keys, one for each key, and how one of them is
changed or made.
-/

namespace BarDaemon.SortedEntries

variable {Key Value Total : Type} [LinearOrder Key]

/-- Change the entry of a key, which may be absent. -/
def change (key : Key) (update : Option Value → Value) :
    List (Key × Value) → List (Key × Value)
  | [] => [(key, update none)]
  | (other, value) :: entries =>
      if key < other then (key, update none) :: (other, value) :: entries
      else if key = other then (key, update (some value)) :: entries
      else (other, value) :: change key update entries

def Sorted (entries : List (Key × Value)) : Prop :=
  entries.Pairwise fun earlier later => earlier.1 < later.1

variable {key : Key} {update : Option Value → Value}
  {entries : List (Key × Value)}

/-- What every entry has, the changed one too. -/
theorem forall_change {P : Key × Value → Prop}
    (each : ∀ entry ∈ entries, P entry) (made : P (key, update none))
    (changed : ∀ value, (key, value) ∈ entries → P (key, update (some value))) :
    ∀ entry ∈ change key update entries, P entry := by
  induction entries with
  | nil =>
      intro entry among
      rw [List.mem_singleton.mp among]
      exact made
  | cons first entries ih =>
      obtain ⟨other, value⟩ := first
      obtain ⟨here, rest⟩ := List.forall_mem_cons.mp each
      rw [change]
      split_ifs with before same
      · exact List.forall_mem_cons.mpr ⟨made, each⟩
      · subst same
        exact List.forall_mem_cons.mpr ⟨changed value List.mem_cons_self, rest⟩
      · exact List.forall_mem_cons.mpr ⟨here, ih rest fun value among =>
          changed value (List.mem_cons_of_mem _ among)⟩

theorem sorted_change (sorted : Sorted entries) :
    Sorted (change key update entries) := by
  induction entries with
  | nil => exact List.pairwise_singleton _ _
  | cons first entries ih =>
      obtain ⟨other, value⟩ := first
      obtain ⟨after, rest⟩ := List.pairwise_cons.mp sorted
      rw [change]
      split_ifs with before same
      · apply List.pairwise_cons.mpr ⟨?_, sorted⟩
        exact List.forall_mem_cons.mpr ⟨before, fun entry among =>
          before.trans (after entry among)⟩
      · subst same
        exact List.pairwise_cons.mpr ⟨after, rest⟩
      · have later : other < key :=
          lt_of_le_of_ne (not_lt.mp before) fun equal => same equal.symm
        apply List.pairwise_cons.mpr ⟨?_, ih rest⟩
        exact forall_change after later fun _ _ => later

theorem mem_keys_change {other : Key} :
    other ∈ (change key update entries).map Prod.fst ↔
      other = key ∨ other ∈ entries.map Prod.fst := by
  induction entries with
  | nil => simp [change]
  | cons first entries ih =>
      rw [change]
      split_ifs with less same
      · rw [List.map_cons, List.mem_cons]
      · rw [List.map_cons, List.map_cons, List.mem_cons, List.mem_cons, same]
        tauto
      · rw [List.map_cons, List.map_cons, List.mem_cons, List.mem_cons, ih]
        tauto

/-- An entry after a change is an old one, or it is the one that was changed or
made. -/
theorem of_mem_change (sorted : Sorted entries) {entry : Key × Value}
    (among : entry ∈ change key update entries) :
    entry.1 ≠ key ∧ entry ∈ entries ∨
      (∃ value, (key, value) ∈ entries ∧ entry = (key, update (some value))) ∨
      key ∉ entries.map Prod.fst ∧ entry = (key, update none) := by
  induction entries with
  | nil =>
      rw [change, List.mem_singleton] at among
      exact .inr (.inr ⟨List.not_mem_nil, among⟩)
  | cons first entries ih =>
      obtain ⟨other, value⟩ := first
      obtain ⟨after, rest⟩ := List.pairwise_cons.mp sorted
      rw [change] at among
      split_ifs at among with less same
      · have absent : key ∉ ((other, value) :: entries).map Prod.fst := by
          intro present
          obtain ⟨found, listed, equal⟩ := List.mem_map.mp present
          rcases List.mem_cons.mp listed with rfl | later
          · exact less.ne equal.symm
          · exact (less.trans (after found later)).ne equal.symm
        rcases List.mem_cons.mp among with rfl | old
        · exact .inr (.inr ⟨absent, rfl⟩)
        · refine .inl ⟨fun equal => absent ?_, old⟩
          exact equal ▸ List.mem_map_of_mem old
      · subst same
        rcases List.mem_cons.mp among with rfl | old
        · exact .inr (.inl ⟨value, List.mem_cons_self, rfl⟩)
        · exact .inl ⟨(after entry old).ne', List.mem_cons_of_mem _ old⟩
      · rcases List.mem_cons.mp among with rfl | old
        · exact .inl ⟨fun equal => same equal.symm, List.mem_cons_self⟩
        · rcases ih rest old with ⟨different, kept⟩ | ⟨value, found, rfl⟩ |
            ⟨absent, rfl⟩
          · exact .inl ⟨different, List.mem_cons_of_mem _ kept⟩
          · exact .inr (.inl ⟨value, List.mem_cons_of_mem _ found, rfl⟩)
          · refine .inr (.inr ⟨?_, rfl⟩)
            rw [List.map_cons, List.mem_cons, not_or]
            exact ⟨same, absent⟩

/-- Sorted keys are listed in one way. -/
theorem keys_eq {first second : List (Key × Value)} (left : Sorted first)
    (right : Sorted second)
    (same : ∀ key, key ∈ first.map Prod.fst ↔ key ∈ second.map Prod.fst) :
    first.map Prod.fst = second.map Prod.fst := by
  have leftKeys := List.pairwise_map.mpr left
  have rightKeys := List.pairwise_map.mpr right
  apply List.Perm.eq_of_pairwise _ leftKeys rightKeys
  · exact (List.perm_ext_iff_of_nodup (leftKeys.imp fun before => before.ne)
      (rightKeys.imp fun before => before.ne)).mpr same
  · exact fun _ _ _ _ before after => (before.asymm after).elim

/-- A change adds the same to a total, whether or not the entry was there. -/
theorem sum_change [AddCommMonoid Total] {measure : Value → Total}
    {amount : Total} (made : measure (update none) = amount)
    (changed : ∀ value, (key, value) ∈ entries →
      measure (update (some value)) = measure value + amount) :
    ((change key update entries).map fun entry => measure entry.2).sum =
      (entries.map fun entry => measure entry.2).sum + amount := by
  induction entries with
  | nil => simp [change, made]
  | cons first entries ih =>
      obtain ⟨other, value⟩ := first
      rw [change]
      split_ifs with before same
      · simp only [List.map_cons, List.sum_cons, made]
        exact add_comm _ _
      · subst same
        simp only [List.map_cons, List.sum_cons, changed value List.mem_cons_self]
        exact add_right_comm _ _ _
      · have rest := ih fun value among =>
          changed value (List.mem_cons_of_mem _ among)
        simp only [List.map_cons, List.sum_cons, rest, add_assoc]

/-- Natural keys below a bound are no more than the bound. -/
theorem length_le {entries : List (Nat × Value)} {bound : Nat}
    (sorted : Sorted entries) (below : ∀ entry ∈ entries, entry.1 < bound) :
    entries.length ≤ bound := by
  have keys : (entries.map Prod.fst).Nodup :=
    List.pairwise_map.mpr (sorted.imp fun before => before.ne)
  have within : entries.map Prod.fst ⊆ List.range bound := by
    intro key among
    obtain ⟨entry, found, rfl⟩ := List.mem_map.mp among
    exact List.mem_range.mpr (below entry found)
  have count := (keys.subperm within).length_le
  rwa [List.length_map, List.length_range] at count

end BarDaemon.SortedEntries
