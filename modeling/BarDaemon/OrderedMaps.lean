import Mathlib.Data.List.Nodup
import Std.Data.ExtTreeMap.Lemmas
import Std.Data.DTreeMap.Internal.WF.Lemmas

/-!
# Values of ordered maps

Membership in the list of values, and how the list follows pointwise changes
of the map.
-/

namespace BarDaemon.OrderedMaps

open Std

variable {Key : Type} {Value Other : Type} [Ord Key] [TransOrd Key]
  [LawfulEqOrd Key]

omit [LawfulEqOrd Key] in
theorem values_eq_map_toList (entries : ExtTreeMap Key Value) :
    entries.values = entries.toList.map Prod.snd := by
  obtain ⟨⟨quotient⟩⟩ := entries
  induction quotient using Quotient.ind with
  | _ tree =>
      have listed : tree.inner.values =
          (DTreeMap.Internal.Impl.Const.toList tree.inner).map Prod.snd := by
        rw [DTreeMap.Internal.Impl.values_eq_map_snd,
          DTreeMap.Internal.Impl.Const.toList_eq_toListModel_map,
          List.map_map]
        rfl
      exact listed

theorem mem_values_iff {entries : ExtTreeMap Key Value} {value : Value} :
    value ∈ entries.values ↔ ∃ key : Key, entries[key]? = some value := by
  rw [values_eq_map_toList, List.mem_map]
  constructor
  · rintro ⟨⟨key, found⟩, member, rfl⟩
    exact ⟨key, ExtTreeMap.mem_toList_iff_getElem?_eq_some.mp member⟩
  · rintro ⟨key, found⟩
    exact ⟨(key, value),
      ExtTreeMap.mem_toList_iff_getElem?_eq_some.mpr found, rfl⟩

omit [LawfulEqOrd Key] in
theorem length_values (entries : ExtTreeMap Key Value) :
    entries.values.length = entries.size := by
  rw [values_eq_map_toList, List.length_map, ExtTreeMap.length_toList]

omit [LawfulEqOrd Key] in
theorem values_map (change : Key → Value → Other)
    (entries : ExtTreeMap Key Value) :
    (entries.map change).values =
      entries.toList.map fun entry => change entry.1 entry.2 := by
  rw [values_eq_map_toList, ExtTreeMap.toList_map, List.map_map]
  rfl

/-- A change that touches no entry changes nothing. -/
theorem map_eq_self {change : Key → Value → Value}
    {entries : ExtTreeMap Key Value}
    (unchanged : ∀ key value, entries[key]? = some value →
      change key value = value) :
    entries.map change = entries := by
  apply ExtTreeMap.ext_getElem?
  intro key
  rw [ExtTreeMap.getElem?_map]
  cases found : entries[key]? with
  | none => rfl
  | some value => rw [Option.map_some, unchanged key value found]

omit [LawfulEqOrd Key] in
theorem contains_eq_isSome {entries : ExtTreeMap Key Value} {key : Key} :
    entries.contains key = entries[key]?.isSome := by
  rw [ExtTreeMap.isSome_getElem?_eq_contains]

theorem size_erase_of_contains {entries : ExtTreeMap Key Value} {key : Key}
    (present : entries.contains key = true) :
    (entries.erase key).size + 1 = entries.size := by
  have nonempty : entries.size ≠ 0 := by
    intro empty
    have values := length_values entries
    rw [contains_eq_isSome] at present
    obtain ⟨value, found⟩ := Option.isSome_iff_exists.mp present
    have member := mem_values_iff.mpr ⟨key, found⟩
    rw [empty, List.length_eq_zero_iff] at values
    rw [values] at member
    cases member
  rw [ExtTreeMap.size_erase, if_pos present]
  omega

theorem nodup_keys (entries : ExtTreeMap Key Value) :
    entries.keys.Nodup :=
  entries.distinct_keys.imp fun different equal => different (by simp [equal])

theorem getElem?_insert [DecidableEq Key] (entries : ExtTreeMap Key Value)
    (key other : Key) (value : Value) :
    (entries.insert key value)[other]? =
      if key = other then some value else entries[other]? := by
  rw [ExtTreeMap.getElem?_insert]
  simp only [LawfulEqOrd.compare_eq_iff_eq]

theorem getElem?_erase [DecidableEq Key] (entries : ExtTreeMap Key Value)
    (key other : Key) :
    (entries.erase key)[other]? =
      if key = other then none else entries[other]? := by
  rw [ExtTreeMap.getElem?_erase]
  simp only [LawfulEqOrd.compare_eq_iff_eq]

/-- Modifying one entry is a pointwise change. -/
theorem getElem?_modify [DecidableEq Key] (entries : ExtTreeMap Key Value)
    (key other : Key) (update : Value → Value) :
    (entries.modify key update)[other]? =
      entries[other]?.map fun value =>
        if key = other then update value else value := by
  rw [ExtTreeMap.getElem?_modify]
  by_cases same : key = other
  · subst same
    simp
  · have different : ¬ compare key other = .eq := by
      rwa [LawfulEqOrd.compare_eq_iff_eq]
    rw [if_neg different]
    simp [same]

end BarDaemon.OrderedMaps
