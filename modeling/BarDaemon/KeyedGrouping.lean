import Mathlib.Data.List.Induction
import Mathlib.Data.List.Nodup
import Mathlib.Data.List.Perm.Subperm

/-!
# Grouping a stream into a bounded number of keyed groups

Elements arrive one at a time.  An element joins the group of its key if that
group exists, starts a new group if its bucket still has room, and is dropped
otherwise.  Starting from nothing, one bucket ends with the first `limit`
distinct keys of the stream, in order of first appearance, each with all of its
elements in stream order.
-/

namespace BarDaemon.KeyedGrouping

variable {Element Key Bucket : Type*} [DecidableEq Key] [DecidableEq Bucket]

/-- A key with the elements collected under it. -/
abbrev Group (Key Element : Type*) := Key × List Element

/-- Append an element to the first group of its key, if there is one. -/
def join (key : Key) (element : Element) :
    List (Group Key Element) → Option (List (Group Key Element))
  | [] => none
  | group :: groups =>
      if group.1 = key then
        some ((group.1, group.2 ++ [element]) :: groups)
      else
        (join key element groups).map (group :: ·)

/-- The groups of one bucket. -/
def within (bucketOf : Key → Bucket) (bucket : Bucket)
    (groups : List (Group Key Element)) : List (Group Key Element) :=
  groups.filter fun group => bucketOf group.1 = bucket

variable (keyOf : Element → Key) (bucketOf : Key → Bucket) (limit : Nat)

/-- Place one element. -/
def place (groups : List (Group Key Element)) (element : Element) :
    List (Group Key Element) :=
  match join (keyOf element) element groups with
  | some joined => joined
  | none =>
      if (within bucketOf (bucketOf (keyOf element)) groups).length < limit then
        groups ++ [(keyOf element, [element])]
      else
        groups

def placeAll (groups : List (Group Key Element)) (elements : List Element) :
    List (Group Key Element) :=
  elements.foldl (place keyOf bucketOf limit) groups

/-- All collected elements, group by group. -/
def members (groups : List (Group Key Element)) : List Element :=
  groups.flatMap Prod.snd

section Joining

variable {keyOf bucketOf limit}

omit [DecidableEq Key] in
theorem within_within (bucket : Bucket) (groups : List (Group Key Element)) :
    within bucketOf bucket (within bucketOf bucket groups) =
      within bucketOf bucket groups := by
  simp [within]

omit [DecidableEq Bucket] in
theorem join_eq_none_iff {key : Key} {element : Element}
    {groups : List (Group Key Element)} :
    join key element groups = none ↔ key ∉ groups.map Prod.fst := by
  induction groups with
  | nil => simp [join]
  | cons group groups ih =>
      by_cases same : group.1 = key
      · simp [join, same]
      · simp [join, same, ih, Ne.symm same]

omit [DecidableEq Bucket] in
theorem join_keys {key : Key} {element : Element}
    {groups joined : List (Group Key Element)}
    (joins : join key element groups = some joined) :
    joined.map Prod.fst = groups.map Prod.fst := by
  induction groups generalizing joined with
  | nil => simp [join] at joins
  | cons group groups ih =>
      by_cases same : group.1 = key
      · simp only [join, same, if_true, Option.some.injEq] at joins
        simp [← joins, same]
      · simp only [join, same, if_false, Option.map_eq_some_iff] at joins
        obtain ⟨rest, restJoins, rfl⟩ := joins
        simp [ih restJoins]

omit [DecidableEq Bucket] in
theorem join_members_perm {key : Key} {element : Element}
    {groups joined : List (Group Key Element)}
    (joins : join key element groups = some joined) :
    (members joined).Perm (members groups ++ [element]) := by
  induction groups generalizing joined with
  | nil => simp [join] at joins
  | cons group groups ih =>
      by_cases same : group.1 = key
      · simp only [join, same, if_true, Option.some.injEq] at joins
        subst joined
        simp only [members, List.flatMap_cons, List.append_assoc]
        exact List.Perm.append_left _ List.perm_append_comm
      · simp only [join, same, if_false, Option.map_eq_some_iff] at joins
        obtain ⟨rest, restJoins, rfl⟩ := joins
        simpa only [members, List.flatMap_cons, List.append_assoc] using
          List.Perm.append_left group.2 (ih restJoins)

theorem within_join_same {key : Key} {element : Element}
    {groups joined : List (Group Key Element)}
    (joins : join key element groups = some joined) :
    join key element (within bucketOf (bucketOf key) groups) =
      some (within bucketOf (bucketOf key) joined) := by
  induction groups generalizing joined with
  | nil => simp [join] at joins
  | cons group groups ih =>
      by_cases same : group.1 = key
      · simp only [join, same, if_true, Option.some.injEq] at joins
        subst joined
        simp [within, join, same]
      · simp only [join, same, if_false, Option.map_eq_some_iff] at joins
        obtain ⟨rest, restJoins, rfl⟩ := joins
        have tail := ih restJoins
        by_cases inside : bucketOf group.1 = bucketOf key
        · simp only [within, List.filter_cons, inside, decide_true, if_true,
            join, same, if_false] at tail ⊢
          rw [tail]
          rfl
        · simpa only [within, List.filter_cons, inside, decide_false,
            Bool.false_eq_true, if_false] using tail

theorem within_join_other {bucket : Bucket} {key : Key} {element : Element}
    {groups joined : List (Group Key Element)}
    (outside : bucketOf key ≠ bucket)
    (joins : join key element groups = some joined) :
    within bucketOf bucket joined = within bucketOf bucket groups := by
  induction groups generalizing joined with
  | nil => simp [join] at joins
  | cons group groups ih =>
      by_cases same : group.1 = key
      · simp only [join, same, if_true, Option.some.injEq] at joins
        subst joined
        simp [within, same, outside]
      · simp only [join, same, if_false, Option.map_eq_some_iff] at joins
        obtain ⟨rest, restJoins, rfl⟩ := joins
        have tail := ih restJoins
        simp only [within, List.filter_cons] at tail ⊢
        rw [tail]

end Joining

section Placing

theorem within_place_same (groups : List (Group Key Element))
    (element : Element) :
    within bucketOf (bucketOf (keyOf element))
        (place keyOf bucketOf limit groups element) =
      place keyOf bucketOf limit
        (within bucketOf (bucketOf (keyOf element)) groups) element := by
  unfold place
  cases joins : join (keyOf element) element groups with
  | some joined => rw [within_join_same joins]
  | none =>
      have absent :
          join (keyOf element) element
            (within bucketOf (bucketOf (keyOf element)) groups) = none := by
        rw [join_eq_none_iff] at joins ⊢
        intro member
        obtain ⟨group, groupMember, keyEq⟩ := List.mem_map.mp member
        exact joins (List.mem_map.mpr
          ⟨group, (List.mem_filter.mp groupMember).1, keyEq⟩)
      rw [absent]
      simp only [within_within]
      split
      · simp [within]
      · rfl

theorem within_place_other {bucket : Bucket} {element : Element}
    (outside : bucketOf (keyOf element) ≠ bucket)
    (groups : List (Group Key Element)) :
    within bucketOf bucket (place keyOf bucketOf limit groups element) =
      within bucketOf bucket groups := by
  unfold place
  cases joins : join (keyOf element) element groups with
  | some joined => exact within_join_other outside joins
  | none =>
      simp only
      split
      · simp [within, outside]
      · rfl

/-- Buckets do not interfere: one bucket of the result is the grouping of the
elements that belong to it. -/
theorem within_placeAll (bucket : Bucket)
    (groups : List (Group Key Element)) (elements : List Element) :
    within bucketOf bucket
        (placeAll keyOf bucketOf limit groups elements) =
      placeAll keyOf bucketOf limit (within bucketOf bucket groups)
        (elements.filter fun element => bucketOf (keyOf element) = bucket) := by
  induction elements generalizing groups with
  | nil => rfl
  | cons element elements ih =>
      have rest := ih (place keyOf bucketOf limit groups element)
      simp only [placeAll, List.foldl_cons] at rest ⊢
      rw [rest]
      by_cases inside : bucketOf (keyOf element) = bucket
      · subst bucket
        rw [within_place_same]
        simp
      · rw [within_place_other keyOf bucketOf limit inside]
        simp [inside]

theorem place_keys_nodup {groups : List (Group Key Element)}
    (nodup : (groups.map Prod.fst).Nodup) (element : Element) :
    ((place keyOf bucketOf limit groups element).map Prod.fst).Nodup := by
  unfold place
  cases joins : join (keyOf element) element groups with
  | some joined => simpa only [join_keys joins] using nodup
  | none =>
      simp only
      split
      · simp only [List.map_append, List.map_cons, List.map_nil]
        exact List.nodup_append.mpr ⟨nodup, List.nodup_singleton _, by
          intro key member other otherMember equal
          rw [List.mem_singleton.mp otherMember] at equal
          exact join_eq_none_iff.mp joins (equal ▸ member)⟩
      · exact nodup

theorem placeAll_keys_nodup (groups : List (Group Key Element))
    (nodup : (groups.map Prod.fst).Nodup) (elements : List Element) :
    ((placeAll keyOf bucketOf limit groups elements).map Prod.fst).Nodup := by
  induction elements generalizing groups with
  | nil => exact nodup
  | cons element elements ih =>
      exact ih _ (place_keys_nodup keyOf bucketOf limit nodup element)

theorem within_place_length_le {groups : List (Group Key Element)}
    {bucket : Bucket}
    (bounded : (within bucketOf bucket groups).length ≤ limit)
    (element : Element) :
    (within bucketOf bucket
      (place keyOf bucketOf limit groups element)).length ≤ limit := by
  by_cases inside : bucketOf (keyOf element) = bucket
  · subst bucket
    rw [within_place_same]
    unfold place
    cases joins : join (keyOf element) element
        (within bucketOf (bucketOf (keyOf element)) groups) with
    | some joined =>
        have sameLength := congrArg List.length (join_keys joins)
        simp only [List.length_map] at sameLength
        simpa only [sameLength] using bounded
    | none =>
        simp only
        split
        · rename_i room
          rw [within_within] at room
          simp only [List.length_append, List.length_singleton]
          exact room
        · exact bounded
  · rw [within_place_other keyOf bucketOf limit inside]
    exact bounded

/-- No bucket ever exceeds the limit. -/
theorem within_placeAll_length_le (groups : List (Group Key Element))
    (bucket : Bucket)
    (bounded : (within bucketOf bucket groups).length ≤ limit)
    (elements : List Element) :
    (within bucketOf bucket
      (placeAll keyOf bucketOf limit groups elements)).length ≤ limit := by
  induction elements generalizing groups with
  | nil => exact bounded
  | cons element elements ih =>
      exact ih _ (within_place_length_le keyOf bucketOf limit bounded element)

theorem place_members_subperm (groups : List (Group Key Element))
    (element : Element) :
    (members (place keyOf bucketOf limit groups element)).Subperm
      (members groups ++ [element]) := by
  unfold place
  cases joins : join (keyOf element) element groups with
  | some joined => exact (join_members_perm joins).subperm
  | none =>
      simp only
      split
      · simp [members, List.Subperm.refl]
      · exact (List.sublist_append_left _ _).subperm

/-- Every element is collected at most once. -/
theorem placeAll_members_subperm (groups : List (Group Key Element))
    (elements : List Element) :
    (members (placeAll keyOf bucketOf limit groups elements)).Subperm
      (members groups ++ elements) := by
  induction elements generalizing groups with
  | nil => simp [placeAll, List.Subperm.refl]
  | cons element elements ih =>
      have rest := ih (place keyOf bucketOf limit groups element)
      have first := place_members_subperm keyOf bucketOf limit groups element
      have extended :=
        (List.subperm_append_right elements).mpr first
      simp only [List.append_assoc, List.singleton_append] at extended
      exact rest.trans extended

end Placing

section FirstOccurrences

omit [DecidableEq Bucket] in
theorem nodup_eraseDups (keys : List Key) : keys.eraseDups.Nodup := by
  induction length : keys.length using Nat.strongRecOn generalizing keys with
  | ind _ ih =>
      cases keys with
      | nil => simp
      | cons key keys =>
          rw [List.eraseDups_cons, List.nodup_cons]
          refine ⟨by simp, ih _ ?_ _ rfl⟩
          have shorter := List.length_filter_le (fun other => !other == key) keys
          simp only [List.length_cons] at length
          omega

omit [DecidableEq Bucket] in
theorem eraseDups_concat (keys : List Key) (key : Key) :
    (keys ++ [key]).eraseDups =
      if key ∈ keys then keys.eraseDups else keys.eraseDups ++ [key] := by
  rw [List.eraseDups_append]
  by_cases seen : key ∈ keys <;>
    simp [List.removeAll, List.eraseDups_cons, seen]

end FirstOccurrences

section OneBucket

/-- The groups a bucket should hold: the first keys of the stream with all of
their elements. -/
def leading (elements : List Element) : List (Group Key Element) :=
  ((elements.map keyOf).eraseDups.take limit).map fun key =>
    (key, elements.filter fun element => keyOf element = key)

omit [DecidableEq Bucket] in
theorem join_leading {elements : List Element} {element : Element}
    (present : keyOf element ∈
      (elements.map keyOf).eraseDups.take limit) :
    join (keyOf element) element (leading keyOf limit elements) =
      some (leading keyOf limit (elements ++ [element])) := by
  have keyMember : keyOf element ∈ elements.map keyOf :=
    List.mem_eraseDups.mp (List.mem_of_mem_take present)
  have sameKeys :
      ((elements ++ [element]).map keyOf).eraseDups =
        (elements.map keyOf).eraseDups := by
    rw [List.map_append, List.map_singleton, eraseDups_concat,
      if_pos keyMember]
  have joinKeys : ∀ keys : List Key, keys.Nodup → keyOf element ∈ keys →
      join (keyOf element) element
          (keys.map fun key =>
            (key, elements.filter fun other => keyOf other = key)) =
        some (keys.map fun key =>
          (key, (elements ++ [element]).filter fun other =>
            keyOf other = key)) := by
    intro keys nodup member
    induction keys with
    | nil => simp at member
    | cons key keys ih =>
        obtain ⟨fresh, nodup⟩ := List.nodup_cons.mp nodup
        by_cases same : key = keyOf element
        · subst key
          have others : ∀ key ∈ keys,
              (key, elements.filter fun other => keyOf other = key) =
                (key, (elements ++ [element]).filter fun other =>
                  keyOf other = key) := by
            intro key keyMember
            have different : keyOf element ≠ key :=
              fun equal => fresh (equal ▸ keyMember)
            simp [List.filter_append, different]
          simp only [List.map_cons, join, if_true]
          rw [List.map_congr_left others]
          simp [List.filter_append]
        · have rest := ih nodup
            ((List.mem_cons.mp member).resolve_left (Ne.symm same))
          simp only [List.map_cons, join, same, if_false, rest,
            Option.map_some]
          simp [List.filter_append, Ne.symm same]
  unfold leading
  rw [sameKeys]
  exact joinKeys _ ((nodup_eraseDups _).sublist
    (List.take_sublist _ _)) present

theorem place_leading {bucket : Bucket} {elements : List Element}
    {element : Element}
    (inside : ∀ other ∈ elements, bucketOf (keyOf other) = bucket)
    (elementInside : bucketOf (keyOf element) = bucket) :
    place keyOf bucketOf limit (leading keyOf limit elements) element =
      leading keyOf limit (elements ++ [element]) := by
  have leadingKeys : (leading keyOf limit elements).map Prod.fst =
      (elements.map keyOf).eraseDups.take limit := by
    simp [leading, Function.comp_def]
  by_cases present : keyOf element ∈
      (elements.map keyOf).eraseDups.take limit
  · simp only [place, join_leading keyOf limit present]
  · have absent : join (keyOf element) element
        (leading keyOf limit elements) = none := by
      rw [join_eq_none_iff, leadingKeys]
      exact present
    have wholeBucket :
        within bucketOf (bucketOf (keyOf element))
            (leading keyOf limit elements) =
          leading keyOf limit elements := by
      apply List.filter_eq_self.mpr
      intro group member
      have keyMember : group.1 ∈
          (elements.map keyOf).eraseDups.take limit :=
        leadingKeys ▸ List.mem_map_of_mem member
      obtain ⟨other, otherMember, keyEq⟩ := List.mem_map.mp
        (List.mem_eraseDups.mp (List.mem_of_mem_take keyMember))
      rw [← keyEq, inside other otherMember, elementInside]
      simp
    have leadingLength : (leading keyOf limit elements).length =
        min limit (elements.map keyOf).eraseDups.length := by
      simp [leading]
    -- Old groups do not change, because the new element belongs to none.
    have unchanged : ∀ keys : List Key, keyOf element ∉ keys →
        (keys.map fun key => (key, (elements ++ [element]).filter
            fun other => keyOf other = key)) =
          keys.map fun key => (key, elements.filter
            fun other => keyOf other = key) := by
      intro keys missing
      apply List.map_congr_left
      intro key member
      have different : keyOf element ≠ key :=
        fun equal => missing (equal ▸ member)
      simp [List.filter_append, different]
    simp only [place, absent, wholeBucket, leadingLength]
    by_cases seen : keyOf element ∈ elements.map keyOf
    · have full : ¬ min limit (elements.map keyOf).eraseDups.length <
          limit := by
        intro room
        apply present
        rw [List.take_of_length_le (by omega)]
        exact List.mem_eraseDups.mpr seen
      have sameKeys :
          ((elements ++ [element]).map keyOf).eraseDups =
            (elements.map keyOf).eraseDups := by
        rw [List.map_append, List.map_singleton, eraseDups_concat,
          if_pos seen]
      rw [if_neg full]
      unfold leading
      rw [sameKeys, unchanged _ present]
    · have newKeys :
          ((elements ++ [element]).map keyOf).eraseDups =
            (elements.map keyOf).eraseDups ++ [keyOf element] := by
        rw [List.map_append, List.map_singleton, eraseDups_concat,
          if_neg seen]
      have noElements : (elements.filter fun other =>
          keyOf other = keyOf element) = [] := by
        apply List.filter_eq_nil_iff.mpr
        intro other member
        have different : keyOf other ≠ keyOf element :=
          fun equal => seen (equal ▸ List.mem_map_of_mem member)
        simpa using different
      by_cases room : (elements.map keyOf).eraseDups.length < limit
      · rw [if_pos (by omega)]
        unfold leading
        rw [newKeys, List.take_of_length_le (Nat.le_of_lt room),
          List.take_of_length_le (by
            simp only [List.length_append, List.length_singleton]
            exact room),
          List.map_append,
          unchanged _ (fun member => seen (List.mem_eraseDups.mp member))]
        simp [List.filter_append, noElements]
      · rw [if_neg (by omega)]
        unfold leading
        rw [newKeys, List.take_append_of_le_length (by omega),
          unchanged _ present]

/-- From nothing, one bucket collects exactly the leading groups. -/
theorem placeAll_eq_leading (bucket : Bucket) {elements : List Element}
    (inside : ∀ element ∈ elements, bucketOf (keyOf element) = bucket) :
    placeAll keyOf bucketOf limit [] elements =
      leading keyOf limit elements := by
  induction elements using List.reverseRecOn with
  | nil => simp [placeAll, leading]
  | append_singleton elements element ih =>
      have before := ih fun other member =>
        inside other (List.mem_append_left _ member)
      have next := place_leading keyOf bucketOf limit
        (fun other member => inside other (List.mem_append_left _ member))
        (inside element (by simp))
      simp only [placeAll, List.foldl_append, List.foldl_cons,
        List.foldl_nil] at before ⊢
      rw [before, next]

end OneBucket

end BarDaemon.KeyedGrouping
