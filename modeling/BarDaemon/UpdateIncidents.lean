import BarDaemon.UpdateAnnouncements

/-!
# Passes and the incident ledger

A pass goes over the runs that are new to it in the order they started. A run
sets or closes some incidents, and the last run that does so decides.
-/

namespace BarDaemon.Updates

open Std

/-! ### What a run does to an incident -/

/-- The incident of the tool is closed. -/
def Component.closes (component : Component) : Bool :=
  decide (component.phase = "held" ∨ component.incident = none ∧
    component.phase ∈ ["current", "activated"])

/-- The run closes an incident, unless it sets it. -/
def Entry.closes (entry : Entry) (key : String) : Bool :=
  (entry.components.any fun component =>
    component.closes && "tool:" ++ component.name == key) ||
  decide ((incidentPairs entry).isEmpty = true ∧ entry.outcome ∈
      ["current", "activated", "staged", "ready", "approved"]) &&
    entry.lane ++ ":" ++ entry.operation == key

/-- The incident after the run, where the run changes it. -/
def Entry.effect (key : String) (entry : Entry) : Option (Option String) :=
  match (incidentPairs entry).reverse.find? (·.1 == key) with
  | some pair => some (some pair.2)
  | none => if entry.closes key then some none else none

section Effect

variable {incidents : ExtTreeMap String String} {key : String} {entry : Entry}

theorem getElem?_closeTools :
    (Delivery.closeTools incidents entry)[key]? =
      if entry.components.any fun component =>
          component.closes && "tool:" ++ component.name == key then none
      else incidents[key]? := by
  rw [Delivery.closeTools]
  induction entry.components generalizing incidents with
  | nil => rfl
  | cons component components ih =>
      rw [List.foldl_cons, ih, List.any_cons]
      by_cases closing : component.phase = "held" ∨ component.incident = none ∧
          component.phase ∈ ["current", "activated"]
      · have closes : component.closes = true := decide_eq_true closing
        rw [if_pos closing, OrderedMaps.getElem?_erase, closes, Bool.true_and]
        by_cases same : "tool:" ++ component.name = key
        · rw [if_pos same, ite_self, beq_iff_eq.mpr same, Bool.true_or, if_pos rfl]
        · rw [if_neg same, beq_false_of_ne same, Bool.false_or]
      · have stays : component.closes = false := decide_eq_false closing
        rw [if_neg closing, stays, Bool.false_and, Bool.false_or]

theorem getElem?_insertPairs (pairs : List (String × String)) :
    (pairs.foldl (fun incidents pair => incidents.insert pair.1 pair.2)
        incidents)[key]? =
      ((pairs.reverse.find? (·.1 == key)).map Prod.snd).or incidents[key]? := by
  induction pairs generalizing incidents with
  | nil => rfl
  | cons pair pairs ih =>
      rw [List.foldl_cons, ih, OrderedMaps.getElem?_insert, List.reverse_cons,
        List.find?_append, List.find?_singleton]
      by_cases same : pair.1 = key
      · rw [if_pos same, if_pos (beq_iff_eq.mpr same)]
        cases pairs.reverse.find? (·.1 == key) <;> rfl
      · rw [if_neg same, if_neg (mt beq_iff_eq.mp same), Option.or_none]

theorem getElem?_updateIncidents (ledger : Delivery) (entry : Entry) (key : String) :
    (ledger.updateIncidents entry).2.incidents[key]? =
      (entry.effect key).getD ledger.incidents[key]? := by
  rw [Delivery.updateIncidents]
  dsimp only
  rw [getElem?_insertPairs, Entry.effect]
  cases (incidentPairs entry).reverse.find? (·.1 == key) with
  | some pair => rfl
  | none =>
      rw [Option.map_none, Option.none_or, Entry.closes]
      by_cases settled : (incidentPairs entry).isEmpty = true ∧ entry.outcome ∈
          ["current", "activated", "staged", "ready", "approved"]
      · rw [if_pos settled, OrderedMaps.getElem?_erase, getElem?_closeTools,
          decide_eq_true settled, Bool.true_and]
        by_cases same : entry.lane ++ ":" ++ entry.operation = key
        · rw [if_pos same, beq_iff_eq.mpr same, Bool.or_true, if_pos rfl]
          rfl
        · rw [if_neg same, beq_false_of_ne same, Bool.or_false]
          split <;> rfl
      · rw [if_neg settled, getElem?_closeTools, decide_eq_false settled,
          Bool.false_and, Bool.or_false]
        split <;> rfl

end Effect

/-! ### A pass -/

/-- What the last run that changes an incident leaves. -/
def lastEffect (key : String) (runs : List Entry) : Option (Option String) :=
  runs.reverse.findSome? (Entry.effect key)

theorem lastEffect_append (key : String) (first second : List Entry) :
    lastEffect key (first ++ second) =
      (lastEffect key second).or (lastEffect key first) := by
  rw [lastEffect, List.reverse_append, List.findSome?_append]
  rfl

theorem lastEffect_cons (key : String) (entry : Entry) (runs : List Entry) :
    lastEffect key (entry :: runs) = (lastEffect key runs).or (entry.effect key) := by
  have whole := lastEffect_append key [entry] runs
  rw [List.singleton_append] at whole
  rw [whole, lastEffect, lastEffect, List.reverse_singleton, List.findSome?_singleton]

namespace Delivery

variable {start ledger : Delivery}

theorem incidents_foldl_visit {finished events : List Entry}
    (distinct : (finished.map Entry.id).Nodup) (key : String) :
    (finished.foldl start.visit (ledger, events)).1.incidents[key]? =
      (lastEffect key (finished.filter fun entry => entry.id ∉ ledger.seen)).getD
        ledger.incidents[key]? := by
  induction finished generalizing ledger events with
  | nil => rfl
  | cons entry finished ih =>
      obtain ⟨alone, rest⟩ := List.nodup_cons.mp distinct
      by_cases seen : entry.id ∈ ledger.seen
      · rw [List.foldl_cons, visit, if_pos seen, ih rest,
          List.filter_cons_of_neg (by simp [seen])]
      · have same : (finished.filter fun other => other.id ∉ (ledger.see entry).seen) =
            finished.filter fun other => other.id ∉ ledger.seen := by
          apply List.filter_congr
          intro other among
          have different : entry.id ≠ other.id := fun equal =>
            alone (equal ▸ List.mem_map_of_mem among)
          simp [mem_seen_see, different]
        rw [List.foldl_cons, visit, if_neg seen, ih rest, same,
          List.filter_cons_of_pos (by simp [seen]), lastEffect_cons]
        change (lastEffect key _).getD
          (ledger.updateIncidents entry).2.incidents[key]? = _
        rw [getElem?_updateIncidents]
        cases lastEffect key _ <;> rfl

end Delivery

/-! ### The order of a pass -/

theorem newer_iff {left right : Entry} :
    Catalog.newer left right = true ↔ right.startedAt < left.startedAt ∨
      left.startedAt = right.startedAt ∧ right.id ≤ left.id := by
  simp [Catalog.newer]

instance : Std.Total fun left right => Catalog.newer left right = true where
  total left right := by
    rw [newer_iff, newer_iff]
    rcases Nat.lt_trichotomy left.startedAt right.startedAt with less | same | more
    · exact .inr (.inl less)
    · rcases le_total right.id left.id with first | second
      · exact .inl (.inr ⟨same, first⟩)
      · exact .inr (.inr ⟨same.symm, second⟩)
    · exact .inl (.inl more)

instance : IsTrans Entry fun left right => Catalog.newer left right = true where
  trans first second third := by
    rw [newer_iff, newer_iff, newer_iff]
    rintro (less | ⟨same, before⟩) (later | ⟨equal, after⟩)
    · exact .inl (later.trans less)
    · exact .inl (equal ▸ less)
    · exact .inl (same ▸ later)
    · exact .inr ⟨same.trans equal, after.trans before⟩

/-- The order in which a pass goes over the runs. -/
def oldestFirst (runs : List Entry) : List Entry :=
  (runs.insertionSort (Catalog.newer · ·)).reverse

theorem perm_oldestFirst (runs : List Entry) : (oldestFirst runs).Perm runs :=
  (List.reverse_perm _).trans (List.perm_insertionSort _ _)

theorem retain_sublist (completed : Nat) (entries : List Entry) :
    (Catalog.retain completed entries).Sublist entries := by
  fun_induction Catalog.retain completed entries with
  | case1 => exact List.Sublist.refl _
  | case2 completed entry entries running ih => exact ih.cons_cons _
  | case3 completed entry entries finished fits ih => exact ih.cons_cons _
  | case4 completed entry entries finished many ih => exact ih.cons _

/-- The finished runs of a catalog are in that order. -/
theorem due_sorted (worker manual : Except String Catalog) :
    (Delivery.due (Catalog.load worker manual)).Pairwise
      fun left right => Catalog.newer right left = true := by
  rw [Delivery.due, Catalog.load, List.filter_reverse, List.pairwise_reverse]
  apply List.Pairwise.filter
  exact (List.pairwise_insertionSort _ _).sublist (retain_sublist 0 _)

/-- Runs in that order are ordered in one way. -/
theorem eq_oldestFirst {sorted runs : List Entry}
    (ordered : sorted.Pairwise fun left right => Catalog.newer right left = true)
    (same : sorted.Perm runs) (distinct : (runs.map Entry.id).Nodup) :
    sorted = oldestFirst runs := by
  apply List.Perm.eq_of_pairwise _ ordered _ (same.trans (perm_oldestFirst runs).symm)
  · intro left right first second after before
    rw [newer_iff] at after before
    have ids : left.id = right.id := by
      rcases after with less | ⟨_, low⟩
      · rcases before with more | ⟨equal, _⟩ <;> omega
      · rcases before with more | ⟨_, high⟩
        · omega
        · exact low.antisymm high
    exact List.inj_on_of_nodup_map distinct (same.mem_iff.mp first)
      ((perm_oldestFirst runs).mem_iff.mp second) ids
  · rw [oldestFirst, List.pairwise_reverse]
    exact List.pairwise_insertionSort _ _

/-! ### Passes -/

/-- The ledger after some passes. -/
def passes (ledger : Delivery) (catalogs : List Catalog) : Delivery :=
  catalogs.foldl (fun ledger catalog => (ledger.events catalog).2) ledger

/-- Each pass sees the runs that have finished so far, of which a group is new;
running runs may be in its catalog, and no run has left it. -/
def Reads (before : List Entry) : List Catalog → List (List Entry) → Prop
  | [], [] => True
  | catalog :: catalogs, group :: groups =>
      (∃ worker manual, catalog = Catalog.load worker manual) ∧
        (Delivery.due catalog).Perm (before ++ group) ∧
        Reads (before ++ group) catalogs groups
  | _, _ => False

section Pass

variable {ledger : Delivery} {catalog : Catalog} {before group : List Entry}

theorem due_unseen (loaded : ∃ worker manual, catalog = Catalog.load worker manual)
    (read : (Delivery.due catalog).Perm (before ++ group))
    (distinct : ((before ++ group).map Entry.id).Nodup)
    (known : ∀ entry ∈ before, entry.id ∈ ledger.seen)
    (unknown : ∀ entry ∈ group, entry.id ∉ ledger.seen) :
    ((Delivery.due catalog).filter fun entry => entry.id ∉ ledger.seen) =
      oldestFirst group := by
  obtain ⟨worker, manual, rfl⟩ := loaded
  have new : ((before ++ group).filter fun entry => entry.id ∉ ledger.seen) =
      group := by
    have old : (before.filter fun entry => entry.id ∉ ledger.seen) = [] :=
      List.filter_eq_nil_iff.mpr fun entry among => by simp [known entry among]
    have all : (group.filter fun entry => entry.id ∉ ledger.seen) = group :=
      List.filter_eq_self.mpr fun entry among => by simp [unknown entry among]
    rw [List.filter_append, old, all, List.nil_append]
  have same := read.filter fun entry => entry.id ∉ ledger.seen
  rw [new] at same
  rw [List.map_append] at distinct
  exact eq_oldestFirst ((due_sorted worker manual).filter _) same
    (List.nodup_append.mp distinct).2.1

theorem incidents_events (key : String) (catalog : Catalog) (ledger : Delivery)
    (distinct : ((Delivery.due catalog).map Entry.id).Nodup) :
    (ledger.events catalog).2.incidents[key]? =
      (lastEffect key ((Delivery.due catalog).filter
        fun entry => entry.id ∉ ledger.seen)).getD ledger.incidents[key]? :=
  Delivery.incidents_foldl_visit distinct key

/-- The runs of a pass are seen after it. -/
theorem seen_of_due {entry : Entry} (among : entry ∈ Delivery.due catalog) :
    entry.id ∈ (ledger.events catalog).2.seen := by
  rw [Delivery.events]
  dsimp only
  rw [ExtTreeSet.mem_filter]
  have visible : entry ∈ catalog.entries :=
    List.mem_reverse.mp (List.mem_filter.mp among).1
  refine ⟨Delivery.mem_seen_foldl_visit.mpr (.inr ⟨entry, among, rfl⟩), ?_⟩
  rw [ExtTreeSet.get_eq]
  exact List.any_eq_true.mpr ⟨entry, visible, beq_self_eq_true _⟩

end Pass

theorem incidents_passes {ledger : Delivery} {before : List Entry}
    {catalogs : List Catalog} {groups : List (List Entry)}
    (reads : Reads before catalogs groups)
    (distinct : ((before ++ groups.flatten).map Entry.id).Nodup)
    (known : ∀ entry ∈ before, entry.id ∈ ledger.seen)
    (unknown : ∀ entry ∈ groups.flatten, entry.id ∉ ledger.seen) (key : String) :
    (passes ledger catalogs).incidents[key]? =
      (lastEffect key (groups.map oldestFirst).flatten).getD
        ledger.incidents[key]? := by
  induction groups generalizing ledger before catalogs with
  | nil =>
      cases catalogs with
      | nil => rfl
      | cons catalog catalogs => exact reads.elim
  | cons group groups ih =>
      cases catalogs with
      | nil => exact reads.elim
      | cons catalog catalogs =>
          obtain ⟨loaded, read, reads⟩ := reads
          rw [List.flatten_cons, ← List.append_assoc] at distinct
          have part : ((before ++ group).map Entry.id).Nodup := by
            rw [List.map_append] at distinct
            exact (List.nodup_append.mp distinct).1
          have due : ((Delivery.due catalog).map Entry.id).Nodup :=
            (read.map Entry.id).nodup_iff.mpr part
          obtain ⟨here, later⟩ := List.forall_mem_append.mp
            (List.flatten_cons ▸ unknown)
          have seen : ∀ entry ∈ before ++ group,
              entry.id ∈ (ledger.events catalog).2.seen := fun entry among =>
            seen_of_due (read.mem_iff.mpr among)
          have unseen : ∀ entry ∈ groups.flatten,
              entry.id ∉ (ledger.events catalog).2.seen := by
            intro entry among again
            rcases Delivery.seen_events again with old | ⟨other, shown, same⟩
            · exact later entry among old
            · have early := read.mem_iff.mp shown
              rw [List.map_append] at distinct
              exact (List.nodup_append.mp distinct).2.2 _
                (List.mem_map_of_mem early) _ (List.mem_map_of_mem among) same
          have rest := ih reads distinct seen unseen
          change (passes (ledger.events catalog).2 catalogs).incidents[key]? = _
          rw [rest, incidents_events key catalog ledger due,
            due_unseen loaded read part known here, List.map_cons, List.flatten_cons,
            lastEffect_append]
          cases lastEffect key (groups.map oldestFirst).flatten <;> rfl

/-! ### Batches -/

/-- The last pass with a run that changes the incident. -/
def lastPass (key : String) (groups : List (List Entry)) : Option (List Entry) :=
  groups.reverse.find? fun group => group.any fun entry => (entry.effect key).isSome

/-- In the last pass that changes an incident, the run that started last and the
one that finished last leave the same, of those that change it. -/
def Agree (groups : List (List Entry)) : Prop :=
  ∀ key group, lastPass key groups = some group →
    lastEffect key (oldestFirst group) = lastEffect key group

section Groups

variable {key : String}

theorem lastEffect_isSome {runs : List Entry} :
    (lastEffect key runs).isSome =
      runs.any fun entry => (entry.effect key).isSome := by
  rw [lastEffect, Bool.eq_iff_iff, List.findSome?_isSome_iff, List.any_eq_true]
  simp only [List.mem_reverse]

theorem lastEffect_perm {runs sorted : List Entry} (same : sorted.Perm runs) :
    (lastEffect key sorted).isSome =
      runs.any fun entry => (entry.effect key).isSome := by
  rw [lastEffect_isSome]
  exact same.any_eq

theorem lastPass_cons (group : List Entry) (groups : List (List Entry)) :
    lastPass key (group :: groups) =
      (lastPass key groups).or (lastPass key [group]) := by
  rw [lastPass, List.reverse_cons, List.find?_append]
  rfl

/-- The last pass decides, in whichever order it goes over its runs. -/
theorem lastEffect_flatten {order : List Entry → List Entry}
    (same : ∀ runs, (order runs).Perm runs) (groups : List (List Entry)) :
    lastEffect key (groups.map order).flatten =
      (lastPass key groups).bind fun group => lastEffect key (order group) := by
  have some_iff (group : List Entry) := @lastEffect_perm key _ _ (same group)
  induction groups with
  | nil => rfl
  | cons group groups ih =>
      rw [List.map_cons, List.flatten_cons, lastEffect_append, ih, lastPass_cons]
      cases last : lastPass key groups with
      | none =>
          rw [Option.bind_none, Option.none_or, Option.none_or, lastPass,
            List.reverse_singleton, List.find?_singleton]
          cases changes : group.any fun entry => (entry.effect key).isSome with
          | true => rfl
          | false =>
              have unchanged := some_iff group
              rw [changes] at unchanged
              exact Option.isNone_iff_eq_none.mp
                (Option.isSome_eq_false_iff.mp unchanged)
      | some final =>
          have changes := List.find?_some last
          obtain ⟨effect, found⟩ := Option.isSome_iff_exists.mp
            ((some_iff final).trans changes)
          rw [Option.some_or, Option.bind_some, found, Option.some_or]

theorem isSome_of_lastPass {groups : List (List Entry)} {group sorted : List Entry}
    (last : lastPass key groups = some group) (same : sorted.Perm group) :
    (lastEffect key sorted).isSome = true := by
  have changes := List.find?_some last
  exact (lastEffect_perm same).trans changes

end Groups

/-- The incidents do not depend on the batches exactly when the runs of the last
pass for each of them agree. -/
theorem incidents_batched_iff {ledger : Delivery} {catalogs singles : List Catalog}
    {groups : List (List Entry)} (reads : Reads [] catalogs groups)
    (alone : Reads [] singles (groups.flatten.map fun run => [run]))
    (distinct : (groups.flatten.map Entry.id).Nodup)
    (new : ∀ entry ∈ groups.flatten, entry.id ∉ ledger.seen) :
    (passes ledger catalogs).incidents = (passes ledger singles).incidents ↔
      Agree groups := by
  have flat : (groups.flatten.map fun run => [run]).flatten = groups.flatten := by
    rw [← List.flatMap_def]
    exact List.flatMap_singleton' _
  have one (run : Entry) : oldestFirst [run] = [run] := rfl
  have flatOne : ((groups.flatten.map fun run => [run]).map oldestFirst).flatten =
      groups.flatten := by
    rw [List.map_map]
    exact flat
  have batched (key : String) := incidents_passes reads distinct nofun new key
  have single (key : String) := incidents_passes alone (flat.symm ▸ distinct) nofun
    (flat.symm ▸ new) key
  have sorted (key : String) := @lastEffect_flatten key _ perm_oldestFirst groups
  have plain (key : String) :=
    @lastEffect_flatten key id (fun runs => List.Perm.refl runs) groups
  simp only [List.map_id, id] at plain
  rw [flatOne] at single
  simp only [sorted] at batched
  simp only [plain] at single
  constructor
  · intro same key group last
    have equal : (passes ledger catalogs).incidents[key]? =
        (passes ledger singles).incidents[key]? := by
      rw [same]
    rw [batched, single, last, Option.bind_some, Option.bind_some] at equal
    obtain ⟨early, left⟩ := Option.isSome_iff_exists.mp
      (isSome_of_lastPass last (perm_oldestFirst group))
    obtain ⟨late, right⟩ := Option.isSome_iff_exists.mp
      (isSome_of_lastPass last (List.Perm.refl group))
    rw [left, right] at equal ⊢
    exact congrArg some equal
  · intro agree
    apply ExtTreeMap.ext_getElem?
    intro key
    rw [batched, single]
    cases last : lastPass key groups with
    | none => rfl
    | some group =>
        rw [Option.bind_some, Option.bind_some, agree key group last]

def toolRun (id : String) (startedAt : Nat) (outcome phase : String)
    (incident : Option String) : Entry :=
  ⟨id, "tools", "update", startedAt, some 0, none,
    [⟨"helix", phase, false, incident⟩], true, outcome, "Tools"⟩

def broken : Entry :=
  toolRun "broken" 1 "failed" "failed" (some "build")

def repaired : Entry :=
  toolRun "repaired" 2 "current" "current" none

def shows (entries : List Entry) : Catalog :=
  Catalog.load (Publisher.source entries) (Publisher.source [])

theorem incidents_batched_repaired :
    (passes .default [shows [broken, repaired]]).incidents =
      (passes .default [shows [broken], shows [broken, repaired]]).incidents := by
  have reads : Reads [] [shows [broken, repaired]] [[broken, repaired]] :=
    ⟨⟨_, _, rfl⟩, by decide +kernel, trivial⟩
  have alone : Reads [] [shows [broken], shows [broken, repaired]]
      [[broken], [repaired]] :=
    ⟨⟨_, _, rfl⟩, by decide +kernel, ⟨_, _, rfl⟩, by decide +kernel, trivial⟩
  refine (incidents_batched_iff reads alone (by decide) ?_).mpr ?_
  · intro entry _
    exact ExtTreeSet.not_mem_empty
  · intro key group last
    have among := List.mem_reverse.mp (List.mem_of_find?_eq_some last)
    obtain rfl := List.mem_singleton.mp among
    have ordered : oldestFirst [broken, repaired] = [broken, repaired] := by
      decide +kernel
    rw [ordered]

/-- A run that starts first and finishes last leaves an incident, unless a pass
sees both runs at once. -/
theorem incidents_overlapping :
    (passes .default [shows [broken, repaired]]).incidents["tool:helix"]? = none ∧
      (passes .default [shows [{ broken with outcome := "running" }, repaired],
        shows [broken, repaired]]).incidents["tool:helix"]? = some "build" := by
  decide +kernel

end BarDaemon.Updates
