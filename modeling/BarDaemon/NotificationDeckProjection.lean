import BarDaemon.KeyedGrouping
import BarDaemon.NotificationDecks
import BarDaemon.TransitionRuns

/-!
# What a published deck list contains

Deck operations arrive in any order and with any records.  The published list
keeps three facts on its own: at most three decks for each monitor, one deck
for each monitor and application, and one place for each identifier.  A
monitor that is not being read shows the leading applications of its eligible
records; a monitor under a lease shows what is left of its previous decks.
-/

namespace BarDaemon.Notifications

open KeyedGrouping TransitionRuns Std

namespace ToastDeck

/-- A deck as a keyed group: its bucket is the monitor. -/
def toGroup (deck : ToastDeck) :
    Group (String × String) ActiveNotification :=
  ((deck.monitor, deck.key), deck.records)

theorem toGroup_injective : Function.Injective toGroup := by
  rintro ⟨monitor, key, records⟩ ⟨otherMonitor, otherKey, otherRecords⟩ equal
  simp only [toGroup, Prod.mk.injEq] at equal
  obtain ⟨⟨rfl, rfl⟩, rfl⟩ := equal
  rfl

/-- The decks of one monitor. -/
def on (monitor : String) (decks : List ToastDeck) : List ToastDeck :=
  decks.filter fun deck => deck.monitor = monitor

def cards (decks : List ToastDeck) : List ActiveNotification :=
  decks.flatMap records

theorem map_toGroup_on (monitor : String) (decks : List ToastDeck) :
    (on monitor decks).map toGroup =
      within Prod.fst monitor (decks.map toGroup) := by
  unfold on within
  rw [List.filter_map]
  rfl

theorem members_map_toGroup (decks : List ToastDeck) :
    members (decks.map toGroup) = cards decks := by
  simp [members, cards, List.flatMap_map, toGroup]

end ToastDeck

/-- The group a record belongs to. -/
def ActiveNotification.deckKey (item : ActiveNotification) :
    String × String :=
  (item.sourceMonitor, item.appKey)

namespace Decks

open ToastDeck

/-! ## Projection as keyed grouping -/

theorem pushCard_map_toGroup (item : ActiveNotification)
    (next : List ToastDeck) :
    (pushCard item next).map (List.map toGroup) =
      join item.deckKey item (next.map toGroup) := by
  induction next with
  | nil => rfl
  | cons deck next ih =>
      by_cases same : deck.monitor = item.sourceMonitor ∧
          deck.key = item.appKey
      · simp [pushCard, join, toGroup, ActiveNotification.deckKey, same]
      · have different : ¬ (toGroup deck).1 = item.deckKey := by
          simpa [toGroup, ActiveNotification.deckKey] using same
        simp only [pushCard, same, if_false, List.map_cons, join, different,
          ← ih, Option.map_map]
        cases pushCard item next <;> rfl

theorem placeCard_map_toGroup (item : ActiveNotification)
    (next : List ToastDeck) :
    (placeCard next item).map toGroup =
      place ActiveNotification.deckKey Prod.fst 3 (next.map toGroup) item := by
  have pushes := pushCard_map_toGroup item next
  have counted := congrArg List.length
    (map_toGroup_on item.sourceMonitor next)
  simp only [List.length_map] at counted
  cases pushed : pushCard item next with
  | some extended =>
      rw [pushed] at pushes
      simp [placeCard, place, pushed, ← pushes]
  | none =>
      rw [pushed] at pushes
      simp only [placeCard, place, pushed, ← pushes, Option.map_none]
      rw [show item.deckKey.1 = item.sourceMonitor from rfl, ← counted]
      by_cases room : (on item.sourceMonitor next).length < 3
      · rw [if_pos room, if_pos (by exact room), List.map_append]
        rfl
      · rw [if_neg room, if_neg (by exact room)]

theorem project_map_toGroup (decks : Decks)
    (records : List ActiveNotification) (dnd : Bool) :
    (decks.project records dnd).1.map toGroup =
      placeAll ActiveNotification.deckKey Prod.fst 3
        ((decks.frozen records dnd).map toGroup)
        (decks.ordered records dnd) := by
  have placed : ∀ (elements : List ActiveNotification)
      (next : List ToastDeck),
      (elements.foldl placeCard next).map toGroup =
        placeAll ActiveNotification.deckKey Prod.fst 3 (next.map toGroup)
          elements := by
    intro elements
    induction elements with
    | nil => intro next; rfl
    | cons element elements ih =>
        intro next
        simp only [List.foldl_cons, ih, placeCard_map_toGroup, placeAll]
  exact placed _ _

/-! ## Frozen decks -/

theorem mem_ordered {decks : Decks} {records : List ActiveNotification}
    {dnd : Bool} {item : ActiveNotification} :
    item ∈ decks.ordered records dnd ↔
      item ∈ records ∧ eligible dnd item = true ∧
        decks.reading item.sourceMonitor = false := by
  simp only [ordered, List.mem_insertionSort, List.mem_filter,
    Bool.not_eq_true', and_assoc]

theorem currentOf_eq_some {records : List ActiveNotification} {dnd : Bool}
    {monitor : String} {old current : ActiveNotification}
    (found : currentOf records dnd monitor old = some current) :
    current ∈ records ∧ eligible dnd current = true ∧
      current.id = old.id ∧ current.sourceMonitor = monitor ∧
      current.createdUnixMs = old.createdUnixMs := by
  have member := List.mem_filter.mp (List.mem_of_find?_eq_some found)
  have fields := List.find?_some found
  simp only [Bool.and_eq_true, beq_iff_eq] at fields
  exact ⟨member.1, member.2, fields.1.1, fields.1.2, fields.2⟩

theorem refreshCard_id {records : List ActiveNotification} {dnd : Bool}
    {monitor : String} {old card : ActiveNotification}
    (refreshed : refreshCard records dnd monitor old = some card) :
    card.id = old.id := by
  obtain ⟨current, found, rfl⟩ := Option.map_eq_some_iff.mp refreshed
  obtain ⟨-, -, sameId, -⟩ := currentOf_eq_some found
  split
  · exact sameId
  · rfl

theorem refreshDeck_eq_some {records : List ActiveNotification} {dnd : Bool}
    {deck refreshed : ToastDeck}
    (kept : refreshDeck records dnd deck = some refreshed) :
    refreshed = { deck with records :=
      deck.records.filterMap (refreshCard records dnd deck.monitor) } := by
  unfold refreshDeck at kept
  simp only at kept
  split at kept
  · simp at kept
  · exact (Option.some.inj kept).symm

theorem mem_frozen {decks : Decks} {records : List ActiveNotification}
    {dnd : Bool} {deck : ToastDeck}
    (member : deck ∈ decks.frozen records dnd) :
    decks.reading deck.monitor = true ∧
      ∃ old ∈ decks.published, refreshDeck records dnd old = some deck := by
  obtain ⟨old, oldMember, refreshed⟩ := List.mem_filterMap.mp member
  obtain ⟨published, reading⟩ := List.mem_filter.mp oldMember
  have same := refreshDeck_eq_some refreshed
  exact ⟨by rw [same]; exact reading, old, published, refreshed⟩

theorem frozen_keys_sublist (decks : Decks)
    (records : List ActiveNotification) (dnd : Bool) :
    ((decks.frozen records dnd).map fun deck =>
        (deck.monitor, deck.key)).Sublist
      (decks.published.map fun deck => (deck.monitor, deck.key)) := by
  have kept : ∀ published : List ToastDeck,
      ((published.filterMap (refreshDeck records dnd)).map fun deck =>
          (deck.monitor, deck.key)).Sublist
        (published.map fun deck => (deck.monitor, deck.key)) := by
    intro published
    induction published with
    | nil => exact List.Sublist.slnil
    | cons deck published ih =>
        cases refreshed : refreshDeck records dnd deck with
        | none =>
            rw [List.filterMap_cons_none refreshed, List.map_cons]
            exact ih.cons _
        | some next =>
            rw [List.filterMap_cons_some refreshed, List.map_cons,
              List.map_cons, refreshDeck_eq_some refreshed]
            exact ih.cons_cons _
  exact (kept _).trans ((List.filter_sublist).map _)

theorem frozen_ids_sublist (decks : Decks)
    (records : List ActiveNotification) (dnd : Bool) :
    ((cards (decks.frozen records dnd)).map ActiveNotification.id).Sublist
      ((cards decks.published).map ActiveNotification.id) := by
  have cardIds : ∀ (monitor : String) (items : List ActiveNotification),
      ((items.filterMap (refreshCard records dnd monitor)).map
          ActiveNotification.id).Sublist
        (items.map ActiveNotification.id) := by
    intro monitor items
    induction items with
    | nil => exact List.Sublist.slnil
    | cons item items ih =>
        cases refreshed : refreshCard records dnd monitor item with
        | none =>
            rw [List.filterMap_cons_none refreshed, List.map_cons]
            exact ih.cons _
        | some card =>
            rw [List.filterMap_cons_some refreshed, List.map_cons,
              List.map_cons, refreshCard_id refreshed]
            exact ih.cons_cons _
  have kept : ∀ published : List ToastDeck,
      ((cards ((published.filter fun deck =>
          decks.reading deck.monitor).filterMap
            (refreshDeck records dnd))).map ActiveNotification.id).Sublist
        ((cards published).map ActiveNotification.id) := by
    intro published
    induction published with
    | nil => exact List.Sublist.slnil
    | cons deck published ih =>
        have dropped := ih.trans (List.sublist_append_right
          (deck.records.map ActiveNotification.id) _)
        by_cases reading : decks.reading deck.monitor = true
        · rw [List.filter_cons_of_pos (by exact reading)]
          cases refreshed : refreshDeck records dnd deck with
          | none =>
              rw [List.filterMap_cons_none refreshed]
              simpa [cards] using dropped
          | some next =>
              rw [List.filterMap_cons_some refreshed]
              have appended := (cardIds deck.monitor deck.records).append ih
              rw [refreshDeck_eq_some refreshed]
              simpa [cards] using appended
        · rw [List.filter_cons_of_neg (by exact reading)]
          simpa [cards] using dropped
  exact kept _

/-! ## Well-formed results -/

/-- What every published list satisfies, whatever the calls were. -/
structure WellFormed (decks : List ToastDeck) : Prop where
  atMostThree : ∀ monitor, (on monitor decks).length ≤ 3
  keysNodup : (decks.map fun deck => (deck.monitor, deck.key)).Nodup
  idsNodup : ((cards decks).map ActiveNotification.id).Nodup

theorem wellFormed_nil : WellFormed [] where
  atMostThree := by simp [on]
  keysNodup := List.nodup_nil
  idsNodup := List.nodup_nil

theorem on_frozen_length_le (decks : Decks)
    (records : List ActiveNotification) (dnd : Bool) (monitor : String) :
    (on monitor (decks.frozen records dnd)).length ≤
      (on monitor decks.published).length := by
  have monitors := (frozen_keys_sublist decks records dnd).map Prod.fst
  have filtered := monitors.filter fun other => decide (other = monitor)
  simpa [on, List.filter_map, Function.comp_def] using filtered.length_le

/-- A frozen card has a current record on its own monitor, so no card is
placed a second time. -/
theorem frozen_disjoint_ordered {decks : Decks}
    {records : List ActiveNotification} {dnd : Bool}
    (distinct : (records.map ActiveNotification.id).Nodup)
    {card item : ActiveNotification}
    (isFrozen : card ∈ cards (decks.frozen records dnd))
    (isOrdered : item ∈ decks.ordered records dnd) : card.id ≠ item.id := by
  intro sameId
  obtain ⟨deck, deckMember, cardMember⟩ := List.mem_flatMap.mp isFrozen
  obtain ⟨reading, old, -, refreshed⟩ := mem_frozen deckMember
  rw [refreshDeck_eq_some refreshed] at cardMember reading
  obtain ⟨oldCard, -, refreshedCard⟩ := List.mem_filterMap.mp cardMember
  have keptId := refreshCard_id refreshedCard
  obtain ⟨current, found, -⟩ := Option.map_eq_some_iff.mp refreshedCard
  obtain ⟨currentMember, -, currentId, currentMonitor, -⟩ :=
    currentOf_eq_some found
  obtain ⟨itemMember, -, notReading⟩ := mem_ordered.mp isOrdered
  have same : current = item := List.inj_on_of_nodup_map distinct
    currentMember itemMember (by omega)
  rw [← same, currentMonitor] at notReading
  exact absurd reading (by simp [notReading])

theorem project_wellFormed {decks : Decks}
    {records : List ActiveNotification} {dnd : Bool}
    (published : WellFormed decks.published)
    (distinct : (records.map ActiveNotification.id).Nodup) :
    WellFormed (decks.project records dnd).1 := by
  have grouped := project_map_toGroup decks records dnd
  refine ⟨?_, ?_, ?_⟩
  · intro monitor
    have bounded := within_placeAll_length_le ActiveNotification.deckKey
      Prod.fst 3 ((decks.frozen records dnd).map toGroup) monitor (by
        rw [← map_toGroup_on, List.length_map]
        exact (on_frozen_length_le decks records dnd monitor).trans
          (published.atMostThree monitor))
      (decks.ordered records dnd)
    rw [← grouped, ← map_toGroup_on, List.length_map] at bounded
    exact bounded
  · have frozenNodup := published.keysNodup.sublist
      (frozen_keys_sublist decks records dnd)
    have placedNodup := placeAll_keys_nodup ActiveNotification.deckKey
      Prod.fst 3 ((decks.frozen records dnd).map toGroup)
      (by simpa [toGroup, Function.comp_def] using frozenNodup)
      (decks.ordered records dnd)
    rw [← grouped] at placedNodup
    simpa [toGroup, Function.comp_def] using placedNodup
  · have collected := placeAll_members_subperm ActiveNotification.deckKey
      Prod.fst 3 ((decks.frozen records dnd).map toGroup)
      (decks.ordered records dnd)
    rw [← grouped, members_map_toGroup, members_map_toGroup] at collected
    obtain ⟨kept, perm, sublist⟩ := collected
    have orderedNodup :
        ((decks.ordered records dnd).map ActiveNotification.id).Nodup :=
      ((List.perm_insertionSort _ _).map _).nodup_iff.mpr
        (distinct.sublist
          ((List.filter_sublist.trans List.filter_sublist).map _))
    have allNodup : ((cards (decks.frozen records dnd) ++
        decks.ordered records dnd).map ActiveNotification.id).Nodup := by
      rw [List.map_append]
      refine List.nodup_append.mpr ⟨published.idsNodup.sublist
        (frozen_ids_sublist decks records dnd), orderedNodup, ?_⟩
      rintro id idFrozen other idOrdered rfl
      obtain ⟨card, isFrozen, rfl⟩ := List.mem_map.mp idFrozen
      obtain ⟨item, isOrdered, sameId⟩ := List.mem_map.mp idOrdered
      exact frozen_disjoint_ordered distinct isFrozen isOrdered sameId.symm
    exact (perm.map _).nodup_iff.mp (allNodup.sublist (sublist.map _))

/-! ## One monitor of a result -/

theorem map_toGroup_on_project (decks : Decks)
    (records : List ActiveNotification) (dnd : Bool) (monitor : String) :
    (on monitor (decks.project records dnd).1).map toGroup =
      placeAll ActiveNotification.deckKey Prod.fst 3
        ((on monitor (decks.frozen records dnd)).map toGroup)
        ((decks.ordered records dnd).filter fun item =>
          item.sourceMonitor = monitor) := by
  rw [map_toGroup_on, project_map_toGroup, within_placeAll, ← map_toGroup_on]
  rfl

/-- The records that a monitor may show. -/
def shown (records : List ActiveNotification) (dnd : Bool)
    (monitor : String) : List ActiveNotification :=
  records.filter fun item =>
    eligible dnd item && item.sourceMonitor == monitor

instance : Std.Total newerOrEqual where
  total first second := by
    unfold newerOrEqual
    omega

instance : IsTrans ActiveNotification newerOrEqual where
  trans first second third := by
    unfold newerOrEqual
    omega

/-- A monitor that is not being read shows the leading applications of its
eligible records, newest first. -/
theorem on_project_of_not_reading {decks : Decks}
    (records : List ActiveNotification) (dnd : Bool) {monitor : String}
    (notReading : decks.reading monitor = false) :
    ∃ newest : List ActiveNotification,
      newest.Perm (shown records dnd monitor) ∧
      newest.Pairwise newerOrEqual ∧
      (on monitor (decks.project records dnd).1).map toGroup =
        leading ActiveNotification.deckKey 3 newest := by
  refine ⟨(decks.ordered records dnd).filter fun item =>
    item.sourceMonitor = monitor, ?_, ?_, ?_⟩
  · refine ((List.perm_insertionSort _ _).filter _).trans ?_
    rw [List.filter_filter, List.filter_filter]
    refine List.Perm.of_eq (List.filter_congr ?_)
    intro item _
    by_cases here : item.sourceMonitor = monitor
    · simp [here, notReading]
    · simp [here]
  · exact (List.pairwise_insertionSort newerOrEqual _).filter _
  · have noFrozen : on monitor (decks.frozen records dnd) = [] := by
      apply List.filter_eq_nil_iff.mpr
      intro deck member here
      have reading := (mem_frozen member).1
      rw [of_decide_eq_true here, notReading] at reading
      cases reading
    rw [map_toGroup_on_project, noFrozen]
    refine placeAll_eq_leading _ _ _ monitor ?_
    intro item member
    exact of_decide_eq_true (List.mem_filter.mp member).2

/-- What a lease keeps of a card: the current record, or the old one, inert,
when the notification was replaced. -/
def CardKept (records : List ActiveNotification) (dnd : Bool)
    (monitor : String) (card old : ActiveNotification) : Prop :=
  ∃ current ∈ shown records dnd monitor,
    current.id = old.id ∧ current.createdUnixMs = old.createdUnixMs ∧
    (current.updatedUnixMs = old.updatedUnixMs → card = current) ∧
    (current.updatedUnixMs ≠ old.updatedUnixMs →
      card = { old with interactionBlocked := true })

/-- What a lease keeps of a deck: its place, its key and some of its cards in
their order. -/
def DeckKept (records : List ActiveNotification) (dnd : Bool)
    (deck old : ToastDeck) : Prop :=
  deck.monitor = old.monitor ∧ deck.key = old.key ∧
    List.SublistForall₂ (CardKept records dnd old.monitor)
      deck.records old.records

theorem refreshCard_kept {records : List ActiveNotification} {dnd : Bool}
    {monitor : String} {old card : ActiveNotification}
    (refreshed : refreshCard records dnd monitor old = some card) :
    CardKept records dnd monitor card old := by
  obtain ⟨current, found, rfl⟩ := Option.map_eq_some_iff.mp refreshed
  obtain ⟨member, isEligible, sameId, here, sameCreated⟩ :=
    currentOf_eq_some found
  refine ⟨current, List.mem_filter.mpr ⟨member, by simp [isEligible, here]⟩,
    sameId, sameCreated, ?_, ?_⟩
  · intro same
    exact if_pos same
  · intro replaced
    exact if_neg replaced

theorem sublistForall₂_filterMap {Before After : Type*}
    (relation : After → Before → Prop) {refresh : Before → Option After}
    (kept : ∀ before after, refresh before = some after →
      relation after before) (before : List Before) :
    List.SublistForall₂ relation (before.filterMap refresh) before := by
  induction before with
  | nil => exact List.SublistForall₂.nil
  | cons head tail ih =>
      cases refreshed : refresh head with
      | none =>
          rw [List.filterMap_cons_none refreshed]
          exact ih.cons_right
      | some after =>
          rw [List.filterMap_cons_some refreshed]
          exact List.SublistForall₂.cons (kept head after refreshed) ih

/-- Filtering commutes with a refresh that cannot change the verdict. -/
theorem filter_filterMap_of_agree {Before After : Type*}
    {refresh : Before → Option After} (before : Before → Bool)
    {after : After → Bool}
    (agree : ∀ old new, refresh old = some new → after new = before old)
    (olds : List Before) :
    (olds.filterMap refresh).filter after =
      (olds.filter before).filterMap refresh := by
  induction olds with
  | nil => rfl
  | cons old olds ih =>
      cases refreshed : refresh old with
      | none =>
          rw [List.filterMap_cons_none refreshed, ih, List.filter_cons]
          split
          · rw [List.filterMap_cons_none refreshed]
          · rfl
      | some new =>
          rw [List.filterMap_cons_some refreshed, List.filter_cons,
            List.filter_cons, agree old new refreshed, ih]
          split
          · rw [List.filterMap_cons_some refreshed]
          · rfl

theorem refreshDeck_kept {records : List ActiveNotification} {dnd : Bool}
    {old deck : ToastDeck}
    (refreshed : refreshDeck records dnd old = some deck) :
    DeckKept records dnd deck old := by
  rw [refreshDeck_eq_some refreshed]
  exact ⟨rfl, rfl, sublistForall₂_filterMap
    (CardKept records dnd old.monitor)
    (fun _ _ refreshed => refreshCard_kept refreshed) _⟩

/-- A monitor under a lease shows an order-preserving part of what it
showed. -/
theorem on_project_of_reading {decks : Decks}
    (records : List ActiveNotification) (dnd : Bool) {monitor : String}
    (reading : decks.reading monitor = true) :
    List.SublistForall₂ (DeckKept records dnd)
      (on monitor (decks.project records dnd).1)
      (on monitor decks.published) := by
  have noArrivals : ((decks.ordered records dnd).filter fun item =>
      item.sourceMonitor = monitor) = [] := by
    apply List.filter_eq_nil_iff.mpr
    intro item member here
    obtain ⟨-, -, notReading⟩ := mem_ordered.mp member
    rw [of_decide_eq_true here, reading] at notReading
    cases notReading
  have onlyFrozen : on monitor (decks.project records dnd).1 =
      on monitor (decks.frozen records dnd) := by
    apply List.map_injective_iff.mpr toGroup_injective
    rw [map_toGroup_on_project, noArrivals]
    rfl
  have frozenOn : on monitor (decks.frozen records dnd) =
      (on monitor decks.published).filterMap (refreshDeck records dnd) := by
    unfold on frozen
    rw [filter_filterMap_of_agree
      (fun deck => decide (deck.monitor = monitor)),
      List.filter_filter]
    · congr 1
      refine List.filter_congr ?_
      intro deck _
      by_cases here : deck.monitor = monitor
      · simp [here, reading]
      · simp [here]
    · intro old deck refreshed
      rw [refreshDeck_eq_some refreshed]
  rw [onlyFrozen, frozenOn]
  exact sublistForall₂_filterMap (DeckKept records dnd)
    (fun _ _ refreshed => refreshDeck_kept refreshed) _

/-! ## Runs -/

/-- One call.  The records and the active table are the caller's. -/
inductive Op
  | setReading (monitor : String) (reading : Bool) (now : Nat)
      (active : ExtTreeMap Nat ActiveNotification)
  | expire (now : Nat) (active : ExtTreeMap Nat ActiveNotification)
  | project (records : List ActiveNotification) (dnd : Bool)

/-- The decks with every result they have published, newest last. -/
structure Session where
  decks : Decks := {}
  results : List (List ToastDeck) := []

namespace Session

def step (session : Session) : Op → Session
  | .setReading monitor reading now active =>
      { session with
        decks := (session.decks.setReading monitor reading now active).1 }
  | .expire now active =>
      { session with decks := (session.decks.expire now active).1 }
  | .project records dnd =>
      let (result, decks) := session.decks.project records dnd
      { decks := decks, results := session.results ++ [result] }

/-- The newest result; nothing before the first projection. -/
def previous (session : Session) : List ToastDeck :=
  session.results.getLast?.getD []

/-- Records of one projection are distinct notifications. -/
def DistinctRecords : Op → Prop
  | .project records _ => (records.map ActiveNotification.id).Nodup
  | _ => True

structure Invariant (session : Session) : Prop where
  published : session.decks.published = session.previous
  wellFormed : ∀ result ∈ session.results, WellFormed result

end Session

theorem setReading_published (decks : Decks) (monitor : String)
    (reading : Bool) (now : Nat) (active : ExtTreeMap Nat ActiveNotification) :
    (decks.setReading monitor reading now active).1.published =
      decks.published := by
  unfold setReading
  split
  · rfl
  · split <;> rfl

theorem expire_published (decks : Decks) (now : Nat)
    (active : ExtTreeMap Nat ActiveNotification) :
    (decks.expire now active).1.published = decks.published := by
  have released : ∀ (monitors : List String)
      (state : Decks × ExtTreeMap Nat ActiveNotification),
      (monitors.foldl (fun state monitor =>
        state.1.setReading monitor false now state.2) state).1.published =
        state.1.published := by
    intro monitors
    induction monitors with
    | nil => intro state; rfl
    | cons monitor monitors ih =>
        intro state
        rw [List.foldl_cons, ih, setReading_published]
  exact released _ _

namespace Session

theorem previous_wellFormed {session : Session}
    (invariant : session.Invariant) : WellFormed session.previous := by
  unfold previous
  cases last : session.results.getLast? with
  | none => exact wellFormed_nil
  | some result =>
      exact invariant.wellFormed result (List.mem_of_getLast? last)

theorem step_invariant (session : Session) (op : Op)
    (invariant : session.Invariant) (distinct : DistinctRecords op) :
    (session.step op).Invariant := by
  cases op with
  | setReading monitor reading now active =>
      exact ⟨(setReading_published ..).trans invariant.published,
        invariant.wellFormed⟩
  | expire now active =>
      exact ⟨(expire_published ..).trans invariant.published,
        invariant.wellFormed⟩
  | project records dnd =>
      have published : WellFormed session.decks.published :=
        invariant.published ▸ previous_wellFormed invariant
      refine ⟨by simp [step, previous, project], ?_⟩
      intro result member
      rcases List.mem_append.mp member with earlier | latest
      · exact invariant.wellFormed result earlier
      · rw [List.mem_singleton.mp latest]
        exact project_wellFormed published distinct

theorem run_invariant {ops : List Op}
    (distinct : ∀ op ∈ ops, DistinctRecords op) :
    (run step {} ops).Invariant := by
  have initially : Invariant {} := ⟨rfl, by simp⟩
  have permitted : StepsMeet step (fun _ op => DistinctRecords op) {} ops :=
    stepsMeet_of_mem (fun op member _ => distinct op member) _
  exact invariant_run step_invariant initially permitted

/-- What one projection publishes, given what was published before. -/
structure Correct (session : Session) (records : List ActiveNotification)
    (dnd : Bool) (result : List ToastDeck) : Prop where
  wellFormed : WellFormed result
  current : ∀ monitor, session.decks.reading monitor = false →
    ∃ newest : List ActiveNotification,
      newest.Perm (shown records dnd monitor) ∧
      newest.Pairwise newerOrEqual ∧
      (on monitor result).map toGroup =
        leading ActiveNotification.deckKey 3 newest
  kept : ∀ monitor, session.decks.reading monitor = true →
    List.SublistForall₂ (DeckKept records dnd)
      (on monitor result) (on monitor session.previous)

/-- After any calls, a projection of distinct records is correct. -/
theorem project_correct (ops : List Op) (records : List ActiveNotification)
    (dnd : Bool)
    (distinct : ∀ op ∈ ops ++ [.project records dnd], DistinctRecords op) :
    let session := run step {} ops
    Correct session records dnd (session.decks.project records dnd).1 := by
  have invariant := run_invariant fun op member =>
    distinct op (List.mem_append_left _ member)
  have published : WellFormed (run step {} ops).decks.published :=
    invariant.published ▸ previous_wellFormed invariant
  refine ⟨project_wellFormed published
    (distinct (.project records dnd) (by simp)), ?_, ?_⟩
  · intro monitor notReading
    exact on_project_of_not_reading records dnd notReading
  · intro monitor reading
    rw [← invariant.published]
    exact on_project_of_reading records dnd reading

/-- A chat message as the witness runs use it. -/
def message (id created updated : Nat) (monitor : String) :
    ActiveNotification where
  id := id
  identityIcon := ""
  contextActions := []
  interactionBlocked := false
  appName := "Chat"
  appIcon := ""
  summary := "Hello"
  body := ""
  actions := []
  hints := {}
  createdUnixMs := created
  updatedUnixMs := updated
  expiresUnixMs := none
  toastVisible := true
  dndBypass := false
  toastExpiresUnixMs := none
  groupKey := "Chat"
  sourceMonitor := monitor
  snoozedUntilUnixMs := none

theorem project_correct_replacement_while_reading :
    Correct
      (run step {} [.project [message 1 10 10 "A"] false,
        .setReading "A" true 11 ∅])
      [message 1 10 12 "A", message 2 12 12 "B"] false
      [⟨"A", "named:Chat",
        [{ message 1 10 10 "A" with interactionBlocked := true }]⟩,
        ⟨"B", "named:Chat", [message 2 12 12 "B"]⟩] :=
  project_correct
    [.project [message 1 10 10 "A"] false, .setReading "A" true 11 ∅]
    [message 1 10 12 "A", message 2 12 12 "B"] false
    (by simp [DistinctRecords, message])

/-- Records that repeat an identifier are shown twice. -/
theorem project_repeats_repeated_record :
    ¬ ∀ (ops : List Op) (records : List ActiveNotification) (dnd : Bool),
      WellFormed
        ((run step {} ops).decks.project records dnd).1 := by
  intro always
  have nodup := (always [] [message 1 10 10 "A", message 1 10 10 "A"]
    false).idsNodup
  have repeated : (cards
      ((run step {} ([] : List Op)).decks.project
        [message 1 10 10 "A", message 1 10 10 "A"] false).1).map
          ActiveNotification.id = [1, 1] := by
    decide
  rw [repeated] at nodup
  simp at nodup

end Session

end Decks

end BarDaemon.Notifications
