import BarDaemon.Traces
import BarDaemon.UpdateDelivery

/-!
# Every outcome is announced once

A run is judged when it is seen finished for the first time.  While no run
that has been forgotten comes back, the announcements count each run once.
-/

namespace BarDaemon.Updates

open Std TransitionRuns

/-! ### A pass over the finished runs -/

namespace Delivery

variable {start ledger : Delivery} {entry : Entry}

@[simp]
theorem seen_updateIncidents :
    (ledger.updateIncidents entry).2.seen = ledger.seen :=
  rfl

theorem mem_seen_see {id : String} :
    id ∈ (ledger.see entry).seen ↔ entry.id = id ∨ id ∈ ledger.seen := by
  simp [see]

/-- The judgement leads to an announcement. -/
def Counts (start : Delivery) (judged : Judgement) : Bool :=
  judged.1.raises judged.2 || (!start.initial judged.1 && judged.1.completed)

theorem foldl_visit_snd (finished : List Entry) (events : List Entry) :
    (finished.foldl start.visit (ledger, events)).2 =
      events ++ ((start.judged ledger finished).filter start.Counts).map
        Prod.fst := by
  induction finished generalizing ledger events with
  | nil => simp [judged]
  | cons entry finished ih =>
      by_cases seen : entry.id ∈ ledger.seen
      · simp only [List.foldl_cons, visit, judged, if_pos seen]
        exact ih events
      · simp only [List.foldl_cons, visit, judged, if_neg seen]
        rw [ih, List.filter_cons]
        split
        · rename_i counts
          have counted : start.Counts
              (entry, ledger.incidents) = true := counts
          rw [if_pos counted]
          simp
        · rename_i passes
          have uncounted : ¬ start.Counts
              (entry, ledger.incidents) = true := passes
          rw [if_neg uncounted]

theorem mem_seen_foldl_visit {finished events : List Entry} {id : String} :
    id ∈ (finished.foldl start.visit (ledger, events)).1.seen ↔
      id ∈ ledger.seen ∨ ∃ entry ∈ finished, entry.id = id := by
  induction finished generalizing ledger events with
  | nil => simp
  | cons entry finished ih =>
      by_cases seen : entry.id ∈ ledger.seen
      · simp only [List.foldl_cons, visit, if_pos seen, ih, List.mem_cons,
          exists_eq_or_imp]
        constructor
        · rintro (known | later)
          · exact .inl known
          · exact .inr (.inr later)
        · rintro (known | rfl | later)
          · exact .inl known
          · exact .inl seen
          · exact .inr later
      · simp only [List.foldl_cons, visit, if_neg seen, ih, mem_seen_see,
          List.mem_cons, exists_eq_or_imp]
        tauto

/-- A run that is judged is one of the pass, and not in the ledger. -/
theorem of_mem_judged {finished : List Entry} {judged : Judgement}
    (member : judged ∈ start.judged ledger finished) :
    judged.1 ∈ finished ∧ judged.1.id ∉ ledger.seen := by
  induction finished generalizing ledger with
  | nil => nomatch member
  | cons entry finished ih =>
      unfold Delivery.judged at member
      split at member
      · obtain ⟨later, unseen⟩ := ih member
        exact ⟨List.mem_cons_of_mem _ later, unseen⟩
      · rename_i unseen
        rcases List.mem_cons.mp member with rfl | later
        · exact ⟨List.mem_cons_self, unseen⟩
        · obtain ⟨later, unseen⟩ := ih later
          rw [mem_seen_see, not_or] at unseen
          exact ⟨List.mem_cons_of_mem _ later, unseen.2⟩

/-- A run of the pass is in the ledger, or it is judged. -/
theorem judged_of_mem {finished : List Entry} {id : String}
    (member : id ∈ finished.map (·.id)) (unseen : id ∉ ledger.seen) :
    ∃ judged ∈ start.judged ledger finished, judged.1.id = id := by
  induction finished generalizing ledger with
  | nil => nomatch member
  | cons entry finished ih =>
      unfold Delivery.judged
      rcases List.mem_cons.mp member with rfl | later
      · rw [if_neg unseen]
        exact ⟨_, List.mem_cons_self, rfl⟩
      · split
        · exact ih later unseen
        · by_cases same : entry.id = id
          · exact ⟨_, List.mem_cons_self, same⟩
          · have still : id ∉ (ledger.see entry).seen := by
              rw [mem_seen_see, not_or]
              exact ⟨same, unseen⟩
            obtain ⟨judged, known, equal⟩ := ih later still
            exact ⟨judged, List.mem_cons_of_mem _ known, equal⟩

theorem nodup_judged (finished : List Entry) :
    ((start.judged ledger finished).map (·.1.id)).Nodup := by
  induction finished generalizing ledger with
  | nil => exact List.nodup_nil
  | cons entry finished ih =>
      unfold Delivery.judged
      split
      · exact ih
      · rw [List.map_cons, List.nodup_cons]
        refine ⟨?_, ih⟩
        intro again
        obtain ⟨judged, member, same⟩ := List.mem_map.mp again
        apply (of_mem_judged member).2
        rw [mem_seen_see]
        exact .inl same.symm

/-! ### The events of a pass -/

variable {catalog : Catalog}

/-- The runs that have been judged and are announced. -/
theorem mem_events {ledger : Delivery} :
    ∀ entry ∈ (ledger.events catalog).1, ∃ incidents,
      (entry, incidents) ∈ ledger.judged ledger (due catalog) := by
  intro entry member
  have visited := (List.mem_filter.mp member).1
  rw [foldl_visit_snd, List.nil_append] at visited
  obtain ⟨judged, counted, rfl⟩ := List.mem_map.mp visited
  exact ⟨judged.2, (List.mem_filter.mp counted).1⟩

/-- A judgement on a source that has been read before is announced when it is
a new incident or a completion. -/
theorem events_of_judged {ledger : Delivery} {entry : Entry} {incidents}
    (judged : (entry, incidents) ∈ ledger.judged ledger (due catalog))
    (later : ledger.initial entry = false)
    (announceable : entry.raises incidents = true ∨ entry.completed = true) :
    entry ∈ (ledger.events catalog).1 := by
  refine List.mem_filter.mpr ⟨?_, by simp [later]⟩
  rw [foldl_visit_snd, List.nil_append]
  refine List.mem_map.mpr ⟨(entry, incidents), List.mem_filter.mpr
    ⟨judged, ?_⟩, rfl⟩
  rcases announceable with raises | completed
  · simp [Counts, raises]
  · simp [Counts, later, completed]

theorem nodup_events (ledger : Delivery) (catalog : Catalog) :
    ((ledger.events catalog).1.map (·.id)).Nodup := by
  have all : List.Sublist ((((ledger.judged ledger (due catalog)).filter
      ledger.Counts).map Prod.fst).map (·.id))
        ((ledger.judged ledger (due catalog)).map (·.1.id)) := by
    rw [List.map_map]
    exact List.filter_sublist.map _
  have nodup : ((ledger.judged ledger (due catalog)).map (·.1.id)).Nodup :=
    nodup_judged (due catalog)
  refine (nodup.sublist all).sublist ?_
  unfold events
  dsimp only
  rw [foldl_visit_snd, List.nil_append]
  exact List.filter_sublist.map _

/-- The ledger afterwards knows the finished runs of the pass, and of the
older ones those that are still visible. -/
theorem seen_events {ledger : Delivery} {id : String}
    (member : id ∈ (ledger.events catalog).2.seen) :
    id ∈ ledger.seen ∨ ∃ entry ∈ due catalog, entry.id = id := by
  unfold events at member
  dsimp only at member
  rw [ExtTreeSet.mem_filter] at member
  obtain ⟨known, -⟩ := member
  exact mem_seen_foldl_visit.mp known

end Delivery

/-! ### Reading a trace -/

/-- The runs that have been announced. -/
def counted (trace : List UpdateMark) : List String :=
  trace.flatMap fun
    | .announced announcement => announcement.counted
    | _ => []

/-- The runs that have been judged. -/
def judgedIds (trace : List UpdateMark) : List String :=
  trace.filterMap fun
    | .finished entry _ _ => some entry.id
    | _ => none

@[simp]
theorem counted_append (first second : List UpdateMark) :
    counted (first ++ second) = counted first ++ counted second :=
  List.flatMap_append

@[simp]
theorem judgedIds_append (first second : List UpdateMark) :
    judgedIds (first ++ second) = judgedIds first ++ judgedIds second :=
  List.filterMap_append

theorem mem_judgedIds {trace : List UpdateMark} {id : String} :
    id ∈ judgedIds trace ↔
      ∃ entry initial incidents, .finished entry initial incidents ∈ trace ∧
        entry.id = id := by
  unfold judgedIds
  rw [List.mem_filterMap]
  constructor
  · rintro ⟨mark, member, read⟩
    cases mark with
    | finished entry initial incidents =>
        exact ⟨entry, initial, incidents, member, Option.some.inj read⟩
    | passed finished => nomatch read
    | announced announcement => nomatch read
  · rintro ⟨entry, initial, incidents, member, rfl⟩
    exact ⟨_, member, rfl⟩

/-- A source that has been read before is not read for the first time. -/
def UpdateMark.Ordered (past : List UpdateMark) : UpdateMark → Prop
  | .finished _ initial _ =>
      initial = true → ∀ finished, .passed finished ∉ past
  | _ => True

namespace Publisher

/-- The pass looks at the catalog. -/
def Looks (catalog : Catalog) : Prop :=
  catalog.available = true ∧ catalog.errors = []

/-- A pass succeeds, and a run that has been judged is still in the ledger. -/
def Steady (publisher : Publisher) : UpdateEvent → Prop
  | .pass worker manual effects =>
      (effects.readable = true ∧ effects.sent = true ∧
          effects.written = true) ∧
        (Looks (Catalog.load worker manual) →
          ∀ entry ∈ Delivery.due (Catalog.load worker manual),
            entry.id ∈ judgedIds publisher.trace →
              entry.id ∈ publisher.file.seen)
  | .restart _ => True

/-- What the announcements have in common with the ledger. -/
structure Accounts (file : Delivery) (publisher : Publisher) : Prop where
  judged : (judgedIds publisher.trace).Nodup
  once : (counted publisher.trace).Nodup
  within : ∀ id ∈ counted publisher.trace, id ∈ judgedIds publisher.trace
  keys : ∀ entry ∈ publisher.once, ∃ id ∈ judgedIds publisher.trace,
    entry.1 = "updates:run:" ++ id
  seen : ∀ id ∈ publisher.file.seen,
    id ∈ file.seen ∨ id ∈ judgedIds publisher.trace
  announced : ∀ entry incidents,
    .finished entry false incidents ∈ publisher.trace →
      entry.raises incidents = true ∨ entry.completed = true →
        entry.id ∈ counted publisher.trace
  passed : ∀ finished, .passed finished ∈ publisher.trace →
    ∀ entry ∈ finished, entry.id ∉ file.seen →
      entry.id ∈ judgedIds publisher.trace
  initialized : ∀ finished, .passed finished ∈ publisher.trace →
    publisher.file.initialized = true ∧
      publisher.file.manualInitialized = true
  ordered : Traces.Each UpdateMark.Ordered publisher.trace

variable {file : Delivery} {publisher : Publisher}

theorem accounts_initial (file : Delivery) (native : Bool) :
    (initial file native).Accounts file where
  judged := List.nodup_nil
  once := List.nodup_nil
  within := nofun
  keys := nofun
  seen _ member := .inl member
  announced := nofun
  passed := nofun
  initialized := nofun
  ordered := Traces.each_nil

theorem Accounts.restarted (accounts : publisher.Accounts file)
    (native : Bool) :
    Accounts file { publisher with firstScan := true, native := native } :=
  ⟨accounts.judged, accounts.once, accounts.within, accounts.keys,
    accounts.seen, accounts.announced, accounts.passed, accounts.initialized,
    accounts.ordered⟩

/-! ### A pass -/

/-- A key that the engine does not know is announced. -/
theorem announce_of_fresh {events : List Entry} {unresolved now : Nat}
    (fresh : ∀ last ∈ events, ∀ known ∈ publisher.once,
      known.1 ≠ "updates:run:" ++ last.id) :
    ∃ marks, (publisher.announce events unresolved now).trace =
        publisher.trace ++ marks ∧
      (∀ mark ∈ marks, ∃ announcement, mark = .announced announcement) ∧
      counted marks = events.map (·.id) ∧
      ∀ known ∈ (publisher.announce events unresolved now).once,
        known ∈ publisher.once ∨
          ∃ last ∈ events, known.1 = "updates:run:" ++ last.id := by
  unfold announce
  cases found : events.getLast? with
  | none =>
      rw [List.getLast?_eq_none_iff] at found
      exact ⟨[], by simp, nofun, by simp [found, counted],
        fun known member => .inl member⟩
  | some last =>
      have member := List.mem_of_getLast? found
      refine ⟨[.announced (announcement publisher.firstScan events last
        unresolved)], ?_, by simp, by simp [counted, announcement], ?_⟩
      · simp only [send, saveOnce]
        have unknown : publisher.once.any
            (·.1 == "updates:run:" ++ last.id) = false := by
          rw [List.any_eq_false]
          intro known earlier
          simpa using fresh last member known earlier
        split
        · simp [announcement, unknown]
        · rfl
      · intro known saved
        simp only [send, saveOnce] at saved
        split at saved
        · have inserted := (List.mem_filter.mp saved).1
          split at inserted
          · exact .inl inserted
          · rcases List.mem_append.mp inserted with earlier | new
            · exact .inl earlier
            · obtain rfl := List.mem_singleton.mp new
              exact .inr ⟨last, member, rfl⟩
        · exact .inl saved

theorem ordered_append {trace : List UpdateMark}
    (ordered : Traces.Each UpdateMark.Ordered trace)
    (judged : List Judgement) (initial : Entry → Bool)
    (first : ∀ entry, initial entry = true →
      ∀ finished, .passed finished ∉ trace) :
    Traces.Each UpdateMark.Ordered (trace ++ judged.map fun judged =>
      .finished judged.1 (initial judged.1) judged.2) := by
  induction judged using List.reverseRecOn with
  | nil => simpa using ordered
  | append_singleton judged last ih =>
      rw [List.map_append, ← List.append_assoc]
      refine Traces.each_concat_iff.mpr ⟨ih, ?_⟩
      intro unread finished member
      rcases List.mem_append.mp member with earlier | now
      · exact first last.1 unread finished earlier
      · obtain ⟨_, -, mark⟩ := List.mem_map.mp now
        nomatch mark

/-- What a pass that looks at the catalog adds to the trace. -/
def judgements (publisher : Publisher) (catalog : Catalog) :
    List Judgement :=
  publisher.file.judged publisher.file (Delivery.due catalog)

theorem judgedIds_note (publisher : Publisher) (catalog : Catalog) :
    judgedIds (publisher.note catalog).trace = judgedIds publisher.trace ++
      (publisher.judgements catalog).map (·.1.id) := by
  have finished : ∀ judged : List Judgement, judgedIds
      (judged.map fun judged => .finished judged.1
        (publisher.file.initial judged.1) judged.2) =
          judged.map (·.1.id) := by
    intro judged
    simp [judgedIds]
  simp only [note, judgedIds_append, finished, judgements]
  simp [judgedIds]

theorem counted_note (publisher : Publisher) (catalog : Catalog) :
    counted (publisher.note catalog).trace = counted publisher.trace := by
  simp [note, counted, List.flatMap_map]

/-- No run that is judged now has been judged before. -/
theorem judgements_new {catalog : Catalog}
    (steady : ∀ entry ∈ Delivery.due catalog,
      entry.id ∈ judgedIds publisher.trace →
        entry.id ∈ publisher.file.seen) :
    ∀ judged ∈ publisher.judgements catalog,
      judged.1.id ∉ judgedIds publisher.trace := by
  intro judged member earlier
  obtain ⟨visible, unseen⟩ := Delivery.of_mem_judged member
  exact unseen (steady judged.1 visible earlier)

theorem id_mem_judgements {catalog : Catalog} {entry : Entry}
    (member : entry ∈ (publisher.file.events catalog).1) :
    entry.id ∈ (publisher.judgements catalog).map (·.1.id) := by
  obtain ⟨incidents, judged⟩ := Delivery.mem_events entry member
  exact List.mem_map.mpr ⟨_, judged, rfl⟩

theorem mem_note {catalog : Catalog} {entry : Entry} {first : Bool}
    {incidents} :
    .finished entry first incidents ∈ (publisher.note catalog).trace ↔
      .finished entry first incidents ∈ publisher.trace ∨
        (entry, incidents) ∈ publisher.judgements catalog ∧
          publisher.file.initial entry = first := by
  simp only [note, List.mem_append, List.mem_map, List.mem_singleton,
    judgements]
  constructor
  · rintro ((earlier | ⟨judged, member, same⟩) | passed)
    · exact .inl earlier
    · injection same with entries firsts opened
      subst entries firsts opened
      exact .inr ⟨member, rfl⟩
    · nomatch passed
  · rintro (earlier | ⟨member, rfl⟩)
    · exact .inl (.inl earlier)
    · exact .inl (.inr ⟨_, member, rfl⟩)

theorem passed_mem_note {catalog : Catalog} {finished : List Entry} :
    .passed finished ∈ (publisher.note catalog).trace ↔
      .passed finished ∈ publisher.trace ∨
        finished = Delivery.due catalog := by
  simp [note]

/-- A pass that looks at the catalog and succeeds. -/
theorem Accounts.reconciled (accounts : publisher.Accounts file)
    {catalog : Catalog} {unresolved now : Nat}
    (steady : ∀ entry ∈ Delivery.due catalog,
      entry.id ∈ judgedIds publisher.trace →
        entry.id ∈ publisher.file.seen) :
    Accounts file (((publisher.note catalog).announce
      (publisher.file.events catalog).1 unresolved now).keep
        (publisher.file.events catalog).2) := by
  have new := judgements_new steady
  have unknown : ∀ last ∈ (publisher.file.events catalog).1,
      ∀ known ∈ (publisher.note catalog).once,
        known.1 ≠ "updates:run:" ++ last.id := by
    intro last member known saved same
    obtain ⟨id, judged, key⟩ := accounts.keys known saved
    have equal : id = last.id :=
      (String.append_right_inj "updates:run:").mp (key.symm.trans same)
    obtain ⟨judgement, present, ids⟩ :=
      List.mem_map.mp (id_mem_judgements member)
    apply new judgement present
    rwa [ids, ← equal]
  obtain ⟨marks, trace, announced, told, once⟩ :=
    @announce_of_fresh (publisher.note catalog) _ unresolved now unknown
  have silent : judgedIds marks = [] := by
    rw [judgedIds, List.filterMap_eq_nil_iff]
    intro mark member
    obtain ⟨announcement, rfl⟩ := announced mark member
    rfl
  have kept : ∀ {mark : UpdateMark}, mark ∈ (publisher.note catalog).trace ++
      marks → (∀ announcement, mark ≠ .announced announcement) →
        mark ∈ (publisher.note catalog).trace := by
    intro mark member other
    rcases List.mem_append.mp member with noted | told
    · exact noted
    · obtain ⟨announcement, same⟩ := announced mark told
      exact absurd same (other announcement)
  have ids : judgedIds ((publisher.note catalog).trace ++ marks) =
      judgedIds publisher.trace ++
        (publisher.judgements catalog).map (·.1.id) := by
    rw [judgedIds_append, silent, List.append_nil, judgedIds_note]
  have counts : counted ((publisher.note catalog).trace ++ marks) =
      counted publisher.trace ++
        ((publisher.file.events catalog).1).map (·.id) := by
    rw [counted_append, counted_note, told]
  refine ⟨?_, ?_, ?_, ?_, ?_, ?_, ?_, ?_, ?_⟩
  · rw [keep, trace, ids, List.nodup_append]
    refine ⟨accounts.judged, Delivery.nodup_judged _, ?_⟩
    rintro id earlier other now rfl
    obtain ⟨judgement, present, rfl⟩ := List.mem_map.mp now
    exact new judgement present earlier
  · rw [keep, trace, counts, List.nodup_append]
    refine ⟨accounts.once, Delivery.nodup_events _ _, ?_⟩
    rintro id earlier other now rfl
    obtain ⟨entry, member, rfl⟩ := List.mem_map.mp now
    obtain ⟨judgement, present, same⟩ :=
      List.mem_map.mp (id_mem_judgements member)
    apply new judgement present
    rw [same]
    exact accounts.within _ earlier
  · rw [keep, trace, counts, ids]
    intro id member
    rcases List.mem_append.mp member with earlier | now
    · exact List.mem_append_left _ (accounts.within id earlier)
    · obtain ⟨entry, present, rfl⟩ := List.mem_map.mp now
      exact List.mem_append_right _ (id_mem_judgements present)
  · rw [keep, trace, ids]
    intro known member
    rcases once known member with earlier | ⟨last, present, key⟩
    · obtain ⟨id, judged, key⟩ := accounts.keys known earlier
      exact ⟨id, List.mem_append_left _ judged, key⟩
    · exact ⟨last.id, List.mem_append_right _ (id_mem_judgements present),
        key⟩
  · rw [keep, trace, ids]
    intro id member
    have old : id ∈ publisher.file.seen → id ∈ file.seen ∨
        id ∈ judgedIds publisher.trace ++
          (publisher.judgements catalog).map (·.1.id) :=
      fun known => (accounts.seen id known).imp_right
        (List.mem_append_left _)
    rcases Delivery.seen_events member with known | ⟨entry, visible, rfl⟩
    · exact old known
    · by_cases known : entry.id ∈ publisher.file.seen
      · exact old known
      · obtain ⟨judged, present, same⟩ := Delivery.judged_of_mem
          (List.mem_map.mpr ⟨entry, visible, rfl⟩) known
        exact .inr (List.mem_append_right _
          (List.mem_map.mpr ⟨judged, present, same⟩))
  · rw [keep, trace, counts]
    intro entry incidents member announceable
    rcases mem_note.mp (kept member nofun) with earlier | ⟨judged, later⟩
    · exact List.mem_append_left _
        (accounts.announced entry incidents earlier announceable)
    · exact List.mem_append_right _ (List.mem_map.mpr ⟨entry,
        Delivery.events_of_judged judged later announceable, rfl⟩)
  · rw [keep, trace, ids]
    intro finished member entry visible unseen
    rcases passed_mem_note.mp (kept member nofun) with earlier | rfl
    · exact List.mem_append_left _
        (accounts.passed finished earlier entry visible unseen)
    · by_cases known : entry.id ∈ publisher.file.seen
      · exact List.mem_append_left _
          ((accounts.seen entry.id known).resolve_left unseen)
      · obtain ⟨judged, present, same⟩ := Delivery.judged_of_mem
          (List.mem_map.mpr ⟨entry, visible, rfl⟩) known
        exact List.mem_append_right _
          (List.mem_map.mpr ⟨judged, present, same⟩)
  · intro finished member
    exact ⟨rfl, rfl⟩
  · rw [keep, trace]
    have noted : Traces.Each UpdateMark.Ordered
        (publisher.note catalog).trace := by
      refine Traces.each_concat_iff.mpr ⟨?_, trivial⟩
      apply ordered_append accounts.ordered
      intro entry unread finished member
      obtain ⟨worker, manual⟩ := accounts.initialized finished member
      unfold Delivery.initial at unread
      rw [worker, manual] at unread
      split at unread
      · nomatch unread
      · nomatch unread
    apply noted.append
    intro mark member before longer
    obtain ⟨announcement, rfl⟩ := announced mark member
    exact trivial

theorem Accounts.step (accounts : publisher.Accounts file)
    (event : UpdateEvent) (steady : publisher.Steady event) :
    (publisher.step event).Accounts file := by
  cases event with
  | restart native => exact accounts.restarted native
  | pass worker manual effects =>
      obtain ⟨⟨readable, sent, written⟩, passes⟩ := steady
      simp only [Publisher.step, reconcile]
      split
      · exact accounts
      · rename_i looks
        have shown : Looks (Catalog.load worker manual) := by
          simpa [Looks] using looks
        simp only [readable, sent, Bool.not_true, Bool.false_and,
          Bool.false_eq_true, if_false]
        exact accounts.reconciled (passes shown)

/-- In a run of successful passes in which no forgotten run comes back, no run
is counted twice, a run that is seen finished is judged once, and it is
announced when its source had been read before and its outcome is a completion
or a new incident. -/
theorem outcomes_announced_once (file : Delivery) (native : Bool)
    (events : List UpdateEvent)
    (steady : StepsMeet step Steady (initial file native) events) :
    (counted (after file native events).trace).Nodup ∧
      (judgedIds (after file native events).trace).Nodup ∧
      (∀ finished, .passed finished ∈ (after file native events).trace →
        ∀ entry ∈ finished, entry.id ∉ file.seen →
          ∃ judged initial incidents, judged.id = entry.id ∧
            .finished judged initial incidents ∈
              (after file native events).trace ∧
            (initial = false →
              judged.raises incidents = true ∨ judged.completed = true →
              entry.id ∈ counted (after file native events).trace)) ∧
      Traces.Each UpdateMark.Ordered (after file native events).trace := by
  have preserved : ∀ publisher event, Accounts file publisher →
      Steady publisher event → Accounts file (publisher.step event) :=
    fun _ event accounts steady => accounts.step event steady
  have accounts : Accounts file (after file native events) :=
    invariant_run preserved (accounts_initial file native) steady
  refine ⟨accounts.once, accounts.judged, ?_, accounts.ordered⟩
  intro finished member entry visible unseen
  obtain ⟨judged, initial, incidents, marked, same⟩ :=
    mem_judgedIds.mp (accounts.passed finished member entry visible unseen)
  refine ⟨judged, initial, incidents, same, marked, ?_⟩
  rintro rfl announceable
  rw [← same]
  exact accounts.announced judged incidents marked announceable

def systemRun (id : String) (startedAt : Nat) : Entry :=
  ⟨id, "system", "switch", startedAt, some 0, none, [], true, "activated",
    "System updated"⟩

def source (entries : List Entry) : Except String Catalog :=
  .ok ⟨entries, true, []⟩

def succeeding : PassEffects :=
  ⟨true, true, true, 1000⟩

/-- The first pass sees no run, the second one sees one. -/
def singleRun : List UpdateEvent :=
  [.pass (source []) (source []) succeeding,
    .pass (source [systemRun "first" 1]) (source []) succeeding]

theorem outcomes_announced_once_single :
    (counted (after .default true singleRun).trace).Nodup ∧
      "first" ∈ counted (after .default true singleRun).trace := by
  have steady : StepsMeet step Steady (initial .default true) singleRun := by
    refine ⟨⟨⟨rfl, rfl, rfl⟩, fun _ => ?_⟩,
      ⟨⟨rfl, rfl, rfl⟩, fun _ => ?_⟩, trivial⟩
    · have none : Delivery.due (Catalog.load (source []) (source [])) = [] := by
        decide +kernel
      rw [none]
      nofun
    · have empty : (step (initial .default true)
          (.pass (source []) (source []) succeeding)).trace = [.passed []] :=
        rfl
      rw [empty]
      exact fun _ _ => nofun
  exact ⟨(outcomes_announced_once .default true singleRun steady).1,
    by decide +kernel⟩

/-! ### A source that is absent for a while -/

/-- A run is announced, its source is absent in the next pass, and it comes
back together with another run. -/
def absentOnce : List UpdateEvent :=
  [.pass (source []) (source []) succeeding,
    .pass (source [systemRun "first" 1]) (source []) succeeding,
    .pass (.ok .default) (source []) succeeding,
    .pass (source [systemRun "first" 1, systemRun "second" 2]) (source [])
      succeeding]

/-- The run is counted by two announcements. -/
theorem returning_run_counted_twice :
    counted (after .default true absentOnce).trace =
        ["first", "first", "second"] ∧
      ¬ (counted (after .default true absentOnce).trace).Nodup := by
  have announced : counted (after .default true absentOnce).trace =
      ["first", "first", "second"] := by
    decide +kernel
  refine ⟨announced, ?_⟩
  rw [announced]
  decide

end Publisher

end BarDaemon.Updates
