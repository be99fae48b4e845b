import BarDaemon.BatterySegmentRuns

/-!
# Retention of the battery history

Pruning stops at the first point that is not old, so an old point stays where
the clock has gone back before it was recorded.
-/

namespace BarDaemon.BatteryHistory

open TransitionRuns

/-- No point is older than the retention period. -/
def Retained (nowMs : Nat) (points : List BatteryHistoryPoint) : Prop :=
  ∀ point ∈ points, isOld nowMs point = false

/-- The old points stand before the others. -/
def OldFirst (nowMs : Nat) (points : List BatteryHistoryPoint) : Prop :=
  points.Pairwise fun earlier later =>
    isOld nowMs later = true → isOld nowMs earlier = true

/-- Pruning from the front leaves no old point where these stand first. -/
theorem retained_dropWhile_iff {nowMs : Nat}
    {points : List BatteryHistoryPoint} :
    Retained nowMs (points.dropWhile (isOld nowMs)) ↔
      OldFirst nowMs points := by
  induction points with
  | nil => exact ⟨fun _ => .nil, fun _ _ never => by cases never⟩
  | cons point points ih =>
      rw [OldFirst, List.pairwise_cons]
      cases old : isOld nowMs point with
      | true =>
          rw [List.dropWhile_cons_of_pos old, ih]
          constructor
          · exact fun rest => ⟨fun _ _ _ => rfl, rest⟩
          · exact And.right
      | false =>
          rw [List.dropWhile_cons_of_neg (by rw [old]; decide), Retained,
            List.forall_mem_cons]
          constructor
          · rintro ⟨_, fresh⟩
            constructor
            · intro later among aged
              rw [fresh later among] at aged
              cases aged
            · apply ih.mp
              exact fun later among =>
                fresh later (List.dropWhile_subset _ among)
          · rintro ⟨first, _⟩
            refine ⟨old, fun later among => ?_⟩
            apply Bool.eq_false_iff.mpr
            intro aged
            have never := first later among aged
            cases never

def times (points : List BatteryHistoryPoint) : List Nat :=
  points.map BatteryHistoryPoint.timestampMs

theorem times_migrateLegacyPoints (activeTimeMs : Nat)
    (previousMs : Option Nat) (points : List BatteryHistoryPoint) :
    times (migrateLegacyPoints activeTimeMs previousMs points) =
      times points := by
  induction points generalizing activeTimeMs previousMs with
  | nil => rfl
  | cons point points ih => exact congrArg (point.timestampMs :: ·) (ih _ _)

theorem times_load (read : Option HistoryFile) (nowMs : Nat) :
    (times (HistoryStore.load read nowMs).points).Sublist
      (times ((read.map HistoryFile.points).getD [])) := by
  have normal : BatteryHistoryPoint.timestampMs ∘ normalizeMode =
      BatteryHistoryPoint.timestampMs := by
    funext point
    simp only [Function.comp_apply, normalizeMode]
    split <;> rfl
  have loaded (file : HistoryFile) : times file.loaded = times file.points := by
    rw [times, HistoryFile.loaded, List.map_map, normal]
    split
    · exact times_migrateLegacyPoints _ _ _
    · rfl
  refine ((List.dropWhile_sublist _).map _).trans ?_
  show (times (HistoryFile.loaded _)).Sublist _
  rw [loaded]
  cases read with
  | none => exact .refl _
  | some file =>
      rw [Option.filter_some]
      split
      · exact .refl _
      · exact List.nil_sublist _

variable {hundredths : Binary64 → Binary64}

theorem record_points (store : HistoryStore) {observation : Observation}
    (available : observation.state.available = true) :
    ∃ added, (∀ point ∈ added, isOld observation.nowMs point = false) ∧
      (times added).Sublist [observation.nowMs] ∧
      (store.record hundredths observation).1.points =
        store.points.dropWhile (isOld observation.nowMs) ++ added := by
  cases samples : (store.prune observation.nowMs).samples observation with
  | false =>
      rw [record_unsampled available samples]
      exact ⟨[], fun _ never => (List.not_mem_nil never).elim,
        List.nil_sublist _, (List.append_nil _).symm⟩
  | true =>
      rw [record_sampled available samples]
      refine ⟨_, fun point found => ?_, .refl _, rfl⟩
      obtain rfl := List.mem_singleton.mp found
      exact isOld_nextPoint _ _

/-- The time of an event of one process. -/
def HistoryEvent.time : HistoryEvent → Option Nat
  | .observe observation _ => some observation.nowMs
  | .snapshot nowMs => some nowMs
  | .restart _ _ => none

/-- The points of the process and of the file stand in the order of the
events. -/
theorem times_run (events : List HistoryEvent) :
    let session := run (Session.step hundredths) {} events
    (times session.store.points).Sublist
        (events.filterMap HistoryEvent.time) ∧
      (times ((session.file.map HistoryFile.points).getD [])).Sublist
        (events.filterMap HistoryEvent.time) := by
  induction events using List.reverseRecOn with
  | nil => exact ⟨.refl _, .refl _⟩
  | append_singleton events event ih =>
      obtain ⟨stored, kept⟩ := ih
      rw [run_append, List.filterMap_append]
      have more := List.sublist_append_left (events.filterMap HistoryEvent.time)
        ([event].filterMap HistoryEvent.time)
      cases event with
      | snapshot nowMs =>
          exact ⟨(((List.dropWhile_sublist _).map _).trans stored).trans more,
            kept.trans more⟩
      | restart nowMs readable =>
          refine ⟨((times_load _ nowMs).trans ?_).trans more, kept.trans more⟩
          cases readable
          · exact List.nil_sublist _
          · exact kept
      | observe observation written =>
          have next : (times (HistoryStore.record hundredths (run
              (Session.step hundredths) {} events).store
                observation).1.points).Sublist
              (events.filterMap HistoryEvent.time ++ [observation.nowMs]) := by
            cases available : observation.state.available with
            | false =>
                rw [record_unavailable available]
                exact stored.trans more
            | true =>
                obtain ⟨added, _, new, points⟩ := record_points _ available
                rw [points, times, List.map_append]
                exact (((List.dropWhile_sublist _).map _).trans stored).append
                  new
          refine ⟨next, ?_⟩
          simp only [run_cons, run_nil, Session.step]
          split
          · exact next
          · exact kept.trans more

/-- While the clock does not go back the old points stand first. -/
theorem oldFirst_of_forward {events : List HistoryEvent}
    (forward : (events.filterMap HistoryEvent.time).Pairwise (· ≤ ·))
    (nowMs : Nat) :
    OldFirst nowMs (run (Session.step hundredths) {} events).store.points := by
  have order := List.pairwise_map.mp
    (forward.sublist (@times_run hundredths events).1)
  refine order.imp fun before old => ?_
  rw [isOld, decide_eq_true_eq] at old ⊢
  omega

/-- When a point is older than the retention, it is so at a later time. -/
theorem isOld_mono {first second : Nat} (order : first ≤ second)
    {point : BatteryHistoryPoint} (fresh : isOld second point = false) :
    isOld first point = false := by
  rw [isOld, decide_eq_false_iff_not, cutoff] at fresh ⊢
  omega

theorem mem_dropWhile_of_fresh {points : List BatteryHistoryPoint}
    {point : BatteryHistoryPoint} {nowMs : Nat} (among : point ∈ points)
    (fresh : isOld nowMs point = false) :
    point ∈ points.dropWhile (isOld nowMs) := by
  rw [← @List.takeWhile_append_dropWhile _ (isOld nowMs) points] at among
  rcases List.mem_append.mp among with dropped | kept
  · rw [List.mem_takeWhile_imp dropped] at fresh
    cases fresh
  · exact kept

/-- A point stays until it is older than the retention at the time of an
event. -/
theorem point_stays {session : Session} {point : BatteryHistoryPoint}
    (among : point ∈ session.store.points) {events : List HistoryEvent}
    {nowMs : Nat}
    (earlier : ∀ event ∈ events, ∃ time, event.time = some time ∧
      time ≤ nowMs)
    (fresh : isOld nowMs point = false) :
    point ∈ (run (Session.step hundredths) session events).store.points := by
  induction events generalizing session with
  | nil => exact among
  | cons event events ih =>
      obtain ⟨⟨time, same, order⟩, others⟩ := List.forall_mem_cons.mp earlier
      rw [run_cons]
      apply ih _ others
      have young := isOld_mono order fresh
      cases event with
      | restart => cases same
      | snapshot =>
          cases same
          exact mem_dropWhile_of_fresh among young
      | observe observation written =>
          cases same
          show point ∈ (session.store.record hundredths observation).1.points
          cases available : observation.state.available with
          | false =>
              rw [record_unavailable available]
              exact among
          | true =>
              obtain ⟨added, _, _, points⟩ :=
                @record_points hundredths session.store observation available
              rw [points]
              exact List.mem_append_left _ (mem_dropWhile_of_fresh among young)

/-- After a snapshot or the record of an available battery, in any run, no
point is older than the retention if and only if the old points stood first;
the record of an unavailable one prunes nothing. No point is dropped that is
within the retention period of a time that the clock has not passed. -/
theorem retention_iff (events : List HistoryEvent) :
    let session := run (Session.step hundredths) {} events
    (∀ nowMs,
      Retained nowMs
          (session.step hundredths (.snapshot nowMs)).store.points ↔
        OldFirst nowMs session.store.points) ∧
    (∀ observation written,
      Retained observation.nowMs (session.step hundredths
          (.observe observation written)).store.points ↔
        if observation.state.available then
          OldFirst observation.nowMs session.store.points
        else Retained observation.nowMs session.store.points) ∧
    ∀ point ∈ session.store.points, ∀ nowMs later,
      (∀ event ∈ later, ∃ time, HistoryEvent.time event = some time ∧
        time ≤ nowMs) →
      cutoff nowMs ≤ point.timestampMs →
      point ∈ (run (Session.step hundredths) session later).store.points := by
  refine ⟨fun nowMs => retained_dropWhile_iff, ?_, ?_⟩
  · intro observation written
    show Retained _ (HistoryStore.record hundredths _ observation).1.points ↔ _
    cases available : observation.state.available with
    | false =>
        rw [record_unavailable available]
        rfl
    | true =>
        obtain ⟨added, fresh, _, points⟩ := @record_points hundredths
          (run (Session.step hundredths) {} events).store observation available
        rw [points, if_pos rfl, ← retained_dropWhile_iff]
        constructor
        · exact fun retained point among =>
            retained point (List.mem_append_left _ among)
        · intro retained point among
          rcases List.mem_append.mp among with kept | new
          · exact retained point kept
          · exact fresh point new
  · intro point among nowMs later earlier recorded
    apply point_stays among earlier
    rw [isOld, decide_eq_false_iff_not, Nat.not_lt]
    exact recorded

/-- The clock is ten days fast, is set right, and eight days pass. -/
def fastClock : List HistoryEvent :=
  [.observe (halfFull (1768467600000 + 10 * 86400000) 0 false) true,
    .observe (halfFull 1768467600000 1000000000 false) true,
    .snapshot (1768467600000 + 8 * 86400000)]

/-- A point of eight days ago is kept. -/
theorem fast_clock_keeps_old :
    (run (Session.step id) {} fastClock).store.points.map
        BatteryHistoryPoint.timestampMs =
      [1768467600000 + 10 * 86400000, 1768467600000] ∧
    1768467600000 < cutoff (1768467600000 + 8 * 86400000) := by
  decide +kernel

end BarDaemon.BatteryHistory
