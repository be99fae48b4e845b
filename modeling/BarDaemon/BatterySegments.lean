import BarDaemon.BatteryHistory
import BarDaemon.TransitionRuns
import Mathlib.Data.List.Chain

/-!
# Segments of the battery history

Beside each stored point stands what was observed since its predecessor. From
this it follows what the flag and the active time of a point say.
-/

namespace BarDaemon.BatteryHistory

/-! ### Continuous observations -/

/-- Whole milliseconds between two observations. -/
def elapsedMs (last current : Observation) : Nat :=
  (current.awakeNow - last.awakeNow) / 1000000

/-- The clocks did not go back and agree on a small gap. -/
structure Continues (last current : Observation) : Prop where
  wall : last.nowMs ≤ current.nowMs
  awake : last.awakeNow ≤ current.awakeNow
  gap : elapsedMs last current ≤ maxObservationGapMs
  behind : current.nowMs - last.nowMs ≤
    elapsedMs last current + clockToleranceMs
  ahead : elapsedMs last current ≤
    current.nowMs - last.nowMs + clockToleranceMs

instance (last current : Observation) : Decidable (Continues last current) :=
  decidable_of_iff
    (last.nowMs ≤ current.nowMs ∧ last.awakeNow ≤ current.awakeNow ∧
      elapsedMs last current ≤ maxObservationGapMs ∧
      current.nowMs - last.nowMs ≤
        elapsedMs last current + clockToleranceMs ∧
      elapsedMs last current ≤
        current.nowMs - last.nowMs + clockToleranceMs)
    ⟨fun ⟨wall, awake, gap, behind, ahead⟩ => ⟨wall, awake, gap, behind, ahead⟩,
      fun ⟨wall, awake, gap, behind, ahead⟩ => ⟨wall, awake, gap, behind, ahead⟩⟩

def Observation.times (observation : Observation) : Nat × Nat :=
  (observation.nowMs, observation.awakeNow)

/-- The clocks agree as the source compares them. -/
theorem agree_iff {wall awake : Nat} :
    (awake ≤ maxObservationGapMs ∧
      max wall awake - min wall awake ≤ clockToleranceMs) ↔
    awake ≤ maxObservationGapMs ∧ wall ≤ awake + clockToleranceMs ∧
      awake ≤ wall + clockToleranceMs := by
  omega

theorem activeDelta_eq (last current : Observation) :
    activeDelta (some last.times) current.nowMs current.awakeNow =
      if Continues last current then some (elapsedMs last current)
      else none := by
  simp only [activeDelta, Observation.times, Option.bind_eq_bind,
    Option.bind_some, agree_iff]
  by_cases wall : last.nowMs ≤ current.nowMs
  · by_cases awake : last.awakeNow ≤ current.awakeNow
    · rw [if_pos wall, if_pos awake]
      by_cases continues : Continues last current
      · have fits : (current.awakeNow - last.awakeNow) / 1000000 ≤ u64Max :=
          Nat.le_trans continues.gap (by decide)
        rw [if_pos continues, if_pos fits,
          if_pos ⟨continues.gap, continues.behind, continues.ahead⟩]
        rfl
      · have apart : ¬((current.awakeNow - last.awakeNow) / 1000000 ≤
              maxObservationGapMs ∧
            current.nowMs - last.nowMs ≤
              (current.awakeNow - last.awakeNow) / 1000000 +
                clockToleranceMs ∧
            (current.awakeNow - last.awakeNow) / 1000000 ≤
              current.nowMs - last.nowMs + clockToleranceMs) :=
          fun ⟨gap, behind, ahead⟩ =>
            continues ⟨wall, awake, gap, behind, ahead⟩
        rw [if_neg continues, if_neg apart]
        split <;> rfl
    · rw [if_pos wall, if_neg awake, if_neg fun continues => awake continues.awake]
      rfl
  · rw [if_neg wall, if_neg fun continues => wall continues.wall]
    rfl

/-- The last observation of a continuous stretch, and its length. -/
abbrev Stretch := Option (Observation × Nat)

/-- An event goes on with a stretch or ends it. -/
def follow : Stretch → HistoryEvent → Stretch
  | some (last, length), .observe current _ =>
      if current.state.available = true ∧ Continues last current then
        some (current, length + elapsedMs last current)
      else none
  | some stretch, .snapshot _ => some stretch
  | _, _ => none

/-- A recorded point and what happened since. -/
structure Anchor where
  point : BatteryHistoryPoint
  observation : Observation
  events : List HistoryEvent
deriving DecidableEq, Repr

def Anchor.stretch (anchor : Anchor) : Stretch :=
  anchor.events.foldl follow (some (anchor.observation, 0))

def Anchor.and (anchor : Anchor) (event : HistoryEvent) : Anchor :=
  { anchor with events := anchor.events ++ [event] }

/-- A stored point, with its stored predecessor when it was recorded and what
happened since then. -/
structure Entry where
  point : BatteryHistoryPoint
  since : Option Anchor
deriving DecidableEq, Repr

/-! ### Runs with entries -/

/-- A session with the entries of its points and those of its file. -/
structure Tracked where
  session : Session := {}
  entries : List Entry := []
  recent : Option Anchor := none
  saved : List Entry := []
  savedRecent : Option Anchor := none
deriving DecidableEq, Repr

def Entry.isOld (nowMs : Nat) (entry : Entry) : Bool :=
  BatteryHistory.isOld nowMs entry.point

section Steps

variable (hundredths : Binary64 → Binary64)

/-- The entries that an observation leaves, and the new anchor. -/
def Tracked.observed (tracked : Tracked) (observation : Observation)
    (written : Bool) : List Entry × Option Anchor :=
  let recent := tracked.recent.map (·.and (.observe observation written))
  let (store, sampled) := tracked.session.store.record hundredths observation
  let kept :=
    if observation.state.available then
      tracked.entries.dropWhile (Entry.isOld observation.nowMs)
    else tracked.entries
  match sampled, store.points.getLast? with
  | true, some point =>
      (kept ++ [⟨point, if kept.isEmpty then none else recent⟩],
        some ⟨point, observation, []⟩)
  | _, _ => (kept, recent)

def Tracked.step (tracked : Tracked) (event : HistoryEvent) : Tracked :=
  let session := tracked.session.step hundredths event
  let savedRecent := tracked.savedRecent.map (·.and event)
  match event with
  | .observe observation written =>
      let (entries, recent) := tracked.observed hundredths observation written
      let (_, sampled) := tracked.session.store.record hundredths observation
      { session := session
        entries := entries
        recent := recent
        saved := if sampled && written then entries else tracked.saved
        savedRecent := if sampled && written then recent else savedRecent }
  | .snapshot nowMs =>
      { session := session
        entries := tracked.entries.dropWhile (Entry.isOld nowMs)
        recent := tracked.recent.map (·.and event)
        saved := tracked.saved
        savedRecent := savedRecent }
  | .restart nowMs readable =>
      { session := session
        entries :=
          if readable then tracked.saved.dropWhile (Entry.isOld nowMs) else []
        recent := if readable then savedRecent else none
        saved := tracked.saved
        savedRecent := savedRecent }

end Steps

/-! ### What entries say -/

/-- A point is flagged if it was recorded after a stored predecessor and all
observations since were continuous; its active time is then later by the time
between these. -/
structure Entry.Sound (entry : Entry) : Prop where
  flag : entry.point.continuous = true ↔
    ∃ anchor, entry.since = some anchor ∧ anchor.stretch.isSome = true
  active : ∀ anchor last length, entry.since = some anchor →
    anchor.stretch = some (last, length) →
    entry.point.activeTimeMs =
      saturatingAdd anchor.point.activeTimeMs length
  bounded : entry.point.activeTimeMs ≤ u64Max
  named : entry.point.mode.isEmpty = false

/-- The point of an entry is the predecessor of the next. -/
def Entry.Precedes (first second : Entry) : Prop :=
  ∃ anchor, second.since = some anchor ∧ anchor.point = first.point

structure Chronicle (entries : List Entry) : Prop where
  sorted : entries.Pairwise fun first second =>
    first.point.activeTimeMs ≤ second.point.activeTimeMs
  linked : entries.IsChain Entry.Precedes
  sound : ∀ entry ∈ entries, entry.Sound

theorem Chronicle.nil : Chronicle [] :=
  ⟨.nil, .nil, fun _ never => (List.not_mem_nil never).elim⟩

theorem Chronicle.suffix {entries rest : List Entry}
    (chronicle : Chronicle entries) (suffix : rest <:+ entries) :
    Chronicle rest where
  sorted := chronicle.sorted.sublist suffix.sublist
  linked := chronicle.linked.suffix suffix
  sound entry among := chronicle.sound entry (suffix.subset among)

theorem Chronicle.concat {entries : List Entry} {entry : Entry}
    (chronicle : Chronicle entries)
    (later : ∀ earlier ∈ entries,
      earlier.point.activeTimeMs ≤ entry.point.activeTimeMs)
    (follows : ∀ last, entries.getLast? = some last → last.Precedes entry)
    (sound : entry.Sound) : Chronicle (entries ++ [entry]) where
  sorted := by
    rw [List.pairwise_append]
    refine ⟨chronicle.sorted, List.pairwise_singleton _ _, ?_⟩
    intro earlier among other same
    obtain rfl := List.mem_singleton.mp same
    exact later earlier among
  linked := by
    rw [List.isChain_append]
    refine ⟨chronicle.linked, .singleton _, ?_⟩
    intro last among first same
    cases same
    exact follows last among
  sound other among := by
    rcases List.mem_append.mp among with earlier | same
    · exact chronicle.sound other earlier
    · obtain rfl := List.mem_singleton.mp same
      exact sound

/-- The last entry is the point of the anchor. -/
def Ends (entries : List Entry) (recent : Option Anchor) : Prop :=
  ∀ last, entries.getLast? = some last →
    ∃ anchor, recent = some anchor ∧ anchor.point = last.point

theorem Ends.suffix {entries rest : List Entry} {recent : Option Anchor}
    (ends : Ends entries recent) (suffix : rest <:+ entries) :
    Ends rest recent := by
  intro last found
  obtain ⟨before, rfl⟩ := suffix
  apply ends last
  rw [List.getLast?_append, found]
  rfl

theorem Ends.and {entries : List Entry} {recent : Option Anchor}
    (ends : Ends entries recent) (event : HistoryEvent) :
    Ends entries (recent.map (·.and event)) := by
  intro last found
  obtain ⟨anchor, rfl, same⟩ := ends last found
  exact ⟨anchor.and event, rfl, same⟩

theorem Anchor.and_stretch (anchor : Anchor) (event : HistoryEvent) :
    (anchor.and event).stretch = follow anchor.stretch event :=
  List.foldl_concat ..

end BarDaemon.BatteryHistory
