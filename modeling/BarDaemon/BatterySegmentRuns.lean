import BarDaemon.BatterySegments
import Mathlib.Data.List.DropRight

/-!
# Runs of the battery history

What entries say is kept by observations, snapshots and restarts.
-/

namespace BarDaemon.BatteryHistory

open TransitionRuns

variable {hundredths : Binary64 → Binary64}

/-! ### Single observations -/

theorem saturatingAdd_assoc (first second third : Nat) :
    saturatingAdd (saturatingAdd first second) third =
      saturatingAdd first (second + third) := by
  unfold saturatingAdd
  omega

theorem saturatingAdd_le (first second : Nat) :
    saturatingAdd first second ≤ u64Max :=
  Nat.min_le_right _ _

theorem record_unavailable {store : HistoryStore} {observation : Observation}
    (unavailable : observation.state.available = false) :
    store.record hundredths observation =
      ({ store with lastObservation := none, currentPoint := none }, false) := by
  rw [HistoryStore.record, unavailable]
  rfl

theorem record_available {store : HistoryStore} {observation : Observation}
    (available : observation.state.available = true) :
    store.record hundredths observation =
      (store.prune observation.nowMs).observe hundredths observation := by
  rw [HistoryStore.record, available]
  rfl

theorem isOld_nextPoint (store : HistoryStore) (observation : Observation) :
    isOld observation.nowMs (store.nextPoint hundredths observation) =
      false := by
  rw [isOld, cutoff, decide_eq_false_iff_not]
  show ¬observation.nowMs < observation.nowMs - retentionMs
  omega

/-- A stored point comes last. -/
theorem prune_concat (points : List BatteryHistoryPoint)
    {point : BatteryHistoryPoint} {nowMs : Nat}
    (fresh : isOld nowMs point = false) :
    (points.dropWhile (isOld nowMs) ++ [point]).dropWhile (isOld nowMs) =
      points.dropWhile (isOld nowMs) ++ [point] := by
  rw [List.dropWhile_append, List.dropWhile_idempotent]
  split
  · rename_i empty
    rw [List.isEmpty_iff.mp empty, List.dropWhile_cons_of_neg (by rw [fresh]; decide)]
    rfl
  · rfl

theorem record_sampled {store : HistoryStore} {observation : Observation}
    (available : observation.state.available = true)
    (samples : (store.prune observation.nowMs).samples observation = true) :
    store.record hundredths observation =
      ({ (store.prune observation.nowMs).noted hundredths observation with
          points := store.points.dropWhile (isOld observation.nowMs) ++
            [(store.prune observation.nowMs).nextPoint hundredths
              observation] }, true) := by
  rw [record_available available, HistoryStore.observe, if_pos samples]
  have kept := prune_concat store.points
    (@isOld_nextPoint hundredths (store.prune observation.nowMs) observation)
  simp only [HistoryStore.prune, HistoryStore.noted] at kept ⊢
  rw [kept]

theorem record_unsampled {store : HistoryStore} {observation : Observation}
    (available : observation.state.available = true)
    (skips : (store.prune observation.nowMs).samples observation = false) :
    store.record hundredths observation =
      ((store.prune observation.nowMs).noted hundredths observation,
        false) := by
  rw [record_available available, HistoryStore.observe, skips]
  rfl

/-- The point of an observation that ends a stretch is stored. -/
theorem samples_of_delta {store : HistoryStore} {observation : Observation}
    (ends : store.delta observation = none) :
    store.samples observation = true := by
  rw [HistoryStore.samples, ends]
  rfl

/-! ### The invariant -/

structure Tracked.Sound (tracked : Tracked) : Prop where
  points : tracked.session.store.points = tracked.entries.map Entry.point
  file : tracked.session.file = none ∧ tracked.saved = [] ∨
    ∃ file, tracked.session.file = some file ∧ file.version = fileVersion ∧
      file.points = tracked.saved.map Entry.point
  entries : Chronicle tracked.entries
  saved : Chronicle tracked.saved
  ends : Ends tracked.entries tracked.recent
  savedEnds : Ends tracked.saved tracked.savedRecent
  clock : tracked.session.store.lastObservation =
    tracked.recent.bind fun anchor => anchor.stretch.map (·.1.times)
  active : ∀ anchor last length, tracked.recent = some anchor →
    anchor.stretch = some (last, length) →
    tracked.session.store.activeTimeMs =
      saturatingAdd anchor.point.activeTimeMs length
  bounded : tracked.session.store.activeTimeMs ≤ u64Max
  reached : ∀ entry ∈ tracked.entries,
    entry.point.activeTimeMs ≤ tracked.session.store.activeTimeMs

theorem follow_observe (stretch : Stretch) {observation : Observation}
    (available : observation.state.available = true) (written : Bool) :
    follow stretch (.observe observation written) =
      stretch.bind fun before =>
        if Continues before.1 observation then
          some (observation, before.2 + elapsedMs before.1 observation)
        else none := by
  cases stretch with
  | none => rfl
  | some before => simp only [follow, available, true_and, Option.bind_some]

theorem follow_unavailable (stretch : Stretch) {observation : Observation}
    (unavailable : observation.state.available = false) (written : Bool) :
    follow stretch (.observe observation written) = none := by
  cases stretch with
  | none => rfl
  | some before => simp [follow, unavailable]

section Observing

variable {tracked : Tracked} {observation : Observation}

/-- The code goes on exactly where the stretch does. -/
theorem Tracked.Sound.delta_eq (sound : tracked.Sound) :
    tracked.session.store.delta observation =
      (tracked.recent.bind Anchor.stretch).bind fun before =>
        if Continues before.1 observation then
          some (elapsedMs before.1 observation)
        else none := by
  rw [HistoryStore.delta, sound.clock]
  cases tracked.recent with
  | none => rfl
  | some anchor =>
      rw [Option.bind_some, Option.bind_some]
      cases anchor.stretch with
      | none => rfl
      | some before => exact activeDelta_eq before.1 observation

/-- The stretch of an anchor after an observation. -/
theorem Tracked.Sound.stretch_and (sound : tracked.Sound)
    (available : observation.state.available = true) (written : Bool)
    {anchor : Anchor} (recent : tracked.recent = some anchor) :
    ((anchor.and (.observe observation written)).stretch.isSome =
        (tracked.session.store.delta observation).isSome) ∧
      ∀ last length,
        (anchor.and (.observe observation written)).stretch =
          some (last, length) →
        last = observation ∧
          saturatingAdd tracked.session.store.activeTimeMs
              ((tracked.session.store.delta observation).getD 0) =
            saturatingAdd anchor.point.activeTimeMs length := by
  rw [sound.delta_eq, recent, Anchor.and_stretch, follow_observe _ available,
    Option.bind_some]
  cases before : anchor.stretch with
  | none => exact ⟨rfl, nofun⟩
  | some before' =>
      obtain ⟨last, length⟩ := before'
      rw [Option.bind_some, Option.bind_some]
      by_cases continues : Continues last observation
      · rw [if_pos continues, if_pos continues,
          sound.active anchor last length recent before]
        refine ⟨rfl, ?_⟩
        rintro _ _ same
        cases same
        exact ⟨rfl, saturatingAdd_assoc _ _ _⟩
      · rw [if_neg continues, if_neg continues]
        exact ⟨rfl, nofun⟩

/-! ### Steps -/

theorem entries_dropWhile (entries : List Entry) (nowMs : Nat) :
    (entries.dropWhile (Entry.isOld nowMs)).map Entry.point =
      (entries.map Entry.point).dropWhile (isOld nowMs) := by
  rw [List.dropWhile_map]
  unfold Entry.isOld Function.comp
  rfl

theorem Tracked.Sound.unavailable (sound : tracked.Sound)
    (unavailable : observation.state.available = false) (written : Bool) :
    (tracked.step hundredths (.observe observation written)).Sound := by
  have stays : tracked.step hundredths (.observe observation written) =
      { session := {
          store := { tracked.session.store with
            lastObservation := none
            currentPoint := none }
          file := tracked.session.file }
        entries := tracked.entries
        recent := tracked.recent.map (·.and (.observe observation written))
        saved := tracked.saved
        savedRecent :=
          tracked.savedRecent.map (·.and (.observe observation written)) } := by
    simp [Tracked.step, Tracked.observed, Session.step,
      record_unavailable unavailable, unavailable]
  have ended : ∀ anchor,
      (tracked.recent.map (·.and (.observe observation written))) =
        some anchor → anchor.stretch = none := by
    intro anchor recent
    obtain ⟨before, _, rfl⟩ := Option.map_eq_some_iff.mp recent
    rw [Anchor.and_stretch, follow_unavailable _ unavailable]
  rw [stays]
  exact {
    points := sound.points
    file := sound.file
    entries := sound.entries
    saved := sound.saved
    ends := sound.ends.and _
    savedEnds := sound.savedEnds.and _
    clock := by
      cases recent :
          tracked.recent.map (·.and (.observe observation written)) with
      | none => rfl
      | some anchor =>
          rw [Option.bind_some, ended anchor recent]
          rfl
    active := by
      intro anchor last length recent some_
      rw [ended anchor recent] at some_
      cases some_
    bounded := sound.bounded
    reached := sound.reached }

/-- What is kept before an observation stands before its active time. -/
theorem Tracked.Sound.reached_next (sound : tracked.Sound) :
    ∀ entry ∈ tracked.entries.dropWhile (Entry.isOld observation.nowMs),
      entry.point.activeTimeMs ≤
        saturatingAdd tracked.session.store.activeTimeMs
          ((tracked.session.store.delta observation).getD 0) := by
  intro entry among
  have before := sound.reached entry (List.dropWhile_subset _ among)
  exact Nat.le_trans before (le_saturatingAdd sound.bounded)

theorem Tracked.Sound.unsampled (sound : tracked.Sound)
    (available : observation.state.available = true)
    (skips : (tracked.session.store.prune observation.nowMs).samples
      observation = false) (written : Bool) :
    (tracked.step hundredths (.observe observation written)).Sound := by
  have stays : tracked.step hundredths (.observe observation written) =
      { session := {
          store := (tracked.session.store.prune observation.nowMs).noted
            hundredths observation
          file := tracked.session.file }
        entries := tracked.entries.dropWhile (Entry.isOld observation.nowMs)
        recent := tracked.recent.map (·.and (.observe observation written))
        saved := tracked.saved
        savedRecent :=
          tracked.savedRecent.map (·.and (.observe observation written)) } := by
    simp [Tracked.step, Tracked.observed, Session.step,
      record_unsampled available skips, available]
  have continues : (tracked.session.store.delta observation).isSome = true := by
    rw [Option.isSome_iff_ne_none]
    intro ends
    have samples := @samples_of_delta
      (tracked.session.store.prune observation.nowMs) observation ends
    rw [samples] at skips
    cases skips
  have begun : ∃ anchor, tracked.recent = some anchor := by
    cases recent : tracked.recent with
    | none =>
        rw [sound.delta_eq, recent] at continues
        cases continues
    | some anchor => exact ⟨anchor, rfl⟩
  obtain ⟨anchor, recent⟩ := begun
  obtain ⟨goes, after⟩ := sound.stretch_and available written recent
  rw [continues, Option.isSome_iff_exists] at goes
  obtain ⟨⟨last, length⟩, stretch⟩ := goes
  obtain ⟨rfl, active⟩ := after last length stretch
  rw [stays, recent]
  exact {
    points := by
      rw [entries_dropWhile, ← sound.points]
      rfl
    file := sound.file
    entries := sound.entries.suffix (List.dropWhile_suffix _)
    saved := sound.saved
    ends := by
      rw [← recent]
      exact (sound.ends.suffix (List.dropWhile_suffix _)).and _
    savedEnds := sound.savedEnds.and _
    clock := by
      rw [Option.map_some, Option.bind_some, stretch]
      rfl
    active := by
      rintro _ other more same found
      cases same
      rw [stretch] at found
      cases found
      exact active
    bounded := saturatingAdd_le _ _
    reached := sound.reached_next }

/-- The entry of a point that is stored. -/
def Tracked.newEntry (hundredths : Binary64 → Binary64) (tracked : Tracked)
    (observation : Observation) (written : Bool) : Entry where
  point := (tracked.session.store.prune observation.nowMs).nextPoint hundredths
    observation
  since :=
    if (tracked.entries.dropWhile (Entry.isOld observation.nowMs)).isEmpty then
      none
    else tracked.recent.map (·.and (.observe observation written))

/-- The store of a point that is stored. -/
def Tracked.stored (hundredths : Binary64 → Binary64) (tracked : Tracked)
    (observation : Observation) : HistoryStore :=
  { (tracked.session.store.prune observation.nowMs).noted hundredths
      observation with
    points :=
      tracked.session.store.points.dropWhile (isOld observation.nowMs) ++
        [(tracked.session.store.prune observation.nowMs).nextPoint hundredths
          observation] }

theorem mode_shown (charging plugged : Bool) :
    (mode charging plugged).isEmpty = false := by
  cases charging <;> cases plugged <;> decide

theorem Tracked.Sound.newEntry_sound (sound : tracked.Sound)
    (available : observation.state.available = true) (written : Bool) :
    (tracked.newEntry hundredths observation written).Sound := by
  have previous : (tracked.session.store.prune
        observation.nowMs).points.getLast?.isSome =
      !(tracked.entries.dropWhile (Entry.isOld observation.nowMs)).isEmpty := by
    have kept : (tracked.session.store.prune observation.nowMs).points =
        (tracked.entries.dropWhile (Entry.isOld observation.nowMs)).map
          Entry.point := by
      rw [entries_dropWhile, ← sound.points]
      rfl
    rw [kept]
    cases tracked.entries.dropWhile (Entry.isOld observation.nowMs) with
    | nil => rfl
    | cons => simp
  have continuous : (tracked.newEntry hundredths observation
        written).point.continuous =
      ((tracked.session.store.delta observation).isSome &&
        !(tracked.entries.dropWhile
          (Entry.isOld observation.nowMs)).isEmpty) := by
    rw [← previous]
    rfl
  have ends := sound.ends.suffix
    (List.dropWhile_suffix (Entry.isOld observation.nowMs))
  constructor
  · rw [continuous, newEntry]
    cases empty : (tracked.entries.dropWhile
        (Entry.isOld observation.nowMs)).isEmpty with
    | true => simp
    | false =>
        obtain ⟨entry, last⟩ := Option.isSome_iff_exists.mp
          (List.getLast?_isSome.mpr (List.isEmpty_eq_false_iff.mp empty))
        obtain ⟨anchor, recent, _⟩ := ends entry last
        have goes := (sound.stretch_and available written recent).1
        rw [recent, ← goes]
        simp
  · intro anchor last length since stretch
    rw [newEntry] at since
    split at since
    · cases since
    · obtain ⟨before, recent, rfl⟩ := Option.map_eq_some_iff.mp since
      exact ((sound.stretch_and available written recent).2 last length
        stretch).2
  · exact saturatingAdd_le _ _
  · exact mode_shown _ _

theorem Tracked.step_sampled
    (available : observation.state.available = true)
    (samples : (tracked.session.store.prune observation.nowMs).samples
      observation = true) (written : Bool) :
    tracked.step hundredths (.observe observation written) =
      { session := {
          store := tracked.stored hundredths observation
          file :=
            if written then some (tracked.stored hundredths observation).file
            else tracked.session.file }
        entries := tracked.entries.dropWhile (Entry.isOld observation.nowMs) ++
          [tracked.newEntry hundredths observation written]
        recent := some ⟨(tracked.newEntry hundredths observation written).point,
          observation, []⟩
        saved :=
          if written then
            tracked.entries.dropWhile (Entry.isOld observation.nowMs) ++
              [tracked.newEntry hundredths observation written]
          else tracked.saved
        savedRecent :=
          if written then
            some ⟨(tracked.newEntry hundredths observation written).point,
              observation, []⟩
          else
            tracked.savedRecent.map (·.and (.observe observation written)) } := by
  simp [Tracked.step, Tracked.observed, Session.step,
    record_sampled available samples, available, Tracked.stored,
    Tracked.newEntry]

theorem Tracked.Sound.sampled (sound : tracked.Sound)
    (available : observation.state.available = true)
    (samples : (tracked.session.store.prune observation.nowMs).samples
      observation = true) (written : Bool) :
    (tracked.step hundredths (.observe observation written)).Sound := by
  have entrySound := @Tracked.Sound.newEntry_sound hundredths _ _ sound
    available written
  have points : (tracked.stored hundredths observation).points =
      (tracked.entries.dropWhile (Entry.isOld observation.nowMs) ++
        [tracked.newEntry hundredths observation written]).map Entry.point := by
    rw [List.map_append, entries_dropWhile, ← sound.points]
    rfl
  have chronicle : Chronicle
      (tracked.entries.dropWhile (Entry.isOld observation.nowMs) ++
        [tracked.newEntry hundredths observation written]) := by
    apply (sound.entries.suffix (List.dropWhile_suffix _)).concat
    · exact sound.reached_next
    · intro last found
      obtain ⟨anchor, recent, same⟩ := sound.ends.suffix
        (List.dropWhile_suffix (Entry.isOld observation.nowMs)) last found
      have some_ : (tracked.entries.dropWhile
          (Entry.isOld observation.nowMs)).isEmpty = false := by
        rw [List.isEmpty_eq_false_iff]
        intro none
        rw [none] at found
        cases found
      refine ⟨anchor.and (.observe observation written), ?_, same⟩
      rw [newEntry, some_, recent]
      rfl
    · exact entrySound
  have ends : Ends
      (tracked.entries.dropWhile (Entry.isOld observation.nowMs) ++
        [tracked.newEntry hundredths observation written])
      (some ⟨(tracked.newEntry hundredths observation written).point,
        observation, []⟩) := by
    intro last found
    rw [List.getLast?_concat] at found
    cases found
    exact ⟨_, rfl, rfl⟩
  rw [step_sampled available samples]
  exact {
    points := points
    file := by
      cases written with
      | false => exact sound.file
      | true => exact .inr ⟨_, rfl, rfl, points⟩
    entries := chronicle
    saved := by
      cases written with
      | false => exact sound.saved
      | true => exact chronicle
    ends := ends
    savedEnds := by
      cases written with
      | false => exact sound.savedEnds.and _
      | true => exact ends
    clock := rfl
    active := by
      rintro _ last length same found
      cases same
      cases found
      exact (Nat.min_eq_left entrySound.bounded).symm
    bounded := saturatingAdd_le _ _
    reached := by
      intro entry among
      rcases List.mem_append.mp among with earlier | same
      · exact sound.reached_next entry earlier
      · obtain rfl := List.mem_singleton.mp same
        exact Nat.le_refl _ }

end Observing

section Stepping

variable {tracked : Tracked}

theorem Tracked.Sound.snapshot (sound : tracked.Sound) (nowMs : Nat) :
    (tracked.step hundredths (.snapshot nowMs)).Sound where
  points := by
    show tracked.session.store.points.dropWhile (isOld nowMs) = _
    rw [sound.points, ← entries_dropWhile]
    rfl
  file := sound.file
  entries := sound.entries.suffix (List.dropWhile_suffix _)
  saved := sound.saved
  ends := (sound.ends.suffix (List.dropWhile_suffix _)).and _
  savedEnds := sound.savedEnds.and _
  clock := by
    refine sound.clock.trans ?_
    show _ = (tracked.recent.map (·.and (.snapshot nowMs))).bind _
    cases tracked.recent with
    | none => rfl
    | some anchor =>
        rw [Option.map_some, Option.bind_some, Option.bind_some,
          Anchor.and_stretch]
        cases anchor.stretch <;> rfl
  active := by
    intro anchor last length recent stretch
    obtain ⟨before, same, rfl⟩ := Option.map_eq_some_iff.mp recent
    rw [Anchor.and_stretch] at stretch
    have found : before.stretch = some (last, length) := by
      cases given : before.stretch with
      | none =>
          rw [given] at stretch
          cases stretch
      | some stretch' =>
          rw [given] at stretch
          exact stretch
    exact sound.active before last length same found
  bounded := sound.bounded
  reached entry among := sound.reached entry (List.dropWhile_subset _ among)

/-- A file of this version is loaded as it is. -/
theorem loaded_eq {file : HistoryFile} (version : file.version = fileVersion)
    {entries : List Entry} (points : file.points = entries.map Entry.point)
    (named : ∀ entry ∈ entries, entry.point.mode.isEmpty = false) :
    file.loaded = entries.map Entry.point := by
  rw [HistoryFile.loaded, version, if_neg (lt_irrefl _), points, List.map_map]
  apply List.map_congr_left
  intro entry among
  show normalizeMode entry.point = entry.point
  rw [normalizeMode, named entry among]
  rfl

theorem load_none (nowMs : Nat) : HistoryStore.load none nowMs = {} :=
  rfl

theorem load_some {file : HistoryFile} (version : file.version = fileVersion)
    (nowMs : Nat) :
    HistoryStore.load (some file) nowMs =
      { lastChargeTimestampMs := file.lastChargeTimestampMs
        points := file.loaded.dropWhile (isOld nowMs)
        activeTimeMs :=
          (file.loaded.getLast?.map (·.activeTimeMs)).getD 0 } := by
  have known : 1 ≤ file.version ∧ file.version ≤ fileVersion := by
    rw [version]
    decide
  rw [HistoryStore.load, Option.filter_some, if_pos (decide_eq_true known)]
  rfl

/-- After a restart there is no last observation. -/
theorem ended_restart (recent : Option Anchor) (nowMs : Nat) (readable : Bool) :
    ((recent.map (·.and (.restart nowMs readable))).bind fun anchor =>
      anchor.stretch.map (·.1.times)) = none := by
  cases recent with
  | none => rfl
  | some anchor =>
      rw [Option.map_some, Option.bind_some, Anchor.and_stretch]
      cases anchor.stretch <;> rfl

theorem Tracked.Sound.empty (sound : tracked.Sound) (event : HistoryEvent) :
    Tracked.Sound {
      session := { store := {}, file := tracked.session.file }
      entries := []
      recent := none
      saved := tracked.saved
      savedRecent := tracked.savedRecent.map (·.and event) } where
  points := rfl
  file := sound.file
  entries := .nil
  saved := sound.saved
  ends _ found := by cases found
  savedEnds := sound.savedEnds.and _
  clock := rfl
  active _ _ _ found := by cases found
  bounded := Nat.zero_le u64Max
  reached _ never := (List.not_mem_nil never).elim

/-- The last entry has the most active time. -/
theorem Chronicle.active_le {entries : List Entry}
    (chronicle : Chronicle entries) {last : Entry}
    (found : entries.getLast? = some last) :
    ∀ entry ∈ entries,
      entry.point.activeTimeMs ≤ last.point.activeTimeMs := by
  obtain ⟨before, rfl⟩ := List.getLast?_eq_some_iff.mp found
  intro entry among
  rcases List.mem_append.mp among with earlier | same
  · exact (List.pairwise_append.mp chronicle.sorted).2.2 entry earlier last
      (List.mem_singleton_self _)
  · obtain rfl := List.mem_singleton.mp same
    exact Nat.le_refl _

/-- The entries of the file are those of a process that loads it. -/
theorem Tracked.Sound.loaded (sound : tracked.Sound) {store : HistoryStore}
    (nowMs : Nat)
    (points : store.points =
      (tracked.saved.map Entry.point).dropWhile (isOld nowMs))
    (clock : store.lastObservation = none)
    (bounded : store.activeTimeMs ≤ u64Max)
    (reached : ∀ entry ∈ tracked.saved,
      entry.point.activeTimeMs ≤ store.activeTimeMs) :
    Tracked.Sound {
      session := { store := store, file := tracked.session.file }
      entries := tracked.saved.dropWhile (Entry.isOld nowMs)
      recent := tracked.savedRecent.map (·.and (.restart nowMs true))
      saved := tracked.saved
      savedRecent :=
        tracked.savedRecent.map (·.and (.restart nowMs true)) } where
  points := by rw [points, entries_dropWhile]
  file := sound.file
  entries := sound.saved.suffix (List.dropWhile_suffix _)
  saved := sound.saved
  ends := (sound.savedEnds.suffix (List.dropWhile_suffix _)).and _
  savedEnds := sound.savedEnds.and _
  clock := by rw [clock, ended_restart]
  active := by
    intro anchor last length recent stretch
    obtain ⟨before, _, rfl⟩ := Option.map_eq_some_iff.mp recent
    rw [Anchor.and_stretch] at stretch
    cases given : before.stretch with
    | none =>
        rw [given] at stretch
        cases stretch
    | some stretch' =>
        rw [given] at stretch
        cases stretch
  bounded := bounded
  reached entry among := reached entry (List.dropWhile_subset _ among)

theorem Tracked.Sound.restart (sound : tracked.Sound) (nowMs : Nat)
    (readable : Bool) :
    (tracked.step hundredths (.restart nowMs readable)).Sound := by
  cases readable with
  | false => exact sound.empty _
  | true =>
      have read : (HistoryStore.load tracked.session.file nowMs).points =
            (tracked.saved.map Entry.point).dropWhile (isOld nowMs) ∧
          (HistoryStore.load tracked.session.file
            nowMs).lastObservation = none ∧
          (HistoryStore.load tracked.session.file nowMs).activeTimeMs ≤
            u64Max ∧
          ∀ entry ∈ tracked.saved, entry.point.activeTimeMs ≤
            (HistoryStore.load tracked.session.file nowMs).activeTimeMs := by
        rcases sound.file with ⟨none, saved⟩ | ⟨file, given, version, points⟩
        · rw [none, saved, load_none]
          exact ⟨rfl, rfl, Nat.zero_le u64Max,
            fun _ never => (List.not_mem_nil never).elim⟩
        · have named : ∀ entry ∈ tracked.saved,
              entry.point.mode.isEmpty = false :=
            fun entry among => (sound.saved.sound entry among).named
          rw [given, load_some version, loaded_eq version points named,
            List.getLast?_map]
          refine ⟨rfl, rfl, ?_, ?_⟩
          · cases last : tracked.saved.getLast? with
            | none => exact Nat.zero_le u64Max
            | some entry =>
                exact (sound.saved.sound entry
                  (List.mem_of_getLast? last)).bounded
          · intro entry among
            cases last : tracked.saved.getLast? with
            | none =>
                rw [List.getLast?_eq_none_iff.mp last] at among
                cases among
            | some final => exact sound.saved.active_le last entry among
      exact sound.loaded nowMs read.1 read.2.1 read.2.2.1 read.2.2.2

theorem Tracked.Sound.step (sound : tracked.Sound) (event : HistoryEvent) :
    (tracked.step hundredths event).Sound := by
  cases event with
  | observe observation written =>
      cases available : observation.state.available with
      | false => exact sound.unavailable available written
      | true =>
          cases samples : (tracked.session.store.prune
              observation.nowMs).samples observation with
          | false => exact sound.unsampled available samples written
          | true => exact sound.sampled available samples written
  | snapshot nowMs => exact sound.snapshot nowMs
  | restart nowMs readable => exact sound.restart nowMs readable

end Stepping

/-! ### Runs -/

theorem sound_start : Tracked.Sound {} where
  points := rfl
  file := .inl ⟨rfl, rfl⟩
  entries := .nil
  saved := .nil
  ends _ found := by cases found
  savedEnds _ found := by cases found
  clock := rfl
  active _ _ _ found := by cases found
  bounded := Nat.zero_le u64Max
  reached _ never := (List.not_mem_nil never).elim

theorem sound_run (events : List HistoryEvent) :
    (run (Tracked.step hundredths) {} events).Sound :=
  @invariant_run _ _ _ (fun _ _ => True) Tracked.Sound
    (fun _ event sound _ => sound.step event) _ sound_start events
    (stepsMeet_of_forall (fun _ _ => trivial) _ _)

/-- The entries stand beside the session only. -/
theorem session_run (tracked : Tracked) (events : List HistoryEvent) :
    (run (Tracked.step hundredths) tracked events).session =
      run (Session.step hundredths) tracked.session events := by
  induction events generalizing tracked with
  | nil => rfl
  | cons event events ih =>
      rw [run_cons, run_cons, ih]
      congr 1
      cases event <;> rfl

/-- In every run the stored points, of the process and of its file, stand in
order of active time. A point is flagged if and only if it was recorded after
a stored predecessor and all observations since were continuous, and its active
time is then later by the time between them. Where an observation does not
continue the last one its point is stored, and is not flagged. -/
theorem history_marks_segments (events : List HistoryEvent) :
    let tracked := run (Tracked.step hundredths) {} events
    tracked.session = run (Session.step hundredths) {} events ∧
    tracked.session.store.points = tracked.entries.map Entry.point ∧
    (tracked.session.file.map HistoryFile.points).getD [] =
      tracked.saved.map Entry.point ∧
    Chronicle tracked.entries ∧ Chronicle tracked.saved ∧
    ∀ observation written, observation.state.available = true →
      ((tracked.recent.map
        (·.and (.observe observation written))).bind Anchor.stretch) = none →
      ∃ entry,
        (tracked.step hundredths
          (.observe observation written)).entries.getLast? = some entry ∧
        entry.point.timestampMs = observation.nowMs ∧
        entry.point.continuous = false := by
  have sound := @sound_run hundredths events
  have same := @session_run hundredths {} events
  revert sound same
  generalize run (Tracked.step hundredths) {} events = tracked
  intro sound same
  refine ⟨same, sound.points, ?_, sound.entries, sound.saved, ?_⟩
  · rcases sound.file with ⟨none, saved⟩ | ⟨file, given, _, points⟩
    · rw [none, saved]
      rfl
    · rw [given]
      exact points
  · intro observation written available ended
    have ends : tracked.session.store.delta observation = none := by
      cases recent : tracked.recent with
      | none =>
          rw [sound.delta_eq, recent]
          rfl
      | some anchor =>
          rw [recent] at ended
          have goes := (sound.stretch_and available written recent).1
          rw [← Option.not_isSome_iff_eq_none, ← goes]
          simpa using ended
    have samples := @samples_of_delta
      (tracked.session.store.prune observation.nowMs) observation ends
    refine ⟨tracked.newEntry hundredths observation written, ?_, rfl, ?_⟩
    · rw [Tracked.step_sampled available samples, List.getLast?_concat]
    · show (Option.isSome (tracked.session.store.delta observation) && _) = false
      rw [ends]
      rfl

/-- A battery that is half full. -/
def halfFull (nowMs awakeNow : Nat) (plugged : Bool) : Observation where
  state := {
    available := true
    charging := false
    plugged := plugged
    percentage := 50
    powerWatts := .ofNat 0
    powerAvailable := true
    timeToFullSeconds := 0 }
  nowMs := nowMs
  awakeNow := awakeNow

/-- Two observations, each after 0.6 ms, and a snapshot when the first point is
too old. -/
def shortStretch : List HistoryEvent :=
  [.observe (halfFull 1768467600000 0 false) true,
    .observe (halfFull 1768467600000 600000 false) true,
    .observe (halfFull 1768467600001 1200000 true) true,
    .snapshot (1768467600001 + retentionMs)]

/-- A point that is 1.2 ms after its predecessor has its active time; and it is
flagged when it has no stored predecessor any more. -/
theorem short_stretch_is_lost :
    (run (Session.step id) {} (shortStretch.take 3)).store.points.map
        (fun point => (point.activeTimeMs, point.continuous)) =
      [(0, false), (0, true)] ∧
    (run (Session.step id) {} shortStretch).store.points.map
        (fun point => (point.timestampMs, point.continuous)) =
      [(1768467600001, true)] := by
  decide +kernel

end BarDaemon.BatteryHistory
