import BarDaemon.MediaSelectionHistory

/-!
# Selections over runs

Every snapshot keeps the maps of the selection in step with the lists that
have been seen, whatever else happens in between.
-/

namespace BarDaemon.Media

open Std OrderedMaps TransitionRuns

/-! ### One more list -/

theorem transitions_cons (players : List MediaPlayer)
    (history : List (List MediaPlayer)) :
    transitions (players :: history) =
      transitions history ++ starts (history.headD []) players := by
  cases history with
  | nil => rfl
  | cons previous rest => rfl

theorem startObserved_cons (players : List MediaPlayer)
    (history : List (List MediaPlayer)) (id : String) :
    startObserved (players :: history) id =
      (playingIn players id &&
        ((starts (history.headD []) players).contains id ||
          startObserved history id)) := by
  cases history with
  | nil => exact (Bool.and_false _).symm
  | cons previous rest => rfl

theorem playingIn_of_distinct {players : List MediaPlayer}
    (distinct : (players.map MediaPlayer.id).Nodup) {player : MediaPlayer}
    (member : player ∈ players) :
    playingIn players player.id = player.playing := by
  rw [Bool.eq_iff_iff, playingIn_iff]
  constructor
  · rintro ⟨other, within, same, playing⟩
    rw [← List.inj_on_of_nodup_map distinct within member same]
    exact playing
  · intro playing
    exact ⟨player, member, rfl, playing⟩

theorem mem_starts_iff {previous players : List MediaPlayer}
    (distinct : (players.map MediaPlayer.id).Nodup) {id : String} :
    id ∈ starts previous players ↔ previous ≠ [] ∧
      playingIn players id = true ∧ playingIn previous id = false := by
  unfold starts
  split
  · rename_i empty
    rw [List.isEmpty_iff.mp empty]
    simp
  · rename_i more
    rw [List.mem_map]
    constructor
    · rintro ⟨player, within, rfl⟩
      obtain ⟨member, begins⟩ := List.mem_filter.mp within
      obtain ⟨playing, idle⟩ := Bool.and_eq_true_iff.mp begins
      refine ⟨fun empty => more (List.isEmpty_iff.mpr empty), ?_,
        Bool.not_eq_eq_eq_not.mp idle⟩
      rw [playingIn_of_distinct distinct member]
      exact playing
    · rintro ⟨-, playing, idle⟩
      obtain ⟨player, member, rfl, plays⟩ := playingIn_iff.mp playing
      refine ⟨player, List.mem_filter.mpr ⟨member, ?_⟩, rfl⟩
      rw [plays, idle]
      rfl

theorem starts_nodup {previous players : List MediaPlayer}
    (distinct : (players.map MediaPlayer.id).Nodup) :
    (starts previous players).Nodup := by
  unfold starts
  split
  · exact List.nodup_nil
  · exact distinct.sublist (List.filter_sublist.map _)

namespace MediaSelection

/-- The maps are those of the lists that have been seen. -/
structure Tracks (selection : MediaSelection)
    (history : List (List MediaPlayer)) : Prop where
  initialized : selection.initialized = !(history.headD []).isEmpty
  previous : ∀ id : String, (selection.previous[id]?).getD false =
    playingIn (history.headD []) id
  sequence : selection.sequence = min (transitions history).length u64Max
  present : ∀ id : String, (selection.started[id]?).isSome = true →
    id ∈ (history.headD []).map MediaPlayer.id
  started : ∀ id, startObserved history id = true →
    ∃ earlier later, transitions history = earlier ++ id :: later ∧
      id ∉ later ∧
      selection.started[id]? = some (min (earlier.length + 1) u64Max)
  observed : ∀ id, playingIn (history.headD []) id = true →
    (selection.started[id]?).isSome = true → startObserved history id = true

theorem tracks_default : Tracks .default [] := by
  refine ⟨rfl, ?_, rfl, ?_, ?_, ?_⟩
  · intro id
    rw [MediaSelection.default, ExtTreeMap.getElem?_empty]
    rfl
  · intro id some
    rw [MediaSelection.default, ExtTreeMap.getElem?_empty] at some
    cases some
  · intro id observed
    cases observed
  · intro id playing
    cases playing

/-- The maps that `Tracks` is about are those of another selection. -/
theorem Tracks.congr {first second : MediaSelection}
    {history : List (List MediaPlayer)} (tracks : Tracks first history)
    (initialized : second.initialized = first.initialized)
    (previous : second.previous = first.previous)
    (sequence : second.sequence = first.sequence)
    (started : second.started = first.started) : Tracks second history := by
  obtain ⟨one, two, three, four, five, six⟩ := tracks
  refine ⟨initialized ▸ one, ?_, sequence ▸ three, ?_, ?_, ?_⟩
  · rw [previous]
    exact two
  · rw [started]
    exact four
  · rw [started]
    exact five
  · rw [started]
    exact six

theorem filter_begins {selection : MediaSelection}
    {history : List (List MediaPlayer)} (tracks : Tracks selection history)
    (players : List MediaPlayer) :
    (players.filter (selection.prune players).begins).map MediaPlayer.id =
      starts (history.headD []) players := by
  have begins : ∀ player ∈ players, (selection.prune players).begins player =
      (!(history.headD []).isEmpty && (player.playing &&
        !playingIn (history.headD []) player.id)) := by
    intro player member
    have here : present players player.id = true :=
      present_iff.mpr (List.mem_map.mpr ⟨player, member, rfl⟩)
    have kept : (selection.prune players).previous[player.id]? =
        selection.previous[player.id]? := by
      unfold prune
      dsimp only
      rw [ExtTreeMap.getElem?_filter', here]
      cases selection.previous[player.id]? <;> rfl
    unfold MediaSelection.begins
    rw [kept, tracks.previous, Bool.and_assoc]
    exact congrArg (· && _) tracks.initialized
  rw [List.filter_congr begins, starts]
  cases (history.headD []).isEmpty with
  | true => simp
  | false => simp

theorem tracks_snapshot {selection : MediaSelection}
    {history : List (List MediaPlayer)} (tracks : Tracks selection history)
    {players : List MediaPlayer}
    (distinct : (players.map MediaPlayer.id).Nodup) :
    Tracks (selection.snapshot players).1 (players :: history) := by
  have bounded : (selection.prune players).sequence ≤ u64Max := by
    change selection.sequence ≤ u64Max
    rw [tracks.sequence]
    exact Nat.min_le_right _ _
  have observes := observes_foldl distinct bounded
  rw [filter_begins tracks players] at observes
  have counted : (selection.prune players).sequence =
      min (transitions history).length u64Max :=
    tracks.sequence
  have kept : ∀ id : String, (selection.prune players).started[id]? =
      (selection.started[id]?).filter fun _ => present players id := by
    intro id
    unfold prune
    exact ExtTreeMap.getElem?_filter'
  have here : ∀ id, playingIn players id = true →
      present players id = true := by
    intro id playing
    obtain ⟨player, member, same, -⟩ := playingIn_iff.mp playing
    exact present_iff.mpr (List.mem_map.mpr ⟨player, member, same⟩)
  unfold snapshot
  dsimp only
  generalize players.foldl observe (selection.prune players) = after
    at observes ⊢
  refine ⟨?_, ?_, ?_, ?_, ?_, ?_⟩
  · change (!(players.map after.withMode).isEmpty) = !players.isEmpty
    rw [List.isEmpty_map]
  · intro id
    change (after.previous[id]?).getD false = playingIn players id
    by_cases member : id ∈ players.map MediaPlayer.id
    · obtain ⟨player, within, rfl⟩ := List.mem_map.mp member
      rw [observes.previous player within,
        playingIn_of_distinct distinct within]
      rfl
    · have absent : present players id = false :=
        Bool.eq_false_iff.mpr fun found => member (present_iff.mp found)
      have idle : playingIn players id = false :=
        Bool.eq_false_iff.mpr fun playing => by
          rw [here id playing] at absent
          cases absent
      rw [observes.kept id member, idle]
      unfold prune
      dsimp only
      rw [ExtTreeMap.getElem?_filter', absent]
      cases selection.previous[id]? <;> rfl
  · change after.sequence = _
    rw [observes.sequence, counted, transitions_cons, List.length_append]
    omega
  · intro id some
    change id ∈ players.map MediaPlayer.id
    by_cases begun : id ∈ starts (history.headD []) players
    · exact present_iff.mp (here id ((mem_starts_iff distinct).mp begun).2.1)
    · change (after.started[id]?).isSome = true at some
      rw [observes.started id begun, kept] at some
      cases found : present players id with
      | true => exact present_iff.mp found
      | false =>
          rw [found] at some
          cases started : selection.started[id]? <;> rw [started] at some <;>
            cases some
  · intro id begun
    change ∃ earlier later, _ ∧ _ ∧ after.started[id]? = _
    rw [startObserved_cons] at begun
    obtain ⟨playing, since⟩ := Bool.and_eq_true_iff.mp begun
    rw [transitions_cons]
    by_cases now : id ∈ starts (history.headD []) players
    · obtain ⟨earlier, later, split⟩ := List.append_of_mem now
      refine ⟨transitions history ++ earlier, later, ?_, ?_, ?_⟩
      · rw [split, List.append_assoc]
      · have unique := @starts_nodup (history.headD []) players distinct
        rw [split] at unique
        exact (List.nodup_cons.mp (List.nodup_append.mp unique).2.1).1
      · rw [observes.numbered earlier id later split, counted,
          List.length_append]
        congr 1
        omega
    · have earlier := since
      rw [Bool.or_eq_true, List.contains_iff_mem] at earlier
      obtain ⟨earlier, later, split, last, started⟩ :=
        tracks.started id (earlier.resolve_left now)
      refine ⟨earlier, later ++ starts (history.headD []) players, ?_, ?_, ?_⟩
      · rw [split, List.append_assoc]
        rfl
      · rw [List.mem_append, not_or]
        exact ⟨last, now⟩
      · rw [observes.started id now, kept, started, here id playing]
        rfl
  · intro id playing some
    change playingIn players id = true at playing
    change (after.started[id]?).isSome = true at some
    rw [startObserved_cons, playing, Bool.true_and, Bool.or_eq_true,
      List.contains_iff_mem]
    by_cases now : id ∈ starts (history.headD []) players
    · exact .inl now
    · rw [observes.started id now, kept, here id playing] at some
      have before : (selection.started[id]?).isSome = true := by
        cases started : selection.started[id]? with
        | none =>
            rw [started] at some
            cases some
        | some value => rfl
      have shown := tracks.present id before
      refine .inr (tracks.observed id ?_ before)
      by_contra idle
      refine now ((mem_starts_iff distinct).mpr ⟨?_, playing,
        Bool.not_eq_true _ ▸ idle⟩)
      intro empty
      rw [empty] at shown
      cases shown

/-! ### Who is active -/

/-- The last occurrence in a list is not before any other one. -/
theorem length_le_of_last {items before after front back : List String}
    {item : String} (split : items = before ++ item :: after)
    (last : item ∉ after) (other : items = front ++ item :: back) :
    front.length ≤ before.length := by
  by_contra longer
  have here : items[front.length]? = some item := by
    rw [other, List.getElem?_append_right (Nat.le_refl _), Nat.sub_self]
    rfl
  obtain ⟨more, length⟩ : ∃ more, front.length = before.length + (more + 1) :=
    ⟨front.length - before.length - 1, by omega⟩
  rw [split, length, List.getElem?_append_right (Nat.le_add_right _ _),
    Nat.add_sub_cancel_left, List.getElem?_cons_succ] at here
  exact last (List.mem_of_getElem? here)

theorem playingIn_withMode (selection : MediaSelection)
    (players : List MediaPlayer) (id : String) :
    playingIn (players.map selection.withMode) id = playingIn players id := by
  unfold playingIn
  rw [List.any_map]
  rfl

/-- Without a pin, the player whose transition was observed last is active. -/
theorem active_of_last {selection : MediaSelection}
    {history : List (List MediaPlayer)} (tracks : Tracks selection history)
    (unpinned : selection.pinned = none)
    (short : (transitions history).length ≤ u64Max)
    {players : List MediaPlayer}
    (same : ∀ id, playingIn players id = playingIn (history.headD []) id)
    {id : String} (last : (transitions history).reverse.find?
      (startObserved history) = some id) :
    selection.active players = some id := by
  have observed := List.find?_some last
  have playing : ∀ other, startObserved history other = true →
      playingIn (history.headD []) other = true := by
    intro other observed
    cases history with
    | nil => cases observed
    | cons first rest =>
        rw [startObserved_cons] at observed
        exact (Bool.and_eq_true_iff.mp observed).1
  have candidates : ∀ other, startObserved history other = true →
      ∃ player ∈ players, player.id = other ∧
        (selection.started.contains player.id &&
          (!true || player.playing)) = true := by
    intro other observed
    obtain ⟨player, member, rfl, plays⟩ :=
      playingIn_iff.mp ((same other).trans (playing other observed))
    obtain ⟨_, _, _, _, started⟩ := tracks.started player.id observed
    refine ⟨player, member, rfl, ?_⟩
    have contained : selection.started.contains player.id = true := by
      exact contains_eq_isSome.trans (congrArg Option.isSome started)
    rw [contained, plays]
    rfl
  obtain ⟨witness, member, -, chosen⟩ := candidates id observed
  have nonempty : (players.filter fun player =>
      selection.started.contains player.id && (!true || player.playing)) ≠
        [] :=
    List.ne_nil_of_mem (List.mem_filter.mpr ⟨member, chosen⟩)
  obtain ⟨player, found⟩ := Option.isSome_iff_exists.mp
    (@maxByKey_isSome _
      (fun player => (selection.started[player.id]?).getD 0) _ nonempty)
  obtain ⟨within, largest⟩ := maxByKey_spec found
  obtain ⟨listed, kept⟩ := List.mem_filter.mp within
  obtain ⟨contained, plays⟩ := Bool.and_eq_true_iff.mp kept
  have active : selection.active players = some player.id := by
    rw [MediaSelection.active, unpinned, recent, found]
    rfl
  have begun : startObserved history player.id = true := by
    refine tracks.observed player.id ?_
      (contains_eq_isSome.symm.trans contained)
    rw [← same, playingIn_iff]
    exact ⟨player, listed, rfl, plays⟩
  obtain ⟨earlier, later, split, once, number⟩ :=
    tracks.started player.id begun
  have none : ∀ other ∈ later.reverse, ¬ startObserved history other = true := by
    intro other member observed
    obtain ⟨before, after, split', once', number'⟩ :=
      tracks.started other observed
    obtain ⟨rival, within', rfl, candidate⟩ := candidates other observed
    have bound := largest rival (List.mem_filter.mpr ⟨within', candidate⟩)
    rw [number, number', Option.getD_some, Option.getD_some] at bound
    have total := congrArg List.length split
    have total' := congrArg List.length split'
    rw [List.length_append, List.length_cons] at total total'
    rw [List.mem_reverse] at member
    obtain ⟨front, back, tail⟩ := List.append_of_mem member
    have again : transitions history =
        (earlier ++ player.id :: front) ++ rival.id :: back := by
      rw [split, tail, List.append_assoc]
      rfl
    have later := length_le_of_last split' once' again
    rw [List.length_append, List.length_cons] at later
    omega
  have picked : (transitions history).reverse.find? (startObserved history) =
      some player.id := by
    rw [split, List.reverse_append, List.reverse_cons, List.append_assoc,
      List.find?_append, List.find?_eq_none.mpr none, Option.none_or,
      List.singleton_append, List.find?_cons_of_pos begun]
  rw [active]
  exact picked.symm.trans last

end MediaSelection

end BarDaemon.Media
