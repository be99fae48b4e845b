import BarDaemon.MediaSelections
import BarDaemon.TransitionRuns

/-!
# What selections remember

The maps of a selection are functions of the lists of players that have been
seen: who has started and in which order, and which control mode holds.
-/

namespace BarDaemon.Media

open Std OrderedMaps TransitionRuns

/-! ### Histories, newest first -/

def playingIn (players : List MediaPlayer) (id : String) : Bool :=
  players.any fun player => player.id == id && player.playing

/-- The players that start playing in a list, unless the list before it is
empty: then nothing is known of them. -/
def starts (previous players : List MediaPlayer) : List String :=
  if previous.isEmpty then []
  else (players.filter fun player =>
    player.playing && !playingIn previous player.id).map MediaPlayer.id

/-- Who has started, in the order in which it was observed. -/
def transitions : List (List MediaPlayer) → List String
  | [] => []
  | [_] => []
  | players :: previous :: rest =>
      transitions (previous :: rest) ++ starts previous players

/-- The player is playing, and has been since a transition that was
observed. -/
def startObserved : List (List MediaPlayer) → String → Bool
  | [], _ => false
  | [_], _ => false
  | players :: previous :: rest, id =>
      playingIn players id && ((starts previous players).contains id ||
        startObserved (previous :: rest) id)

/-- The last control mode that was set for a player since it appeared. -/
def modeSince : List Happened → String → MediaControlMode
  | [], _ => .automatic
  | .seen players :: rest, id =>
      if MediaSelection.present players id then modeSince rest id
      else .automatic
  | .mode other mode :: rest, id =>
      if other = id then mode else modeSince rest id

def Happened.players? : Happened → Option (List MediaPlayer)
  | .seen players => some players
  | .mode _ _ => none

/-- The lists that have been seen. -/
def MediaService.history (service : MediaService) : List (List MediaPlayer) :=
  service.log.filterMap Happened.players?

/-! ### The last of the largest -/

theorem maxByKey_spec {Item : Type} {key : Item → Nat} {items : List Item}
    {item : Item} (found : maxByKey key items = some item) :
    item ∈ items ∧ ∀ other ∈ items, key other ≤ key item := by
  induction items generalizing item with
  | nil => cases found
  | cons first items ih =>
      rw [maxByKey] at found
      split at found
      · rename_i other rest
        obtain ⟨member, largest⟩ := ih rest
        split at found
        · rename_i smaller
          cases found
          exact ⟨List.mem_cons_of_mem first member,
            List.forall_mem_cons.mpr ⟨smaller, largest⟩⟩
        · rename_i larger
          cases found
          refine ⟨List.mem_cons_self, List.forall_mem_cons.mpr
            ⟨Nat.le_refl _, ?_⟩⟩
          intro last within
          exact Nat.le_trans (largest last within)
            (Nat.le_of_lt (Nat.lt_of_not_le larger))
      · rename_i none
        cases found
        cases items with
        | nil => simp
        | cons second items =>
            rw [maxByKey] at none
            split at none
            · split at none <;> cases none
            · cases none

theorem maxByKey_isSome {Item : Type} {key : Item → Nat} {items : List Item}
    (nonempty : items ≠ []) : (maxByKey key items).isSome = true := by
  cases items with
  | nil => exact absurd rfl nonempty
  | cons first items =>
      rw [maxByKey]
      split
      · split <;> rfl
      · rfl

/-! ### One list -/

theorem present_iff {players : List MediaPlayer} {id : String} :
    MediaSelection.present players id = true ↔
      id ∈ players.map MediaPlayer.id := by
  simp [MediaSelection.present]

theorem playingIn_iff {players : List MediaPlayer} {id : String} :
    playingIn players id = true ↔
      ∃ player ∈ players, player.id = id ∧ player.playing = true := by
  simp [playingIn]

namespace MediaSelection

/-- What the loop adds for the players that begin. -/
structure Observes (before after : MediaSelection)
    (players : List MediaPlayer) (begun : List String) : Prop where
  pinned : after.pinned = before.pinned
  modes : after.modes = before.modes
  previous : ∀ player ∈ players,
    after.previous[player.id]? = some player.playing
  kept : ∀ id ∉ players.map MediaPlayer.id,
    after.previous[id]? = before.previous[id]?
  sequence : after.sequence = min (before.sequence + begun.length) u64Max
  started : ∀ id ∉ begun, after.started[id]? = before.started[id]?
  numbered : ∀ earlier id later, begun = earlier ++ id :: later →
    after.started[id]? =
      some (min (before.sequence + earlier.length + 1) u64Max)

theorem observe_fields (selection : MediaSelection) (player : MediaPlayer) :
    (selection.observe player).pinned = selection.pinned ∧
      (selection.observe player).modes = selection.modes ∧
      (selection.observe player).initialized = selection.initialized ∧
      (selection.observe player).previous =
        selection.previous.insert player.id player.playing := by
  unfold observe
  split <;> exact ⟨rfl, rfl, rfl, rfl⟩

theorem begins_observe {selection : MediaSelection}
    {player other : MediaPlayer} (different : other.id ≠ player.id) :
    (selection.observe player).begins other = selection.begins other := by
  obtain ⟨-, -, initialized, previous⟩ := selection.observe_fields player
  unfold begins
  rw [initialized, previous, getElem?_insert, if_neg different.symm]

theorem observes_foldl {players : List MediaPlayer}
    (distinct : (players.map MediaPlayer.id).Nodup)
    {selection : MediaSelection} (bounded : selection.sequence ≤ u64Max) :
    Observes selection (players.foldl observe selection) players
      ((players.filter selection.begins).map MediaPlayer.id) := by
  induction players generalizing selection with
  | nil =>
      refine ⟨rfl, rfl, fun _ member => (nomatch member), fun _ _ => rfl, ?_,
        fun _ _ => rfl, ?_⟩
      · exact (Nat.min_eq_left bounded).symm
      · intro earlier id later split
        exact absurd split.symm (List.append_ne_nil_of_right_ne_nil _ (by simp))
  | cons player players ih =>
      obtain ⟨fresh, distinct⟩ := List.nodup_cons.mp distinct
      obtain ⟨pinned, modes, -, previous⟩ := selection.observe_fields player
      have begun : players.filter (selection.observe player).begins =
          players.filter selection.begins := by
        refine List.filter_congr fun other member => begins_observe ?_
        intro same
        exact fresh (List.mem_map.mpr ⟨other, member, same⟩)
      have foreign : player.id ∉
          (players.filter selection.begins).map MediaPlayer.id := by
        intro member
        obtain ⟨other, within, same⟩ := List.mem_map.mp member
        exact fresh (List.mem_map.mpr
          ⟨other, (List.mem_filter.mp within).1, same⟩)
      have within : (selection.observe player).sequence ≤ u64Max := by
        unfold observe
        split
        · exact Nat.min_le_right _ _
        · exact bounded
      have rest := ih distinct within
      rw [begun] at rest
      rw [List.foldl_cons]
      generalize players.foldl observe (selection.observe player) = after at *
      have everyone : ∀ other ∈ player :: players,
          after.previous[other.id]? = some other.playing := by
        refine List.forall_mem_cons.mpr ⟨?_, rest.previous⟩
        rw [rest.kept _ fresh, previous, getElem?_insert, if_pos rfl]
      have others : ∀ id ∉ (player :: players).map MediaPlayer.id,
          after.previous[id]? = selection.previous[id]? := by
        intro id absent
        obtain ⟨different, absent⟩ := not_or.mp (List.mem_cons.not.mp absent)
        rw [rest.kept id absent, previous, getElem?_insert,
          if_neg (Ne.symm different)]
      cases beginning : selection.begins player with
      | false =>
          have same : selection.observe player = { selection with
              previous := selection.previous.insert player.id
                player.playing } := by
            unfold observe
            rw [beginning]
            rfl
          rw [List.filter_cons_of_neg (by rw [beginning]; exact Bool.false_ne_true)]
          refine ⟨rest.pinned.trans pinned, rest.modes.trans modes, everyone,
            others, ?_, ?_, ?_⟩
          · rw [rest.sequence, same]
          · intro id absent
            rw [rest.started id absent, same]
          · intro earlier id later split
            rw [rest.numbered earlier id later split, same]
      | true =>
          have same : selection.observe player = { selection with
              previous := selection.previous.insert player.id player.playing
              sequence := saturatingAdd selection.sequence 1
              started := selection.started.insert player.id
                (saturatingAdd selection.sequence 1) } := by
            unfold observe
            rw [beginning]
            rfl
          rw [List.filter_cons_of_pos beginning, List.map_cons]
          refine ⟨rest.pinned.trans pinned, rest.modes.trans modes, everyone,
            others, ?_, ?_, ?_⟩
          · rw [rest.sequence, same, List.length_cons]
            unfold saturatingAdd
            dsimp only
            omega
          · intro id absent
            obtain ⟨different, absent⟩ := not_or.mp
              (List.mem_cons.not.mp absent)
            rw [rest.started id absent, same, getElem?_insert,
              if_neg (Ne.symm different)]
          · intro earlier id later split
            cases earlier with
            | nil =>
                cases split
                rw [rest.started player.id foreign, same, getElem?_insert,
                  if_pos rfl]
                rfl
            | cons first earlier =>
                obtain ⟨-, split⟩ := List.cons.inj split
                rw [rest.numbered earlier id later split, same, List.length_cons]
                unfold saturatingAdd
                dsimp only
                congr 1
                omega

end MediaSelection

end BarDaemon.Media
