import BarDaemon.MediaSelectionRuns
import Mathlib.Data.List.Rotate

/-!
# Laws of the active player

In every run: who is active, when a pin changes, which control mode a player
has, and that cycling goes through all players.
-/

namespace BarDaemon.Media

open Std OrderedMaps TransitionRuns

namespace MediaSelection

theorem mem_of_selectActivePlayer {players : List MediaPlayer}
    {player : MediaPlayer} (found : selectActivePlayer players = some player) :
    player ∈ players := by
  unfold selectActivePlayer at found
  obtain one | ⟨-, found⟩ := Option.or_eq_some_iff.mp found
  · exact List.mem_of_find?_eq_some one
  · obtain two | ⟨-, found⟩ := Option.or_eq_some_iff.mp found
    · exact List.mem_of_find?_eq_some two
    · obtain three | ⟨-, four⟩ := Option.or_eq_some_iff.mp found
      · exact List.mem_of_find?_eq_some three
      · exact List.mem_of_head? four

theorem mem_of_recent {selection : MediaSelection} {players : List MediaPlayer}
    {playingOnly : Bool} {player : MediaPlayer}
    (found : selection.recent players playingOnly = some player) :
    player ∈ players :=
  (List.mem_filter.mp (maxByKey_spec found).1).1

theorem mem_of_active {selection : MediaSelection} {players : List MediaPlayer}
    (pinned : ∀ id, selection.pinned = some id →
      id ∈ players.map MediaPlayer.id) {id : String}
    (active : selection.active players = some id) :
    id ∈ players.map MediaPlayer.id := by
  unfold MediaSelection.active at active
  split at active
  · rename_i pin
    cases active
    exact pinned _ pin
  · obtain ⟨player, found, rfl⟩ := Option.map_eq_some_iff.mp active
    refine List.mem_map.mpr ⟨player, ?_, rfl⟩
    obtain one | ⟨-, found⟩ := Option.or_eq_some_iff.mp found
    · exact mem_of_recent one
    · obtain two | ⟨-, found⟩ := Option.or_eq_some_iff.mp found
      · exact List.mem_of_find?_eq_some two
      · obtain three | ⟨-, four⟩ := Option.or_eq_some_iff.mp found
        · exact mem_of_recent three
        · exact mem_of_selectActivePlayer four

theorem active_eq_none_iff {selection : MediaSelection}
    {players : List MediaPlayer}
    (pinned : ∀ id, selection.pinned = some id →
      id ∈ players.map MediaPlayer.id) :
    selection.active players = none ↔ players = [] := by
  constructor
  · intro absent
    unfold MediaSelection.active at absent
    split at absent
    · cases absent
    · cases players with
      | nil => rfl
      | cons player players =>
          simp [selectActivePlayer] at absent
  · intro empty
    subst empty
    cases active : selection.active [] with
    | none => rfl
    | some id => exact absurd (mem_of_active pinned active) (by simp)

/-- What a snapshot publishes. -/
theorem snapshot_spec {selection : MediaSelection} {players : List MediaPlayer}
    (distinct : (players.map MediaPlayer.id).Nodup)
    (bounded : selection.sequence ≤ u64Max) :
    (selection.snapshot players).1.pinned =
        selection.pinned.filter (present players) ∧
      (selection.snapshot players).1.modes =
        selection.modes.filter (fun id _ => present players id) ∧
      (selection.snapshot players).2.players =
        players.map (selection.snapshot players).1.withMode := by
  have observes := @observes_foldl players distinct (selection.prune players)
    bounded
  unfold snapshot
  dsimp only
  generalize players.foldl observe (selection.prune players) = after
    at observes ⊢
  exact ⟨observes.pinned, observes.modes, rfl⟩

end MediaSelection

namespace MediaService

open MediaSelection

structure Sound (service : MediaService) : Prop where
  tracks : service.selection.Tracks service.history
  modes : ∀ id : String, (service.selection.modes[id]?).getD .automatic =
    modeSince service.log id
  distinct : (service.published.players.map MediaPlayer.id).Nodup
  pinned : service.published.error = none → ∀ id,
    service.selection.pinned = some id →
      id ∈ service.published.players.map MediaPlayer.id
  active : service.published.error = none →
    service.published.activePlayer =
      service.selection.active service.published.players
  pin : service.published.error = none →
    service.published.pinnedPlayer = service.selection.pinned
  playing : service.published.error = none → ∀ id,
    playingIn service.published.players id =
      playingIn (service.history.headD []) id
  shown : ∀ player ∈ service.published.players,
    player.controlMode = modeSince service.log player.id
  failed : service.published.error ≠ none →
    service.published.players = [] ∧ service.published.activePlayer = none

theorem sound_initial : Sound initial where
  tracks := tracks_default
  modes id := by
    change ((∅ : ExtTreeMap String MediaControlMode)[id]?).getD _ = _
    rw [ExtTreeMap.getElem?_empty]
    rfl
  distinct := List.nodup_nil
  pinned _ id pinned := nomatch pinned
  active _ := rfl
  pin _ := rfl
  playing _ _ := rfl
  shown player member := nomatch member
  failed error := absurd rfl error

theorem map_id_withMode (selection : MediaSelection)
    (players : List MediaPlayer) :
    (players.map selection.withMode).map MediaPlayer.id =
      players.map MediaPlayer.id := by
  rw [List.map_map]
  rfl

theorem sound_publish {service : MediaService}
    (tracks : service.selection.Tracks service.history)
    (modes : ∀ id : String, (service.selection.modes[id]?).getD .automatic =
      modeSince service.log id)
    {players : List MediaPlayer}
    (distinct : (players.map MediaPlayer.id).Nodup) :
    Sound (service.publish players) := by
  have bounded : service.selection.sequence ≤ u64Max := by
    rw [tracks.sequence]
    exact Nat.min_le_right _ _
  obtain ⟨pinned, kept, shown⟩ := snapshot_spec distinct bounded
  have modes' : ∀ id : String, (((service.selection.snapshot
      players).1.modes)[id]?).getD .automatic =
        modeSince (.seen players :: service.log) id := by
    intro id
    rw [kept, ExtTreeMap.getElem?_filter', modeSince, ← modes id]
    cases present players id with
    | true => cases service.selection.modes[id]? <;> rfl
    | false => cases service.selection.modes[id]? <;> rfl
  refine ⟨tracks_snapshot tracks distinct, modes', ?_, ?_, fun _ => rfl,
    fun _ => rfl, ?_, ?_, fun failed => absurd rfl failed⟩
  · change (((service.selection.snapshot players).2.players).map _).Nodup
    rw [shown, map_id_withMode]
    exact distinct
  · intro _ id pin
    change id ∈ ((service.selection.snapshot players).2.players).map _
    rw [shown, map_id_withMode]
    change (service.selection.snapshot players).1.pinned = some id at pin
    rw [pinned] at pin
    exact present_iff.mp (Option.filter_eq_some_iff.mp pin).2
  · intro _ id
    change playingIn (service.selection.snapshot players).2.players id =
      playingIn players id
    rw [shown, playingIn_withMode]
  · intro player member
    change player ∈ (service.selection.snapshot players).2.players at member
    rw [shown] at member
    obtain ⟨raw, -, rfl⟩ := List.mem_map.mp member
    exact modes' raw.id

/-- The selection with another pin. -/
def repin (service : MediaService) (id : Option String) : MediaService :=
  { service with selection := { service.selection with pinned := id } }

theorem sound_repin {service : MediaService} (sound : Sound service)
    (id : Option String) :
    Sound ((service.repin id).publish service.published.players) :=
  @sound_publish (service.repin id) (sound.tracks.congr rfl rfl rfl rfl)
    sound.modes _ sound.distinct

theorem remember_spec (selection : MediaSelection) (id other : String)
    (mode : MediaControlMode) :
    ((selection.remember id mode).modes[other]?).getD .automatic =
      if id = other then mode
      else (selection.modes[other]?).getD .automatic := by
  unfold remember
  dsimp only
  split
  · rename_i automatic
    rw [getElem?_erase]
    split
    · exact automatic.symm
    · rfl
  · rw [getElem?_insert]
    split <;> rfl

theorem sound_setMode {service after : MediaService} (sound : Sound service)
    {id : String} {mode : MediaControlMode}
    (done : service.setMode id mode = .ok after) : Sound after := by
  by_cases here : present service.published.players id = true
  · rw [setMode, if_pos here] at done
    cases done
    refine @sound_publish ⟨service.selection.remember id mode,
      service.published, .mode id mode :: service.log⟩
      (sound.tracks.congr rfl rfl rfl rfl) ?_ _ sound.distinct
    intro other
    rw [remember_spec, sound.modes]
    rfl
  · rw [setMode, if_neg here] at done
    cases done

theorem sound_step {service : MediaService} (sound : Sound service)
    (event : MediaEvent) : Sound (service.step event) := by
  unfold step
  split
  · rename_i after done
    cases event with
    | observed players =>
        cases done
        exact sound_publish sound.tracks sound.modes players.distinct
    | failed error =>
        cases done
        exact ⟨sound.tracks, sound.modes, List.nodup_nil, nofun, nofun, nofun,
          nofun, fun _ member => (nomatch member), fun _ => ⟨rfl, rfl⟩⟩
    | select id =>
        unfold act select at done
        dsimp only at done
        split at done
        · cases done
        · cases done
          exact sound_repin sound id
    | cycle =>
        unfold act cycle at done
        dsimp only at done
        split at done
        · rename_i id next
          cases done
          exact sound_repin sound (some id)
        · cases done
    | setMode id mode => exact sound_setMode sound done
  · exact sound

theorem sound_run (events : List MediaEvent) :
    Sound (run step initial events) := by
  have always : StepsMeet step (fun _ _ => True) initial events :=
    stepsMeet_of_forall (fun _ _ => trivial) _ events
  have preserved : ∀ (service : MediaService) (event : MediaEvent),
      Sound service → True → Sound (step service event) :=
    fun _ event sound _ => sound_step sound event
  exact invariant_run preserved sound_initial always

/-! ### Pins -/

def MediaEvent.pins : MediaEvent → Bool
  | .select _ => true
  | .cycle => true
  | _ => false

/-- Nothing but a selection changes a pin, as long as its player is
observed. -/
theorem pinned_step {service : MediaService} (sound : Sound service)
    {event : MediaEvent} (other : MediaEvent.pins event = false) :
    (service.step event).selection.pinned = service.selection.pinned ∨
      ∃ players id, event = .observed players ∧
        service.selection.pinned = some id ∧
        id ∉ players.list.map MediaPlayer.id ∧
        (service.step event).selection.pinned = none := by
  have bounded : service.selection.sequence ≤ u64Max := by
    rw [sound.tracks.sequence]
    exact Nat.min_le_right _ _
  cases event with
  | observed players =>
      obtain ⟨pinned, -, -⟩ := snapshot_spec players.distinct bounded
      change (service.selection.snapshot players.list).1.pinned = _ ∨ _
      cases pin : service.selection.pinned with
      | none =>
          rw [pinned, pin]
          exact .inl rfl
      | some id =>
          rw [pin] at pinned
          by_cases here : present players.list id = true
          · rw [Option.filter_some, if_pos here] at pinned
            exact .inl pinned
          · rw [Option.filter_some, if_neg here] at pinned
            exact .inr ⟨players, id, rfl, rfl,
              fun member => here (present_iff.mpr member), pinned⟩
  | failed error => exact .inl rfl
  | select id => cases other
  | cycle => cases other
  | setMode id mode =>
      refine .inl ?_
      unfold step act setMode
      dsimp only
      split
      · rename_i after done
        split at done
        · rename_i here
          cases done
          obtain ⟨pinned, -, -⟩ := @snapshot_spec
            (service.selection.remember id mode) _ sound.distinct bounded
          refine pinned.trans ?_
          change service.selection.pinned.filter
            (present service.published.players) = service.selection.pinned
          cases pin : service.selection.pinned with
          | none => rfl
          | some holder =>
              have healthy : service.published.error = none := by
                by_contra failed
                rw [(sound.failed failed).1] at here
                cases here
              rw [Option.filter_some, if_pos (present_iff.mpr
                (sound.pinned healthy holder pin))]
        · cases done
      · rfl

/-- The event is no selection, and the player is still there. -/
def Stays (id : String) : MediaEvent → Prop
  | .observed players => id ∈ players.list.map MediaPlayer.id
  | event => MediaEvent.pins event = false

theorem pinned_run {id : String} (events : List MediaEvent)
    {service : MediaService} (sound : Sound service)
    (pinned : service.selection.pinned = some id)
    (stays : ∀ event ∈ events, Stays id event) :
    (run step service events).selection.pinned = some id := by
  induction events generalizing service with
  | nil => exact pinned
  | cons event events ih =>
      obtain ⟨first, rest⟩ := List.forall_mem_cons.mp stays
      refine ih (sound_step sound event) ?_ rest
      have quiet : MediaEvent.pins event = false := by
        cases event with
        | observed players => rfl
        | failed error => rfl
        | select id => cases first
        | cycle => cases first
        | setMode id mode => rfl
      obtain kept | ⟨players, other, rfl, holds, gone, -⟩ :=
        pinned_step sound quiet
      · exact kept.trans pinned
      · cases pinned.symm.trans holds
        exact absurd first gone

/-! ### Cycling -/

/-- What one cycle makes active. -/
theorem cycle_active {service : MediaService} (sound : Sound service)
    {index : Nat} (several : 2 ≤ service.published.players.length)
    (current : service.published.activePlayer =
      (service.published.players.map MediaPlayer.id)[index]?)
    (inside : index < service.published.players.length) :
    Sound (service.step .cycle) ∧
      (service.step .cycle).published.players.map MediaPlayer.id =
        service.published.players.map MediaPlayer.id ∧
      (service.step .cycle).published.activePlayer =
        (service.published.players.map MediaPlayer.id)[
          (index + 1) % service.published.players.length]? := by
  have wraps := Nat.mod_lt (index + 1)
    (by omega : 0 < service.published.players.length)
  have found : service.published.players.findIdx? (fun player =>
      some player.id == service.published.activePlayer) = some index := by
    rw [List.findIdx?_eq_some_iff_getElem]
    refine ⟨inside, ?_, ?_⟩
    · rw [current, List.getElem?_map, List.getElem?_eq_getElem inside]
      exact beq_self_eq_true _
    · intro before earlier
      rw [current, List.getElem?_map, List.getElem?_eq_getElem inside]
      intro same
      have equal := Option.some.inj (beq_iff_eq.mp same)
      have there := List.inj_on_of_nodup_map sound.distinct
        (List.getElem_mem _) (List.getElem_mem _) equal
      have same := (sound.distinct.of_map _).getElem_inj_iff.mp there
      omega
  have next : nextPlayerId service.published.players
      service.published.activePlayer =
        some service.published.players[
          (index + 1) % service.published.players.length].id := by
    rw [nextPlayerId, if_neg (by omega), found]
    dsimp only
    rw [List.getElem?_eq_getElem wraps]
    rfl
  have stepped : service.step .cycle = (service.repin
      (some service.published.players[
        (index + 1) % service.published.players.length].id)).publish
          service.published.players := by
    rw [step, act, cycle]
    dsimp only
    rw [next]
    rfl
  have sound' := sound_step sound .cycle
  have bounded : service.selection.sequence ≤ u64Max := by
    rw [sound.tracks.sequence]
    exact Nat.min_le_right _ _
  obtain ⟨pinned, -, shown⟩ := @snapshot_spec (service.repin
    (some service.published.players[
      (index + 1) % service.published.players.length].id)).selection _
    sound.distinct bounded
  refine ⟨sound', ?_, ?_⟩
  · rw [stepped]
    change ((snapshot _ service.published.players).2.players).map _ = _
    rw [shown, map_id_withMode]
  · have held : (service.step .cycle).selection.pinned =
        some service.published.players[
          (index + 1) % service.published.players.length].id := by
      rw [stepped]
      refine pinned.trans ?_
      change (some _).filter _ = _
      rw [Option.filter_some, if_pos (present_iff.mpr (List.mem_map.mpr
        ⟨_, List.getElem_mem wraps, rfl⟩))]
    have healthy : (service.step .cycle).published.error = none := by
      rw [stepped]
      rfl
    rw [sound'.active healthy, MediaSelection.active, held, List.getElem?_map,
      List.getElem?_eq_getElem wraps]
    rfl

theorem cycles_active (count : Nat) {service : MediaService}
    (sound : Sound service) {index : Nat}
    (several : 2 ≤ service.published.players.length)
    (current : service.published.activePlayer =
      (service.published.players.map MediaPlayer.id)[index]?)
    (inside : index < service.published.players.length) :
    (run step service (List.replicate count .cycle)).published.activePlayer =
      (service.published.players.map MediaPlayer.id)[
        (index + count) % service.published.players.length]? := by
  induction count generalizing service index with
  | zero =>
      rw [Nat.add_zero, Nat.mod_eq_of_lt inside]
      exact current
  | succ count ih =>
      obtain ⟨sound', same, active⟩ := cycle_active sound several current inside
      have length := congrArg List.length same
      rw [List.length_map, List.length_map] at length
      have wraps := Nat.mod_lt (index + 1)
        (by omega : 0 < service.published.players.length)
      have rest := @ih (service.step .cycle) sound'
        ((index + 1) % service.published.players.length) (by omega)
        (by rw [same]; exact active) (by omega)
      rw [List.replicate_succ, run_cons, rest, same, length, Nat.mod_add_mod]
      congr 2
      omega

/-- As many cycles as there are players make each of them active once. -/
theorem cycles_perm {service : MediaService} (sound : Sound service)
    (several : 2 ≤ service.published.players.length) :
    ((List.range service.published.players.length).map fun count =>
      (run step service
        (List.replicate (count + 1) .cycle)).published.activePlayer).Perm
      (service.published.players.map fun player => some player.id) := by
  have healthy : service.published.error = none := by
    by_contra failed
    rw [(sound.failed failed).1] at several
    cases several
  have active := sound.active healthy
  obtain ⟨id, given⟩ : ∃ id, service.published.activePlayer = some id := by
    cases given : service.published.activePlayer with
    | some id => exact ⟨id, rfl⟩
    | none =>
        rw [given] at active
        have empty := (active_eq_none_iff (sound.pinned healthy)).mp
          active.symm
        rw [empty] at several
        cases several
  have member := mem_of_active (sound.pinned healthy)
    (active.symm.trans given)
  obtain ⟨index, inside, here⟩ := List.mem_iff_getElem.mp member
  have current : service.published.activePlayer =
      (service.published.players.map MediaPlayer.id)[index]? := by
    rw [given, List.getElem?_eq_getElem inside, here]
  rw [List.length_map] at inside
  have rotated : ((List.range service.published.players.length).map
      fun count => (run step service
        (List.replicate (count + 1) .cycle)).published.activePlayer) =
      ((service.published.players.map fun player =>
        some player.id).rotate (index + 1)) := by
    apply List.ext_getElem
    · simp
    · intro place first second
      rw [List.getElem_map, List.getElem_range, List.getElem_rotate,
        cycles_active (place + 1) sound several current inside]
      have order : index + (place + 1) = place + (index + 1) := by omega
      have wraps := Nat.mod_lt (place + (index + 1))
        (by omega : 0 < service.published.players.length)
      rw [order, List.getElem?_map, List.getElem?_eq_getElem wraps,
        List.getElem_map]
      simp only [List.length_map, Option.map_some]
  rw [rotated]
  exact List.rotate_perm _ _

/-! ### Laws -/

/-- The player whose transition to playing was observed last, of those that
have been playing since. -/
def lastStarted (history : List (List MediaPlayer)) : Option String :=
  (transitions history).reverse.find? (startObserved history)

/-- In every run: somebody is active if there is a player; a pinned player is
active as long as it is observed, and only a selection changes the pin; without
a pin, of the players whose start was observed the last one is active; a
control mode is the last one that was set; and cycling goes round. -/
theorem selection_laws (events : List MediaEvent) :
    let service := run step initial events
    let published := service.published
    ((published.activePlayer = none ↔ published.players = []) ∧
      ∀ id, published.activePlayer = some id →
        id ∈ published.players.map MediaPlayer.id) ∧
    (∀ id, service.selection.pinned = some id → ∀ later,
      (∀ event ∈ later, Stays id event) →
        (run step service later).selection.pinned = some id ∧
        ((run step service later).published.error = none →
          (run step service later).published.activePlayer = some id ∧
          (run step service later).published.pinnedPlayer = some id)) ∧
    (∀ event, MediaEvent.pins event = false →
      (service.step event).selection.pinned = service.selection.pinned ∨
        ∃ players id, event = .observed players ∧
          service.selection.pinned = some id ∧
          id ∉ players.list.map MediaPlayer.id ∧
          (service.step event).selection.pinned = none) ∧
    (service.selection.pinned = none → published.error = none →
      (transitions service.history).length ≤ u64Max →
        ∀ id, startObserved service.history id = true →
          ∃ last, lastStarted service.history = some last ∧
            published.activePlayer = some last) ∧
    (∀ player ∈ published.players,
      player.controlMode = modeSince service.log player.id) ∧
    (2 ≤ published.players.length →
      ((List.range published.players.length).map fun count =>
        (run step service
          (List.replicate (count + 1) .cycle)).published.activePlayer).Perm
        (published.players.map fun player => some player.id)) := by
  intro service published
  have sound := sound_run events
  refine ⟨⟨?_, ?_⟩, ?_, fun event => pinned_step sound, ?_, sound.shown,
    cycles_perm sound⟩
  · by_cases healthy : published.error = none
    · rw [sound.active healthy]
      exact active_eq_none_iff (sound.pinned healthy)
    · obtain ⟨empty, absent⟩ := sound.failed healthy
      exact ⟨fun _ => empty, fun _ => absent⟩
  · intro id active
    by_cases healthy : published.error = none
    · exact mem_of_active (sound.pinned healthy)
        ((sound.active healthy).symm.trans active)
    · rw [(sound.failed healthy).2] at active
      cases active
  · intro id pinned later stays
    have sound' : Sound (run step service later) := by
      have whole := sound_run (events ++ later)
      rwa [run_append] at whole
    have kept := pinned_run later sound pinned stays
    refine ⟨kept, fun healthy => ⟨?_, (sound'.pin healthy).trans kept⟩⟩
    rw [sound'.active healthy, MediaSelection.active, kept]
  · intro unpinned healthy short id observed
    obtain ⟨earlier, later, split, -, -⟩ := sound.tracks.started id observed
    have some : (lastStarted service.history).isSome = true := by
      rw [lastStarted, List.find?_isSome]
      refine ⟨id, ?_, observed⟩
      rw [List.mem_reverse, split]
      simp
    obtain ⟨last, found⟩ := Option.isSome_iff_exists.mp some
    refine ⟨last, found, ?_⟩
    rw [sound.active healthy]
    exact active_of_last sound.tracks unpinned short (sound.playing healthy)
      found

/-! ### Saturation -/

/-- Two players; either of them may play. -/
def pair (first second : Bool) : Players where
  list := [
    { MediaPlayer.default with
      id := "first"
      playbackStatus := if first then "playing" else "paused" },
    { MediaPlayer.default with
      id := "second"
      playbackStatus := if second then "playing" else "paused" }]
  distinct := by
    change ["first", "second"].Nodup
    decide

/-- The first player plays and pauses. -/
def toggles : Nat → List MediaEvent
  | 0 => []
  | count + 1 =>
      toggles count ++
        [.observed (pair true false), .observed (pair false false)]

/-- The second player starts, and then the first one, after many toggles. -/
def worn (count : Nat) : List MediaEvent :=
  [.observed (pair false false)] ++ toggles count ++
    [.observed (pair false true), .observed (pair true true)]

theorem unpinned_run (events : List MediaEvent) {service : MediaService}
    (sound : Sound service) (unpinned : service.selection.pinned = none)
    (quiet : ∀ event ∈ events, MediaEvent.pins event = false) :
    (run step service events).selection.pinned = none := by
  induction events generalizing service with
  | nil => exact unpinned
  | cons event events ih =>
      obtain ⟨first, rest⟩ := List.forall_mem_cons.mp quiet
      refine ih (sound_step sound event) ?_ rest
      obtain same | ⟨_, _, _, _, _, gone⟩ := pinned_step sound first
      · exact same.trans unpinned
      · exact gone

theorem pins_toggles (count : Nat) :
    ∀ event ∈ toggles count, MediaEvent.pins event = false := by
  induction count with
  | zero => exact fun _ member => nomatch member
  | succ count ih =>
      intro event member
      obtain old | new := List.mem_append.mp member
      · exact ih event old
      · simp only [List.mem_cons, List.not_mem_nil, or_false] at new
        obtain rfl | rfl := new <;> rfl

theorem history_toggles (count : Nat) :
    ∃ rest, (run step initial ([.observed (pair false false)] ++
        toggles count)).history = (pair false false).list :: rest ∧
      (transitions ((pair false false).list :: rest)).length = count := by
  induction count with
  | zero => exact ⟨[], rfl, rfl⟩
  | succ count ih =>
      obtain ⟨rest, history, length⟩ := ih
      rw [toggles, ← List.append_assoc, run_append]
      refine ⟨(pair true false).list :: (pair false false).list :: rest, ?_, ?_⟩
      · exact congrArg (fun history => (pair false false).list ::
          (pair true false).list :: history) history
      · rw [transitions_cons, transitions_cons, List.length_append,
          List.length_append, length]
        rfl

/-- Where the numbers of starts no longer grow, the last start is lost. -/
theorem last_start_lost {count : Nat} (many : u64Max ≤ count) :
    (run step initial (worn count)).selection.pinned = none ∧
    (run step initial (worn count)).published.error = none ∧
    lastStarted (run step initial (worn count)).history = some "first" ∧
    (run step initial (worn count)).published.activePlayer =
      some "second" := by
  have sound := sound_run (worn count)
  have unpinned : (run step initial (worn count)).selection.pinned = none := by
    refine unpinned_run _ sound_initial rfl ?_
    intro event member
    obtain before | ends := List.mem_append.mp member
    · obtain begins | toggled := List.mem_append.mp before
      · rw [List.mem_singleton.mp begins]
        rfl
      · exact pins_toggles count event toggled
    · simp only [List.mem_cons, List.not_mem_nil, or_false] at ends
      obtain rfl | rfl := ends <;> rfl
  obtain ⟨rest, before, length⟩ := history_toggles count
  have split : run step initial (worn count) =
      (((run step initial ([.observed (pair false false)] ++
        toggles count)).step (.observed (pair false true))).step
          (.observed (pair true true))) := by
    rw [worn, run_append]
    rfl
  have history : (run step initial (worn count)).history =
      (pair true true).list :: (pair false true).list ::
        (pair false false).list :: rest := by
    rw [split]
    exact congrArg (fun history => (pair true true).list ::
      (pair false true).list :: history) before
  have healthy : (run step initial (worn count)).published.error = none := by
    rw [split]
    rfl
  refine ⟨unpinned, healthy, ?_, ?_⟩
  · rw [lastStarted, history, transitions_cons, List.reverse_append]
    rfl
  · have tracks := sound.tracks
    rw [history] at tracks
    have started : ∀ id front back,
        startObserved ((pair true true).list :: (pair false true).list ::
          (pair false false).list :: rest) id = true →
        transitions ((pair true true).list :: (pair false true).list ::
          (pair false false).list :: rest) = front ++ id :: back →
        u64Max ≤ front.length →
        (run step initial (worn count)).selection.started[id]? =
          some u64Max := by
      intro id front back observed other long
      obtain ⟨earlier, later, split, last, number⟩ := tracks.started id observed
      have bound := length_le_of_last split last other
      rw [number, Nat.min_eq_right (by omega)]
    have second := started "second"
      (transitions ((pair false false).list :: rest)) ["first"] rfl
      (by rw [transitions_cons, transitions_cons, List.append_assoc]; rfl)
      (by rw [length]; exact many)
    have first := started "first"
      (transitions ((pair false false).list :: rest) ++ ["second"]) [] rfl
      (by rw [transitions_cons, transitions_cons]; rfl)
      (by rw [List.length_append, length]; exact Nat.le_add_right_of_le many)
    have players : (run step initial (worn count)).published.players =
        (pair true true).list.map
          (run step initial (worn count)).selection.withMode := by
      rw [split]
      rfl
    rw [sound.active healthy, MediaSelection.active, unpinned, players]
    generalize (run step initial (worn count)).selection = selection
      at first second ⊢
    have one : selection.started.contains "first" = true :=
      contains_eq_isSome.trans (congrArg Option.isSome first)
    have two : selection.started.contains "second" = true :=
      contains_eq_isSome.trans (congrArg Option.isSome second)
    simp [recent, pair, withMode, MediaPlayer.playing, one, two, first, second,
      maxByKey, MediaPlayer.default]

theorem last_start_is_lost :
    (run step initial (worn u64Max)).selection.pinned = none ∧
    (run step initial (worn u64Max)).published.error = none ∧
    lastStarted (run step initial (worn u64Max)).history = some "first" ∧
    (run step initial (worn u64Max)).published.activePlayer =
      some "second" :=
  last_start_lost (Nat.le_refl u64Max)

end MediaService

end BarDaemon.Media
