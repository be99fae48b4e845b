import BarDaemon.MediaCompletions

/-!
# What the monitor publishes

Every list of players that is published shows each player with nothing but
metadata that it has asked for.
-/

namespace BarDaemon.Media

open Std OrderedMaps TransitionRuns

/-- The players that are read. -/
def Happening.read : Happening → List MediaPlayer
  | .refreshed _ players => players.list
  | .joined _ _ _ players => players.list
  | _ => []

namespace Enrichment

variable {videoOf : String → Option String} {order : Iteration}

theorem shows_put_prepare {state : Enrichment} (sound : Sound state)
    (now : Nat) (players : Players) :
    Shows Put state players.list
      (state.prepare videoOf order now players) := by
  cases enabled : state.enabled with
  | true =>
      have shows := @shows_prepare videoOf order state sound enabled now players
      exact ⟨shows.evolves, shows.sound,
        shows.shown.imp fun _ _ fits => fits.put⟩
  | false =>
      rw [prepare_disabled enabled]
      exact ⟨.refl state, sound, List.forall₂_same.mpr fun raw _ =>
        put_self state raw⟩

theorem shows_refreshPlayers {state : Enrichment} (sound : Sound state)
    (now later : Nat) (players : Players) {completed : Option Completed}
    (earned : ∀ result, completed = some result →
      state.enabled = true ∧ state.Earned result) :
    Shows Put state players.list
      (state.refreshPlayers videoOf order now later players completed) := by
  unfold refreshPlayers
  cases completed with
  | none => exact shows_put_prepare sound now players
  | some result =>
      obtain ⟨enabled, earned⟩ := earned result rfl
      have first := @shows_prepare videoOf order state sound enabled now players
      have second := @shows_complete order _ first.sound _ _ first.shown result
        (earned.evolves first.evolves) later
      exact ⟨first.evolves.trans second.evolves, second.sound, second.shown⟩

/-! ### Tasks -/

theorem mem_modify {tasks : List Task} {index : Nat} {change : Task → Task}
    {task : Task} (member : task ∈ tasks.modify index change) :
    task ∈ tasks ∨ ∃ old, tasks[index]? = some old ∧ task = change old := by
  obtain ⟨place, found⟩ := List.mem_iff_getElem?.mp member
  rw [List.getElem?_modify] at found
  obtain ⟨old, here, rfl⟩ := Option.map_eq_some_iff.mp found
  split
  · rename_i same
    exact .inr ⟨old, same ▸ here, rfl⟩
  · exact .inl (List.mem_of_getElem? here)

theorem sound_withTask {state : Enrichment} (sound : Sound state) (index : Nat)
    {change : Task → Task} (fetched : List (String × Metadata))
    (changes : ∀ old, state.tasks[index]? = some old →
      ({ state with fetched := state.fetched ++ fetched }).Continues old
        (change old)) :
    Sound { state.withTask index change with
      fetched := state.fetched ++ fetched } := by
  have evolves : Evolves state
      { state.withTask index change with
        fetched := state.fetched ++ fetched } :=
    ⟨Nat.le_refl _, List.subset_append_left _ _,
      fun _ session found => .inr ⟨session, found, rfl, rfl, .refl _ _ _⟩⟩
  refine ⟨⟨?_, sound.stored.begun, ?_⟩, sound.tied.change evolves ?_ rfl⟩
  · intro video entry found metadata given
    exact evolves.fetched
      (sound.stored.cached video entry found metadata given)
  · intro id session found metadata given
    exact (sound.stored.held id session found metadata given).stays
      (.refl _ _ _) evolves.fetched
  · intro task member
    obtain same | ⟨old, found, rfl⟩ := mem_modify member
    · exact ⟨task, same, rfl, rfl, fun _ done => .inl done⟩
    · exact ⟨old, List.mem_of_getElem? found, (changes old found).video,
        (changes old found).tickets, (changes old found).finished⟩

theorem sound_ends {state : Enrichment} (sound : Sound state) (index : Nat)
    {change : Task → Task}
    (changes : ∀ old, state.Continues old (change old)) :
    Sound (state.withTask index change) := by
  have kept := sound_withTask sound index [] (fun old _ => by
    rw [List.append_nil]
    exact changes old)
  rwa [List.append_nil] at kept

theorem continues_ends (state : Enrichment) {progress : Progress}
    (empty : ∀ metadata, progress ≠ .finished (some metadata)) (old : Task) :
    state.Continues old (old.ends progress) := by
  unfold Task.ends
  split
  · exact ⟨rfl, rfl, fun metadata done => absurd done (empty metadata)⟩
  · exact ⟨rfl, rfl, fun _ done => .inl done⟩

theorem sound_resolve {state : Enrichment} (sound : Sound state) (index : Nat)
    (metadata : Option Metadata) : Sound (state.resolve index metadata) := by
  have empty : Sound (state.withTask index (·.ends (.finished none))) :=
    sound_ends sound index (continues_ends state (by simp))
  rw [resolve.eq_def]
  cases found : state.tasks[index]? with
  | none => exact empty
  | some task =>
      cases metadata with
      | none => exact empty
      | some metadata =>
          dsimp only
          split
          · refine sound_withTask sound index [(task.video, metadata)] ?_
            intro old here
            cases found.symm.trans here
            rename_i running
            rw [Task.ends, if_pos running]
            refine ⟨rfl, rfl, fun value done => .inr ?_⟩
            cases done
            simp
          · exact sound

/-! ### Joining -/

theorem sound_joined {state : Enrichment} (sound : Sound state) (index : Nat) :
    Evolves state { state with tasks := state.tasks.eraseIdx index } ∧
      Sound { state with tasks := state.tasks.eraseIdx index } := by
  have alike : Alike state { state with tasks := state.tasks.eraseIdx index } :=
    ⟨rfl, rfl, rfl, rfl, rfl, rfl⟩
  refine ⟨alike.evolves, alike.stored sound.stored, ?_⟩
  exact sound.tied.evolves alike.evolves
    (fun task member => List.mem_of_mem_eraseIdx member) rfl

theorem cached_failures {state : Enrichment} (videos : List String)
    {cache : ExtTreeMap String Cached} (now : Nat)
    (cached : ∀ (video : String) (entry : Cached), cache[video]? = some entry →
      ∀ metadata, entry.metadata = some metadata →
        (video, metadata) ∈ state.fetched) :
    ∀ (video : String) (entry : Cached),
      (videos.foldl (fun cache video =>
        cacheResult order cache video none now failureTtl) cache)[video]? =
          some entry → ∀ metadata, entry.metadata = some metadata →
            (video, metadata) ∈ state.fetched := by
  induction videos generalizing cache with
  | nil => exact cached
  | cons video videos ih =>
      refine ih ?_
      intro other entry found metadata given
      obtain ⟨-, new⟩ | old := getElem?_cacheResult found
      · cases new.symm.trans given
      · exact cached other entry old metadata given

theorem sound_taskFailed {state : Enrichment} (sound : Sound state)
    (now : Nat) : Sound (state.taskFailed order now) := by
  have cached := touches_cache sound.stored _ []
    (@cached_failures order state (order.arrange state.pending) state.cache now
      sound.stored.cached)
  refine ⟨⟨cached.stored.cached, cached.stored.begun, cached.stored.held⟩, ?_⟩
  refine sound.tied.change
    ⟨Nat.le_refl _, fun _ member => member,
      fun _ session found => .inr ⟨session, found, rfl, rfl, .refl _ _ _⟩⟩ ?_ rfl
  intro task member
  obtain ⟨old, earlier, rfl⟩ := List.mem_map.mp member
  exact ⟨old, earlier, rfl, rfl, fun _ done => .inl done⟩

/-- A step is sound, and shows what players have asked for. -/
structure Publishes (players : List MediaPlayer)
    (result : Enrichment × Option (List MediaPlayer)) : Prop where
  sound : Sound result.1
  shown : ∀ shown, result.2 = some shown →
    List.Forall₂ result.1.Put players shown

theorem publishes_join {state : Enrichment} (sound : Sound state)
    (index now later : Nat) (players : Players) :
    Publishes players.list
      (state.join videoOf order index now later players) := by
  rw [join.eq_def]
  cases found : state.tasks[index]? with
  | none => exact ⟨sound, nofun⟩
  | some task =>
      obtain ⟨evolves, joined⟩ := sound_joined sound index
      have member := List.mem_of_getElem? found
      dsimp only
      split
      · exact ⟨sound, nofun⟩
      · rename_i metadata done
        have shows := @shows_refreshPlayers videoOf order _ joined now later
          players (some ⟨task.video, task.tickets, metadata⟩) (by
            intro result given
            cases given
            refine ⟨?_, ?_, ?_⟩
            · by_contra disabled
              have none := sound.tied.idle (Bool.not_eq_true _ ▸ disabled)
              rw [none] at member
              cases member
            · exact fun ticket held =>
                (sound.tied.bound task member ticket held).evolves evolves
            · intro value given
              exact sound.tied.finished task member value
                (done.trans (congrArg Progress.finished given)))
        refine ⟨shows.sound, ?_⟩
        intro shown given
        cases given
        exact shows.shown
      · exact ⟨sound_taskFailed joined now, nofun⟩

theorem publishes_act {state : Enrichment} (sound : Sound state)
    (event : Event) :
    Publishes event.happening.read (state.act videoOf event) := by
  obtain ⟨order, happening⟩ := event
  cases happening with
  | refreshed now players =>
      have shows := @shows_refreshPlayers videoOf order state sound now now
        players none (fun _ given => nomatch given)
      refine ⟨shows.sound, ?_⟩
      intro shown given
      cases given
      exact shows.shown
  | resolved index metadata => exact ⟨sound_resolve sound index metadata, nofun⟩
  | panicked index =>
      exact ⟨sound_ends sound index (continues_ends state (by simp)), nofun⟩
  | cancelled index =>
      refine ⟨sound_ends sound index ?_, nofun⟩
      intro old
      split
      · exact continues_ends state (by simp) old
      · exact ⟨rfl, rfl, fun _ done => .inl done⟩
  | joined index now later players =>
      exact publishes_join sound index now later players

theorem sound_run (enabled : Bool) (events : List Event) :
    Sound (run (step videoOf) (initial enabled) events) := by
  have always : StepsMeet (step videoOf) (fun _ _ => True) (initial enabled)
      events := stepsMeet_of_forall (fun _ _ => trivial) _ events
  have preserved : ∀ (state : Enrichment) (event : Event), Sound state → True →
      Sound (step videoOf state event) :=
    fun _ event sound _ => (publishes_act sound event).sound
  exact invariant_run preserved (sound_initial enabled) always

end Enrichment

end BarDaemon.Media
