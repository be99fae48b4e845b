import BarDaemon.MediaPublications
import Mathlib.Data.List.Perm.Basic

/-!
# How many lookups there are

The pending videos are those of the tasks that have not been cancelled, unless
such a task has still delivered a result; no request window starts more than
four lookups.
-/

namespace BarDaemon.Media

open Std OrderedMaps TransitionRuns

namespace Enrichment

variable {videoOf : String → Option String} {order : Iteration}

/-! ### Request windows -/

structure Windowed (state : Enrichment) : Prop where
  few : state.pending.length ≤ maxRequests
  counted : state.starts.count (state.requestWindow.getD 0) =
    state.requestsStarted
  past : ∀ begun ∈ state.starts, ∃ window,
    state.requestWindow = some window ∧ begun ≤ window
  limited : ∀ window, state.starts.count window ≤ maxRequests

theorem windowed_initial (enabled : Bool) : Windowed (initial enabled) :=
  ⟨Nat.zero_le _, rfl, fun _ member => (nomatch member),
    fun _ => Nat.zero_le _⟩

/-- The meters of the coordinator are alike. -/
structure Metered (before after : Enrichment) : Prop where
  requestWindow : after.requestWindow = before.requestWindow
  requestsStarted : after.requestsStarted = before.requestsStarted
  starts : after.starts = before.starts

theorem Windowed.metered {before after : Enrichment}
    (windowed : Windowed before) (metered : Metered before after)
    (few : after.pending.length ≤ before.pending.length) : Windowed after where
  few := Nat.le_trans few windowed.few
  counted := by
    rw [metered.starts, metered.requestWindow, metered.requestsStarted]
    exact windowed.counted
  past := by
    rw [metered.starts, metered.requestWindow]
    exact windowed.past
  limited := by
    rw [metered.starts]
    exact windowed.limited

/-- A renewed window has begun later than all lookups before. -/
theorem windowed_renew {state : Enrichment} (windowed : Windowed state)
    (now : Nat) (players : Players) : Windowed (state.renew now players) := by
  unfold renew
  split
  · rename_i lapsed
    have fresh : now ∉ state.starts := by
      intro member
      obtain ⟨window, open', late⟩ := windowed.past now member
      rw [open', Option.all_some, decide_eq_true_iff] at lapsed
      unfold windowNs at lapsed
      omega
    refine ⟨windowed.few, List.count_eq_zero.mpr fresh, ?_, windowed.limited⟩
    intro begun member
    refine ⟨now, rfl, ?_⟩
    obtain ⟨window, open', late⟩ := windowed.past begun member
    rw [open', Option.all_some, decide_eq_true_iff] at lapsed
    unfold windowNs at lapsed
    omega
  · exact windowed.metered ⟨rfl, rfl, rfl⟩ (Nat.le_refl _)

theorem renew_window (state : Enrichment) (now : Nat) (players : Players) :
    (state.renew now players).requestWindow.isSome = true := by
  unfold renew
  split
  · rfl
  · rename_i current
    cases given : state.requestWindow with
    | none =>
        rw [given] at current
        exact absurd rfl current
    | some window => rfl

theorem windowed_spawn {state : Enrichment} (windowed : Windowed state)
    {window : Nat} (current : state.requestWindow = some window)
    (room : state.pending.length < maxRequests)
    (begun : state.requestsStarted < maxRequests) (video : String)
    (tickets : List Ticket) : Windowed (state.spawn video tickets) := by
  have counted := windowed.counted
  rw [current] at counted
  change state.starts.count window = _ at counted
  refine ⟨?_, ?_, ?_, ?_⟩
  · change (if _ then _ else _ : List String).length ≤ _
    split
    · exact windowed.few
    · rw [List.length_append]
      exact room
  · change (state.starts ++ [_]).count (state.requestWindow.getD 0) =
      state.requestsStarted + 1
    rw [current, List.count_append, Option.getD_some, counted,
      List.count_singleton_self]
  · intro later member
    refine ⟨window, current, ?_⟩
    obtain old | new := List.mem_append.mp member
    · obtain ⟨other, same, early⟩ := windowed.past later old
      cases current.symm.trans same
      exact early
    · rw [List.mem_singleton.mp new, current]
      exact Nat.le_refl _
  · intro other
    change (state.starts ++ [_]).count other ≤ _
    rw [current, List.count_append, Option.getD_some, List.count_singleton]
    split
    · rename_i same
      rw [← beq_iff_eq.mp same, counted]
      exact begun
    · exact windowed.limited other

theorem windowed_start {requests : List (String × List Ticket)}
    {state : Enrichment} (windowed : Windowed state)
    (current : state.requestWindow.isSome = true) :
    Windowed (state.start requests) := by
  induction requests generalizing state with
  | nil => exact windowed
  | cons request requests ih =>
      rw [start]
      split
      · exact windowed
      · rename_i room
        obtain ⟨window, given⟩ := Option.isSome_iff_exists.mp current
        exact ih (windowed_spawn windowed given (by omega) (by omega) _ _)
          current

theorem windowed_prepare {state : Enrichment} (sound : Sound state)
    (windowed : Windowed state) (now : Nat) (players : Players) :
    Windowed (state.prepare videoOf order now players).1 := by
  cases enabled : state.enabled with
  | false =>
      rw [prepare_disabled enabled]
      exact windowed
  | true =>
      have touches :=
        (@arranged_renew videoOf state sound.stored now players).touches
      rw [prepare_enabled enabled]
      refine windowed_start ((windowed_renew windowed now players).metered
        ⟨touches.requestWindow, touches.requestsStarted, touches.starts⟩
        (Nat.le_of_eq (congrArg _ touches.pending))) ?_
      rw [touches.requestWindow]
      exact renew_window state now players

/-! ### What completion leaves alone -/

structure Quiet (before after : Enrichment) : Prop extends
    Metered before after where
  pending : after.pending = before.pending
  tasks : after.tasks = before.tasks

theorem quiet_redeem (metadata : Metadata)
    (result : Enrichment × List MediaPlayer) (ticket : Ticket) :
    Quiet result.1 (redeem metadata result ticket).1 := by
  obtain ⟨state, players⟩ := result
  rw [redeem.eq_def]
  dsimp only
  split
  · split <;> exact ⟨⟨rfl, rfl, rfl⟩, rfl, rfl⟩
  · exact ⟨⟨rfl, rfl, rfl⟩, rfl, rfl⟩

theorem quiet_foldl (metadata : Metadata) (tickets : List Ticket)
    (result : Enrichment × List MediaPlayer) :
    Quiet result.1 (tickets.foldl (redeem metadata) result).1 := by
  induction tickets generalizing result with
  | nil => exact ⟨⟨rfl, rfl, rfl⟩, rfl, rfl⟩
  | cons ticket tickets ih =>
      have first := quiet_redeem metadata result ticket
      have rest := ih (redeem metadata result ticket)
      exact ⟨⟨rest.requestWindow.trans first.requestWindow,
        rest.requestsStarted.trans first.requestsStarted,
        rest.starts.trans first.starts⟩, rest.pending.trans first.pending,
        rest.tasks.trans first.tasks⟩

theorem quiet_complete (state : Enrichment) (now : Nat) (result : Completed)
    (players : List MediaPlayer) :
    Quiet { state with pending := state.pending.erase result.video }
      (state.complete order now result players).1 := by
  have delivered :
      Quiet { state with pending := state.pending.erase result.video }
        (state.deliver result players).1 := by
    rw [deliver]
    split
    · rename_i metadata _
      exact quiet_foldl metadata result.tickets
        ({ state with pending := state.pending.erase result.video }, players)
    · exact ⟨⟨rfl, rfl, rfl⟩, rfl, rfl⟩
  rw [complete]
  exact ⟨⟨delivered.requestWindow, delivered.requestsStarted,
    delivered.starts⟩, delivered.pending, delivered.tasks⟩

theorem windowed_complete {state : Enrichment} (windowed : Windowed state)
    (now : Nat) (result : Completed) (players : List MediaPlayer) :
    Windowed (state.complete order now result players).1 := by
  have quiet := @quiet_complete order state now result players
  refine windowed.metered
    ⟨quiet.requestWindow, quiet.requestsStarted, quiet.starts⟩ ?_
  rw [quiet.pending]
  exact List.length_erase_le

theorem windowed_refreshPlayers {state : Enrichment} (sound : Sound state)
    (windowed : Windowed state) (now later : Nat) (players : Players)
    (completed : Option Completed) :
    Windowed
      (state.refreshPlayers videoOf order now later players completed).1 := by
  have prepared := @windowed_prepare videoOf order state sound windowed now
    players
  unfold refreshPlayers
  cases completed with
  | none => exact prepared
  | some result => exact windowed_complete prepared later result _

theorem windowed_act {state : Enrichment} (sound : Sound state)
    (windowed : Windowed state) (event : Event) :
    Windowed (state.act videoOf event).1 := by
  obtain ⟨order, happening⟩ := event
  cases happening with
  | refreshed now players =>
      exact windowed_refreshPlayers sound windowed now now players none
  | resolved index metadata =>
      change Windowed (state.resolve index metadata)
      rw [resolve.eq_def]
      split
      · split <;> exact windowed.metered ⟨rfl, rfl, rfl⟩ (Nat.le_refl _)
      · exact windowed.metered ⟨rfl, rfl, rfl⟩ (Nat.le_refl _)
  | panicked index => exact windowed.metered ⟨rfl, rfl, rfl⟩ (Nat.le_refl _)
  | cancelled index => exact windowed.metered ⟨rfl, rfl, rfl⟩ (Nat.le_refl _)
  | joined index now later players =>
      change Windowed (state.join videoOf order index now later players).1
      have joined : Windowed { state with tasks := state.tasks.eraseIdx index } :=
        windowed.metered ⟨rfl, rfl, rfl⟩ (Nat.le_refl _)
      rw [join.eq_def]
      split
      · exact windowed
      · dsimp only
        split
        · exact windowed
        · exact windowed_refreshPlayers (sound_joined sound index).2 joined now
            later players _
        · exact joined.metered ⟨rfl, rfl, rfl⟩ (Nat.zero_le _)

/-! ### Lookups that have not been cancelled -/

/-- The videos of the tasks that have not been cancelled. -/
def liveVideos (tasks : List Task) : List String :=
  (tasks.filter fun task => !task.aborted).map Task.video

/-- The pending videos are those held and those of the tasks that have not
been cancelled. -/
structure Live (held : List String) (state : Enrichment) : Prop where
  videos : (held ++ liveVideos state.tasks).Perm state.pending
  nodup : state.pending.Nodup

theorem Live.metered {held : List String} {before after : Enrichment}
    (live : Live held before) (tasks : after.tasks = before.tasks)
    (pending : after.pending = before.pending) : Live held after :=
  ⟨tasks ▸ pending ▸ live.videos, pending ▸ live.nodup⟩

theorem live_initial (enabled : Bool) : Live [] (initial enabled) :=
  ⟨.nil, .nil⟩

theorem live_spawn {held : List String} {state : Enrichment}
    (live : Live held state) {video : String} (free : video ∉ state.pending)
    (tickets : List Ticket) : Live held (state.spawn video tickets) := by
  have pending : (state.spawn video tickets).pending =
      state.pending ++ [video] :=
    if_neg fun found => free (List.contains_iff_mem.mp found)
  refine ⟨?_, ?_⟩
  · rw [pending]
    change (held ++ liveVideos (state.tasks ++ [_])).Perm _
    rw [liveVideos, List.filter_append, List.map_append, ← List.append_assoc]
    exact live.videos.append (List.Perm.refl [video])
  · rw [pending]
    exact List.nodup_append'.mpr ⟨live.nodup, List.nodup_singleton video,
      List.disjoint_singleton.mpr free⟩

theorem live_start {held : List String} {requests : List (String × List Ticket)}
    {state : Enrichment} (live : Live held state)
    (distinct : (requests.map Prod.fst).Nodup)
    (free : ∀ request ∈ requests, request.1 ∉ state.pending) :
    Live held (state.start requests) := by
  induction requests generalizing state with
  | nil => exact live
  | cons request requests ih =>
      rw [start]
      split
      · exact live
      · obtain ⟨fresh, distinct⟩ := List.nodup_cons.mp distinct
        have here := free request (by simp)
        have pending : (state.spawn request.1 request.2).pending =
            state.pending ++ [request.1] :=
          if_neg fun found => here (List.contains_iff_mem.mp found)
        refine ih (live_spawn live here request.2) distinct ?_
        intro other member
        rw [pending, List.mem_append, List.mem_singleton, not_or]
        refine ⟨free other (List.mem_cons_of_mem _ member), ?_⟩
        intro same
        exact fresh (List.mem_map.mpr ⟨other, member, same⟩)

theorem live_prepare {held : List String} {state : Enrichment}
    (sound : Sound state) (live : Live held state) (now : Nat)
    (players : Players) :
    Live held (state.prepare videoOf order now players).1 := by
  cases enabled : state.enabled with
  | false =>
      rw [prepare_disabled enabled]
      exact live
  | true =>
      have arranged := @arranged_renew videoOf state sound.stored now players
      have touches := arranged.touches
      rw [prepare_enabled enabled]
      refine live_start (live.metered
        (touches.tasks.trans (renew_tasks state now players))
        (touches.pending.trans (renew_pending state now players))) ?_ ?_
      · refine ((order.perm _).map Prod.fst).nodup_iff.mpr ?_
        rw [ExtTreeMap.map_fst_toList_eq_keys]
        exact nodup_keys _
      · intro request member
        have listed := (order.perm _).mem_iff.mp member
        exact (arranged.granted request.1 request.2
          (ExtTreeMap.mem_toList_iff_getElem?_eq_some.mp listed)).2

theorem live_complete {state : Enrichment} {result : Completed}
    (live : Live [result.video] state) (now : Nat)
    (players : List MediaPlayer) :
    Live [] (state.complete order now result players).1 := by
  have quiet := @quiet_complete order state now result players
  refine Live.metered ?_ quiet.tasks quiet.pending
  refine ⟨?_, live.nodup.erase _⟩
  have erased := live.videos.erase result.video
  rwa [List.singleton_append, List.erase_cons_head] at erased

theorem liveVideos_modify {change : Task → Task}
    (video : ∀ task, (change task).video = task.video)
    (aborted : ∀ task, (change task).aborted = task.aborted)
    (tasks : List Task) (index : Nat) :
    liveVideos (tasks.modify index change) = liveVideos tasks := by
  induction tasks generalizing index with
  | nil => rw [List.modify_nil]
  | cons task tasks ih =>
      cases index with
      | zero =>
          rw [List.modify_zero_cons]
          simp only [liveVideos, List.filter_cons, aborted]
          split
          · rw [List.map_cons, List.map_cons, video]
          · rfl
      | succ index =>
          rw [List.modify_succ_cons]
          have rest := ih index
          simp only [liveVideos, List.filter_cons] at rest ⊢
          split
          · rw [List.map_cons, List.map_cons, rest]
          · exact rest

theorem liveVideos_aborted (tasks : List Task) :
    liveVideos (tasks.map fun task => { task with aborted := true }) = [] := by
  induction tasks with
  | nil => rfl
  | cons task tasks ih => exact ih

/-- The video of a task, unless the task has been cancelled. -/
theorem liveVideos_eraseIdx {tasks : List Task} {index : Nat} {task : Task}
    (found : tasks[index]? = some task) (kept : task.aborted = false) :
    (liveVideos tasks).Perm (task.video :: liveVideos (tasks.eraseIdx index)) := by
  obtain ⟨inside, rfl⟩ := List.getElem?_eq_some_iff.mp found
  have split := ((List.getElem_cons_eraseIdx_perm inside).symm.filter
    fun task => !task.aborted).map Task.video
  rw [List.filter_cons, kept] at split
  exact split

theorem liveVideos_ends (progress : Progress) (tasks : List Task)
    (index : Nat) :
    liveVideos (tasks.modify index (·.ends progress)) = liveVideos tasks := by
  refine liveVideos_modify ?_ ?_ tasks index
  all_goals
    intro task
    unfold Task.ends
    split <;> rfl

/-- No cancelled lookup delivers a result. -/
def Orderly (state : Enrichment) (event : Event) : Prop :=
  match event.happening with
  | .joined index _ _ _ => ∀ task, state.tasks[index]? = some task →
      task.aborted = true → ∀ metadata, task.progress ≠ .finished metadata
  | _ => True

theorem live_withTask {state : Enrichment} (live : Live [] state)
    {index : Nat} {change : Task → Task}
    (same : liveVideos (state.tasks.modify index change) =
      liveVideos state.tasks)
    (fetched : List (String × Metadata)) :
    Live [] { state.withTask index change with fetched := fetched } :=
  ⟨same ▸ live.videos, live.nodup⟩

theorem live_taskFailed (state : Enrichment) (now : Nat) :
    Live [] (state.taskFailed order now) := by
  refine ⟨?_, List.nodup_nil⟩
  rw [List.nil_append]
  exact .of_eq (liveVideos_aborted state.tasks)

theorem live_join {state : Enrichment} (sound : Sound state)
    (live : Live [] state) (index now later : Nat) (players : Players)
    (orderly : ∀ task, state.tasks[index]? = some task →
      task.aborted = true → ∀ metadata, task.progress ≠ .finished metadata) :
    Live [] (state.join videoOf order index now later players).1 := by
  rw [join.eq_def]
  cases found : state.tasks[index]? with
  | none => exact live
  | some task =>
      dsimp only
      split
      · exact live
      · rename_i metadata done
        have kept : task.aborted = false := by
          by_contra aborted
          exact orderly task found (Bool.not_eq_false _ ▸ aborted) metadata done
        have joined : Live [task.video]
            { state with tasks := state.tasks.eraseIdx index } :=
          ⟨(liveVideos_eraseIdx found kept).symm.trans live.videos, live.nodup⟩
        exact @live_complete order _ ⟨task.video, task.tickets, metadata⟩
          (live_prepare (sound_joined sound index).2 joined now players) later _
      · exact live_taskFailed _ now

theorem live_act {state : Enrichment} (sound : Sound state)
    (live : Live [] state) (event : Event) (orderly : Orderly state event) :
    Live [] (state.act videoOf event).1 := by
  obtain ⟨order, happening⟩ := event
  cases happening with
  | refreshed now players => exact live_prepare sound live now players
  | resolved index metadata =>
      have ended := fun progress =>
        liveVideos_ends progress state.tasks index
      change Live [] (state.resolve index metadata)
      rw [resolve.eq_def]
      split
      · split
        · exact live_withTask live (ended _) _
        · exact live
      · exact live_withTask live (ended _) _
  | panicked index =>
      exact live_withTask live (liveVideos_ends _ state.tasks index) _
  | cancelled index =>
      refine live_withTask live (liveVideos_modify ?_ ?_ _ _) _
      all_goals
        intro task
        split
        · unfold Task.ends
          split <;> rfl
        · rfl
  | joined index now later players =>
      exact live_join sound live index now later players orderly

theorem inFlight_sublist (state : Enrichment) :
    (state.inFlight.map Task.video).Sublist (liveVideos state.tasks) := by
  refine List.Sublist.map _ (List.monotone_filter_right _ ?_)
  intro task both
  exact (Bool.and_eq_true _ _ ▸ both).2

end Enrichment

end BarDaemon.Media
