import BarDaemon.BinaryFloats
import BarDaemon.TransitionRuns
import Mathlib.Data.List.Induction

/-!
# The schedule of location checks

A check is due ten seconds after its network was observed, and again when the
delay of a retry has passed. The instants are nanoseconds of a clock that never
goes back.
-/

namespace BarDaemon.Locations

open TransitionRuns

structure Network where
  owner : String
  active : List String
  primary : String
deriving DecidableEq, Repr

/-- `Duration::from_secs` -/
def seconds (count : Nat) : Nat :=
  count * 1000000000

structure Schedule where
  network : Option Network := none
  networkSince : Option Binary64 := none
  completed : Option Network := none
  retryNetwork : Option Network := none
  retryDue : Option Nat := none
  retries : Nat := 0
  due : Option Nat := none
deriving DecidableEq, Repr

namespace Schedule

/-- The counters of a network that is not the one of the last retries. -/
def follow (schedule : Schedule) (network : Option Network) : Schedule :=
  if network.isSome && schedule.retryNetwork != network then
    { schedule with
      retryNetwork := network
      retryDue := none
      retries := 0 }
  else schedule

/-- When a network that is observed now is to be checked. -/
def dueOf (schedule : Schedule) (network : Option Network) (now : Nat) :
    Option Nat :=
  (network.filter fun other => some other != schedule.completed).map fun _ =>
    max (schedule.retryDue.getD now) (now + seconds 10)

/-- With the wall time; the answer is whether the network has changed. -/
def observe (schedule : Schedule) (network : Option Network) (wallTime : Binary64)
    (now : Nat) : Bool × Schedule :=
  if schedule.network = network then (false, schedule)
  else
    let schedule := schedule.follow network
    (true,
      { schedule with
        networkSince := network.map fun _ => wallTime
        due := schedule.dueOf network now
        network })

/-- `rearm`, with the clock that it reads. -/
def rearm (schedule : Schedule) (now : Nat) : Schedule :=
  { schedule with
    completed := none
    retryDue := none
    retries := 0
    due := schedule.network.map fun _ => now + seconds 10 }

def ready (schedule : Schedule) (now : Nat) : Bool :=
  schedule.network.isSome && schedule.due.any (· ≤ now)

def complete (schedule : Schedule) : Schedule :=
  { schedule with
    completed := schedule.network
    due := none }

def retry (schedule : Schedule) (now minimum : Nat) : Schedule :=
  let delay := max (seconds (min (30 * 2 ^ schedule.retries) 300)) minimum
  { schedule with
    retries := min (schedule.retries + 1) 4
    retryDue := some (now + delay)
    due := schedule.network.map fun _ => now + delay }

/-! ### Operations -/

inductive Operation
  | observe (network : Option Network) (wallTime : Binary64)
  | retry (minimum : Nat)
  | complete
  | rearm
deriving DecidableEq, Repr

structure Event where
  now : Nat
  operation : Operation
deriving DecidableEq, Repr

def step (schedule : Schedule) (event : Event) : Schedule :=
  match event.operation with
  | .observe network wallTime =>
      (schedule.observe network wallTime event.now).2
  | .retry minimum => schedule.retry event.now minimum
  | .complete => schedule.complete
  | .rearm => schedule.rearm event.now

/-- The schedule after some operations. -/
def after (events : List Event) : Schedule :=
  run step {} events

/-- At nondecreasing times. -/
def Ordered (events : List Event) : Prop :=
  events.Pairwise fun earlier later => earlier.now ≤ later.now

@[simp]
theorem after_concat (events : List Event) (event : Event) :
    after (events ++ [event]) = step (after events) event :=
  run_append step {} events [event]

/-- What an observation does when the network is another one. -/
theorem observe_changed {schedule : Schedule} {network : Option Network}
    (changed : schedule.network ≠ network) (wallTime : Binary64) (now : Nat) :
    (schedule.observe network wallTime now).2 =
      { schedule.follow network with
        networkSince := network.map fun _ => wallTime
        due := (schedule.follow network).dueOf network now
        network } := by
  rw [observe, if_neg changed]

theorem observe_same {schedule : Schedule} {network : Option Network}
    (same : schedule.network = network) (wallTime : Binary64) (now : Nat) :
    (schedule.observe network wallTime now).2 = schedule := by
  rw [observe, if_pos same]

@[simp]
theorem observe_network (schedule : Schedule) (network : Option Network)
    (wallTime : Binary64) (now : Nat) :
    (schedule.observe network wallTime now).2.network = network := by
  by_cases same : schedule.network = network
  · rw [observe_same same]
    exact same
  · rw [observe_changed same]

/-! ### Networks that stay -/

/-- A network was observed at a time, and nothing else since. -/
def ObservedSince (network : Network) (time : Nat) (events : List Event) : Prop :=
  ∃ earlier wallTime later,
    events = earlier ++ ⟨time, .observe (some network) wallTime⟩ :: later ∧
    ∀ event ∈ later, ∀ other wallTime,
      event.operation = .observe other wallTime → other = some network

theorem ObservedSince.concat {network : Network} {time : Nat}
    {events : List Event} (since : ObservedSince network time events)
    {event : Event} (keeps : ∀ other wallTime,
      event.operation = .observe other wallTime → other = some network) :
    ObservedSince network time (events ++ [event]) := by
  obtain ⟨earlier, wallTime, later, rfl, stays⟩ := since
  refine ⟨earlier, wallTime, later ++ [event], by simp, ?_⟩
  intro other among
  rcases List.mem_append.mp among with before | last
  · exact stays other before
  · rw [List.mem_singleton.mp last]
    exact keeps

theorem ObservedSince.le_of_ordered {network : Network} {time : Nat}
    {events : List Event} (since : ObservedSince network time events)
    {event : Event} (ordered : Ordered (events ++ [event])) :
    time ≤ event.now := by
  obtain ⟨earlier, wallTime, later, rfl, -⟩ := since
  have before := (List.pairwise_append.mp ordered).2.2
  exact before ⟨time, .observe (some network) wallTime⟩ (by simp) event (by simp)

/-- The check of a network waits for ten seconds. -/
def Settles (events : List Event) : Prop :=
  ∀ network, (after events).network = some network →
    ∃ time, ObservedSince network time events ∧
      ∀ due, (after events).due = some due → time + seconds 10 ≤ due

theorem settles_retry {schedule : Schedule} {network : Network}
    (here : schedule.network = some network) {time now minimum due : Nat}
    (past : time ≤ now) (isDue : (schedule.retry now minimum).due = some due) :
    time + seconds 10 ≤ due := by
  have found : some (now + max (seconds (min (30 * 2 ^ schedule.retries) 300))
      minimum) = some due := by
    rw [← isDue, retry, here]
    rfl
  have delay : 30 ≤ min (30 * 2 ^ schedule.retries) 300 := by
    have positive := Nat.one_le_two_pow (n := schedule.retries)
    omega
  have same := Option.some.inj found
  unfold seconds at *
  omega

theorem le_dueOf {schedule : Schedule} {network : Option Network} {now due : Nat}
    (isDue : schedule.dueOf network now = some due) : now + seconds 10 ≤ due := by
  obtain ⟨_, _, same⟩ := Option.map_eq_some_iff.mp isDue
  omega

theorem settles (events : List Event) (ordered : Ordered events) :
    Settles events := by
  induction events using List.reverseRecOn with
  | nil =>
      intro network never
      cases never
  | append_singleton events event ih =>
      have before := ih (List.pairwise_append.mp ordered).1
      intro network here
      rw [after_concat] at here ⊢
      obtain ⟨now, operation⟩ := event
      cases operation with
      | observe other wallTime =>
          change (Schedule.observe _ other wallTime now).2.network = _ at here
          rw [observe_network] at here
          subst here
          by_cases same : (after events).network = some network
          · obtain ⟨time, since, waits⟩ := before network same
            refine ⟨time, since.concat (by rintro _ _ ⟨⟩; rfl), ?_⟩
            change ∀ due, (Schedule.observe _ _ wallTime now).2.due = _ → _
            rw [observe_same same]
            exact waits
          · refine ⟨now, ⟨events, wallTime, [], rfl, fun _ never =>
              (List.not_mem_nil never).elim⟩, ?_⟩
            change ∀ due, (Schedule.observe _ _ wallTime now).2.due = _ → _
            rw [observe_changed same]
            exact fun due isDue => le_dueOf isDue
      | retry minimum =>
          obtain ⟨time, since, -⟩ := before network here
          have past := since.le_of_ordered ordered
          refine ⟨time, since.concat (by rintro _ _ ⟨⟩), ?_⟩
          intro due isDue
          change ((after events).retry now minimum).due = some due at isDue
          change (after events).network = some network at here
          exact settles_retry here past isDue
      | complete =>
          obtain ⟨time, since, -⟩ := before network here
          refine ⟨time, since.concat (by rintro _ _ ⟨⟩), ?_⟩
          rintro due ⟨⟩
      | rearm =>
          obtain ⟨time, since, -⟩ := before network here
          have past := since.le_of_ordered ordered
          refine ⟨time, since.concat (by rintro _ _ ⟨⟩), ?_⟩
          intro due isDue
          change (Option.map _ (after events).network) = _ at isDue
          change (after events).network = some network at here
          rw [here, Option.map_some] at isDue
          have same := Option.some.inj isDue
          omega

/-! ### Retries -/

/-- The network that was observed last, and the retries since it was first
observed or the schedule was rearmed. -/
structure Tally where
  network : Option Network
  retries : Nat
deriving DecidableEq, Repr

def Tally.count (tally : Tally) (event : Event) : Tally :=
  match event.operation with
  | .observe none _ => tally
  | .observe (some network) _ =>
      if tally.network = some network then tally else ⟨some network, 0⟩
  | .retry _ => { tally with retries := tally.retries + 1 }
  | .complete => tally
  | .rearm => { tally with retries := 0 }

def tally (events : List Event) : Tally :=
  events.foldl Tally.count ⟨none, 0⟩

@[simp]
theorem tally_concat (events : List Event) (event : Event) :
    tally (events ++ [event]) = (tally events).count event :=
  List.foldl_append

/-- The delay of a retry, from the first one on. -/
def backoff (count : Nat) : Nat :=
  seconds (min (30 * 2 ^ (count - 1)) 300)

theorem follow_some (schedule : Schedule) (network : Network) :
    schedule.follow (some network) =
      if schedule.retryNetwork = some network then schedule
      else
        { schedule with
          retryNetwork := some network
          retryDue := none
          retries := 0 } := by
  rw [follow]
  by_cases same : schedule.retryNetwork = some network
  · rw [if_pos same, if_neg (by simp [same])]
  · rw [if_neg same, if_pos (by simp [same])]

/-- The counters of a schedule are those of its tally. -/
structure Tallied (schedule : Schedule) (tally : Tally) : Prop where
  network : schedule.retryNetwork = tally.network
  retries : schedule.retries = min tally.retries 4
  present : ∀ network, schedule.network = some network →
    tally.network = some network

theorem Tallied.observe {schedule : Schedule} {tally : Tally}
    (tallied : schedule.Tallied tally) (network : Option Network)
    (wallTime : Binary64) (now : Nat) :
    Tallied (schedule.observe network wallTime now).2
      (tally.count ⟨now, .observe network wallTime⟩) := by
  by_cases same : schedule.network = network
  · rw [observe_same same]
    cases network with
    | none => exact tallied
    | some network =>
        have counted : tally.count ⟨now, .observe (some network) wallTime⟩ =
            tally := if_pos (tallied.present network same)
        rw [counted]
        exact tallied
  · rw [observe_changed same]
    cases network with
    | none => exact ⟨tallied.network, tallied.retries, fun _ never => by cases never⟩
    | some network =>
        rw [follow_some, tallied.network]
        by_cases followed : tally.network = some network
        · have counted : tally.count ⟨now, .observe (some network) wallTime⟩ =
              tally := if_pos followed
          rw [if_pos followed, counted]
          exact ⟨tallied.network, tallied.retries,
            fun _ here => followed.trans here⟩
        · have counted : tally.count ⟨now, .observe (some network) wallTime⟩ =
              ⟨some network, 0⟩ := if_neg followed
          rw [if_neg followed, counted]
          exact ⟨rfl, rfl, fun _ here => here⟩

theorem tallied (events : List Event) : (after events).Tallied (tally events) := by
  induction events using List.reverseRecOn with
  | nil => exact ⟨rfl, rfl, fun _ never => by cases never⟩
  | append_singleton events event ih =>
      rw [after_concat, tally_concat]
      obtain ⟨now, operation⟩ := event
      cases operation with
      | observe network wallTime => exact ih.observe network wallTime now
      | retry minimum =>
          obtain ⟨network, retries, present⟩ := ih
          constructor
          · exact network
          · change min (_ + 1) 4 = min (_ + 1) 4
            omega
          · exact present
      | complete => exact ⟨ih.network, ih.retries, ih.present⟩
      | rearm => exact ⟨ih.network, rfl, ih.present⟩

/-- No retry, no rearming and no other network. -/
def Event.Waits (network : Network) (event : Event) : Prop :=
  match event.operation with
  | .observe other _ => other = none ∨ other = some network
  | .retry _ => False
  | .complete => True
  | .rearm => False

/-- A retry of a network is waited for. -/
structure Delayed (network : Network) (time : Nat) (schedule : Schedule) : Prop where
  followed : schedule.retryNetwork = some network
  retryDue : schedule.retryDue = some time
  due : ∀ due, schedule.due = some due → time ≤ due

theorem Delayed.step {network : Network} {time : Nat} {schedule : Schedule}
    (delayed : schedule.Delayed network time) {event : Event}
    (waits : event.Waits network) : Delayed network time (schedule.step event) := by
  obtain ⟨followed, retryDue, due⟩ := delayed
  obtain ⟨now, operation⟩ := event
  cases operation with
  | retry => exact waits.elim
  | rearm => exact waits.elim
  | complete => exact ⟨followed, retryDue, fun _ never => by cases never⟩
  | observe other wallTime =>
      have unchanged : schedule.follow other = schedule := by
        rcases waits with rfl | rfl
        · rfl
        · rw [follow_some, if_pos followed]
      change Delayed network time (schedule.observe other wallTime now).2
      by_cases same : schedule.network = other
      · rw [observe_same same]
        exact ⟨followed, retryDue, due⟩
      · rw [observe_changed same, unchanged]
        refine ⟨followed, retryDue, ?_⟩
        intro due isDue
        obtain ⟨_, _, rfl⟩ := Option.map_eq_some_iff.mp isDue
        rw [retryDue]
        exact Nat.le_max_left _ _

/-- The counter stops where the delay does. -/
theorem min_delay (count : Nat) :
    min (30 * 2 ^ min count 4) 300 = min (30 * 2 ^ count) 300 := by
  by_cases few : count ≤ 4
  · rw [Nat.min_eq_left few]
  · have many := Nat.pow_le_pow_right (by decide : 0 < 2) (by omega : 4 ≤ count)
    rw [Nat.min_eq_right (by omega : 4 ≤ count)]
    omega

/-- The check after a retry waits for its delay, whatever the connectivity
does. -/
theorem retries_wait {earlier later : List Event} {network : Network}
    {time minimum now : Nat} (followed : (tally earlier).network = some network)
    (waits : ∀ event ∈ later, event.Waits network)
    (isReady : (after (earlier ++ ⟨time, .retry minimum⟩ :: later)).ready now =
      true) :
    time + max (backoff ((tally earlier).retries + 1)) minimum ≤ now := by
  have counted := tallied earlier
  have delay : seconds (min (30 * 2 ^ (after earlier).retries) 300) =
      backoff ((tally earlier).retries + 1) := by
    rw [counted.retries, backoff, Nat.add_sub_cancel, min_delay]
  have delayed : Delayed network
      (time + max (backoff ((tally earlier).retries + 1)) minimum)
      ((after earlier).retry time minimum) := by
    rw [← delay]
    refine ⟨counted.network.trans followed, rfl, ?_⟩
    intro due isDue
    obtain ⟨_, _, rfl⟩ := Option.map_eq_some_iff.mp isDue
    exact Nat.le_refl _
  have later := invariant_run (fun _ _ held => held.step) delayed
    (stepsMeet_of_mem (fun event among _ => waits event among) _)
  rw [after, run_append, run_cons] at isReady
  obtain ⟨due, isDue, past⟩ :=
    (Option.any_eq_true _ _).mp (Bool.and_eq_true_iff.mp isReady).2
  exact Nat.le_trans (later.due due isDue) (of_decide_eq_true past)

/-! ### Completed checks -/

/-- No retry, no rearming and no network but the completed one; a check that is
completed again is of that network. -/
def Rests (completed : Option Network) (schedule : Schedule) (event : Event) :
    Prop :=
  match event.operation with
  | .observe other _ => other = none ∨ other = completed
  | .retry _ => False
  | .complete => schedule.network = completed
  | .rearm => False

/-- Nothing is due for a network that was checked. -/
structure Rested (completed : Option Network) (schedule : Schedule) : Prop where
  intro ::
  same : schedule.completed = completed
  due : schedule.due = none

theorem follow_completed (schedule : Schedule) (network : Option Network) :
    (schedule.follow network).completed = schedule.completed := by
  rw [follow]
  split <;> rfl

theorem dueOf_completed {schedule : Schedule} {completed : Option Network}
    (same : schedule.completed = completed) (now : Nat) :
    schedule.dueOf completed now = none := by
  rw [dueOf, same]
  cases completed <;> simp

theorem Rested.step {completed : Option Network} {schedule : Schedule}
    {event : Event} (rested : schedule.Rested completed)
    (rests : schedule.Rests completed event) :
    Rested completed (schedule.step event) := by
  obtain ⟨now, operation⟩ := event
  cases operation with
  | retry => exact rests.elim
  | rearm => exact rests.elim
  | complete => exact ⟨rests, rfl⟩
  | observe other wallTime =>
      change Rested completed (schedule.observe other wallTime now).2
      by_cases present : schedule.network = other
      · rw [observe_same present]
        exact rested
      · have followed := (follow_completed schedule other).trans rested.same
        rw [observe_changed present]
        refine ⟨followed, ?_⟩
        rcases rests with rfl | rfl
        · rfl
        · exact dueOf_completed followed now

/-- Nothing is ready after a completed check, until another network is observed
or the schedule is told to check again. -/
theorem complete_rests {earlier later : List Event} {time : Nat}
    (rests : StepsMeet step (Rests (after earlier).network)
      (after earlier).complete later) (now : Nat) :
    (after (earlier ++ ⟨time, .complete⟩ :: later)).ready now = false := by
  have completed : Rested (after earlier).network (after earlier).complete :=
    ⟨rfl, rfl⟩
  have rested := invariant_run (fun _ _ held met => held.step met) completed rests
  rw [after, run_append, run_cons]
  change (run step (after earlier).complete later).ready now = false
  rw [ready, rested.due]
  exact Bool.and_false _

/-! ### New networks -/

/-- A network is in none of the fields. -/
structure Unknown (network : Network) (schedule : Schedule) : Prop where
  present : schedule.network ≠ some network
  completed : schedule.completed ≠ some network
  retryNetwork : schedule.retryNetwork ≠ some network

theorem unknown_after {network : Network} {events : List Event}
    (unseen : ∀ event ∈ events, ∀ wallTime,
      event.operation ≠ .observe (some network) wallTime) :
    Unknown network (after events) := by
  induction events using List.reverseRecOn with
  | nil => constructor <;> nofun
  | append_singleton events event ih =>
      obtain ⟨here, completed, retried⟩ := ih fun other among =>
        unseen other (List.mem_append_left _ among)
      have last := unseen event (by simp)
      rw [after_concat]
      obtain ⟨now, operation⟩ := event
      cases operation with
      | retry => exact ⟨here, completed, retried⟩
      | complete => exact ⟨here, here, retried⟩
      | rearm => exact ⟨here, nofun, retried⟩
      | observe other wallTime =>
          have different : other ≠ some network := by
            rintro rfl
            exact last wallTime rfl
          change Unknown network (Schedule.observe _ other wallTime now).2
          by_cases same : (after events).network = other
          · rw [observe_same same]
            exact ⟨here, completed, retried⟩
          · rw [observe_changed same]
            refine ⟨different, ?_, ?_⟩
            · rw [follow_completed]
              exact completed
            · cases other with
              | none => exact retried
              | some other =>
                  rw [follow_some]
                  split
                  · exact retried
                  · exact different

/-- A network that was not observed before is checked after ten seconds. -/
theorem new_network_due {network : Network} {events : List Event}
    (unseen : ∀ event ∈ events, ∀ wallTime,
      event.operation ≠ .observe (some network) wallTime)
    (wallTime : Binary64) (now : Nat) :
    (after (events ++ [⟨now, .observe (some network) wallTime⟩])).due =
      some (now + seconds 10) := by
  have unknown := unknown_after unseen
  rw [after_concat]
  change (Schedule.observe _ (some network) wallTime now).2.due = _
  rw [observe_changed unknown.present]
  change ((after events).follow (some network)).dueOf (some network) now = _
  rw [dueOf, follow_completed, follow_some, if_neg unknown.retryNetwork,
    Option.filter_some_pos, Option.map_some]
  · simp
  · simpa using unknown.completed.symm

/-! ### Runs -/

theorem ready_iff (schedule : Schedule) (now : Nat) :
    schedule.ready now = true ↔
      ∃ network due, schedule.network = some network ∧
        schedule.due = some due ∧ due ≤ now := by
  rw [ready, Bool.and_eq_true, Option.isSome_iff_exists, Option.any_eq_true]
  simp only [decide_eq_true_eq]
  constructor
  · rintro ⟨⟨network, here⟩, due, isDue, past⟩
    exact ⟨network, due, here, isDue, past⟩
  · rintro ⟨network, due, here, isDue, past⟩
    exact ⟨⟨network, here⟩, due, isDue, past⟩

/-- Checks wait for a network that stays, for the delays of its retries and,
once completed, for another network; and a new network is always checked. -/
theorem checks_wait (events : List Event) (ordered : Ordered events) :
    (∀ now, (after events).ready now = true →
      ∃ network time, (after events).network = some network ∧
        ObservedSince network time events ∧ time + seconds 10 ≤ now) ∧
    (∀ earlier later network time minimum now,
      events = earlier ++ ⟨time, .retry minimum⟩ :: later →
      (tally earlier).network = some network →
      (∀ event ∈ later, event.Waits network) →
      (after events).ready now = true →
      time + max (backoff ((tally earlier).retries + 1)) minimum ≤ now) ∧
    (∀ earlier later time now, events = earlier ++ ⟨time, .complete⟩ :: later →
      StepsMeet step (Rests (after earlier).network)
        (after earlier).complete later →
      (after events).ready now = false) ∧
    ∀ network wallTime now,
      (∀ event ∈ events, ∀ wallTime,
        event.operation ≠ .observe (some network) wallTime) →
      (after (events ++ [⟨now, .observe (some network) wallTime⟩])).due =
        some (now + seconds 10) := by
  refine ⟨?_, ?_, ?_, ?_⟩
  · intro now isReady
    obtain ⟨network, due, here, isDue, past⟩ := (ready_iff _ _).mp isReady
    obtain ⟨time, since, waits⟩ := settles events ordered network here
    exact ⟨network, time, here, since, Nat.le_trans (waits due isDue) past⟩
  · rintro earlier later network time minimum now rfl followed waits isReady
    exact retries_wait followed waits isReady
  · rintro earlier later time now rfl rests
    exact complete_rests rests now
  · intro network wallTime now unseen
    exact new_network_due unseen wallTime now

/-- A check fails, and the network goes away for three seconds and comes
back. -/
def flickering : List Event :=
  [⟨0, .observe (some ⟨"a", [], "b"⟩) (.ofNat 0)⟩, ⟨seconds 10, .retry 0⟩,
    ⟨seconds 12, .observe none (.ofNat 0)⟩,
    ⟨seconds 15, .observe (some ⟨"a", [], "b"⟩) (.ofNat 0)⟩]

/-- The check after the flicker keeps the delay of the retry. -/
theorem checks_wait_once :
    (∃ network time, (after flickering).network = some network ∧
      ObservedSince network time flickering ∧
        time + seconds 10 ≤ seconds 40) ∧
    seconds 10 + max (backoff 1) 0 ≤ seconds 40 := by
  have ordered : Ordered flickering := by
    simp [Ordered, flickering, seconds]
  obtain ⟨present, delayed, -⟩ := checks_wait flickering ordered
  constructor
  · exact present (seconds 40) (by decide)
  · refine delayed [⟨0, .observe (some ⟨"a", [], "b"⟩) (.ofNat 0)⟩] _ ⟨"a", [], "b"⟩
      (seconds 10) 0 (seconds 40) rfl (by decide) ?_ (by decide)
    intro event later
    simp only [List.mem_cons, List.not_mem_nil, or_false] at later
    rcases later with rfl | rfl
    · exact .inl rfl
    · exact .inr rfl

/-- A retry after a completed check makes the same network due again. -/
theorem completed_check_repeats :
    Ordered [⟨0, .observe (some ⟨"a", [], "b"⟩) ⟨0⟩⟩,
      ⟨seconds 10, .complete⟩, ⟨seconds 10, .retry 0⟩] ∧
    (after [⟨0, .observe (some ⟨"a", [], "b"⟩) ⟨0⟩⟩,
      ⟨seconds 10, .complete⟩, ⟨seconds 10, .retry 0⟩]).ready (seconds 40) =
        true := by
  constructor
  · simp [Ordered, seconds]
  · decide

end Schedule

end BarDaemon.Locations
