import BarDaemon.DisplayEffects
import BarDaemon.Traces
import BarDaemon.TransitionRuns
import Mathlib.Data.List.Chain
import Mathlib.Data.Set.Basic

/-!
# Docking turns a panel off only beside steady external displays

The planner's candidate stands for a stretch of its latest observations, and
every command to turn a panel off follows a fresh look at the outputs.
-/

namespace BarDaemon.Displays

open Attempt Traces TransitionRuns

/-- What is seen of the usable external outputs. -/
def Output.externals (outputs : List Output) : Set Signature :=
  {signature | ∃ output ∈ outputs, output.external = true ∧
    output.usable = true ∧ Signature.ofOutput output = signature}

theorem externals_eq (outputs : List Output) :
    Output.externals outputs =
      {signature | signature ∈ externalSignature outputs} := by
  ext signature
  simp [externalSignature, Output.externals, and_assoc]

def Event.observation? : Event → Option (List Output × Nat)
  | .planned outputs now => some (outputs, now)
  | _ => none

/-- The observations of the planner, in order, with their times. -/
def observations (trace : List Event) : List (List Output × Nat) :=
  trace.filterMap Event.observation?

/-- The latest observations, from `since` to `last`, all show the same
external outputs, and none comes after a gap. -/
def Steady (external : Set Signature) (since last : Nat)
    (observed : List (List Output × Nat)) : Prop :=
  ∃ earlier window, observed = earlier ++ window ∧
    window.head?.map Prod.snd = some since ∧
    window.getLast?.map Prod.snd = some last ∧
    (∀ observation ∈ window, Output.externals observation.1 = external) ∧
    window.IsChain fun first second =>
      second.2 - first.2 ≤ maxObservationGap

theorem steady_single (outputs : List Output) (now : Nat)
    (observed : List (List Output × Nat)) :
    Steady (Output.externals outputs) now now
      (observed ++ [(outputs, now)]) :=
  ⟨observed, [(outputs, now)], rfl, rfl, rfl, by simp, by simp⟩

/-- A further observation without a gap or a change. -/
theorem Steady.extend {outputs : List Output} {since last now : Nat}
    {observed : List (List Output × Nat)}
    (steady : Steady (Output.externals outputs) since last observed)
    (close : now - last ≤ maxObservationGap) :
    Steady (Output.externals outputs) since now
      (observed ++ [(outputs, now)]) := by
  obtain ⟨earlier, window, whole, first, final, same, chain⟩ := steady
  refine ⟨earlier, window ++ [(outputs, now)], by simp [whole], ?_, by simp,
    ?_, ?_⟩
  · cases window with
    | nil => simp at first
    | cons head tail => simpa using first
  · intro observation member
    rcases List.mem_append.mp member with inWindow | isNew
    · exact same observation inWindow
    · simp only [List.mem_singleton] at isNew
      rw [isNew]
  · refine List.isChain_append.mpr ⟨chain, by simp, ?_⟩
    intro final' isFinal next isNext
    simp only [List.head?_cons, Option.mem_def, Option.some.injEq] at isNext
    simp only [Option.mem_def] at isFinal
    rw [isFinal, Option.map_some, Option.some.injEq] at final
    rw [← isNext, final]
    exact close

/-- The planner's candidate is backed by its observations. -/
def Planner.Tracks (planner : Planner)
    (observed : List (List Output × Nat)) : Prop :=
  ∀ external since, planner.candidate = some (external, since) →
    ∃ last, planner.lastObservation = some last ∧
      Steady {signature | signature ∈ external} since last observed

theorem Planner.tracks_reset (observed : List (List Output × Nat)) :
    Planner.reset.Tracks observed :=
  nofun

/-- A plan to turn the panel off has seen external outputs for long enough. -/
structure Plan.Settled (plan : Plan)
    (observed : List (List Output × Nat)) : Prop where
  some_external : plan.external ≠ []
  steady : ∃ since last,
    Steady {signature | signature ∈ plan.external} since last observed ∧
      since + settle ≤ last

namespace Planner

variable {planner : Planner} {observed : List (List Output × Nat)}

/-- The candidate for the external outputs seen now covers the present
observation. -/
theorem steady_settling (tracks : planner.Tracks observed)
    (outputs : List Output) (now : Nat) :
    let candidate := (planner.observing now).settling
      (externalSignature outputs) now
    candidate.1 = externalSignature outputs ∧
      Steady (Output.externals outputs) candidate.2 now
        (observed ++ [(outputs, now)]) := by
  simp only [observing]
  split
  · exact ⟨rfl, steady_single outputs now observed⟩
  · rename_i noGap
    cases candidate : planner.candidate with
    | none =>
        simp only [settling]
        exact ⟨trivial, steady_single outputs now observed⟩
    | some kept =>
        obtain ⟨external, since⟩ := kept
        obtain ⟨last, observedLast, steady⟩ := tracks external since candidate
        simp only [settling]
        split
        · rename_i same
          subst same
          rw [← externals_eq] at steady
          refine ⟨rfl, steady.extend ?_⟩
          simpa [observedLast] using noGap
        · exact ⟨rfl, steady_single outputs now observed⟩

theorem plan_spec (tracks : planner.Tracks observed)
    (preferExternal : Bool) (outputs : List Output) (now : Nat) :
    (planner.plan preferExternal outputs now).2.Tracks
        (observed ++ [(outputs, now)]) ∧
      ((planner.plan preferExternal outputs now).1.disableInternal = true →
        (planner.plan preferExternal outputs now).1.Settled
          (observed ++ [(outputs, now)])) ∧
      ∀ target ∈ (planner.plan preferExternal outputs now).1.targets,
        target.internal = true := by
  obtain ⟨same, steady⟩ := steady_settling tracks outputs now
  have internal : ∀ disable, ∀ target ∈ targets disable outputs,
      target.internal = true := by
    intro disable target member
    have kept := (List.mem_filter.mp member).2
    exact (Bool.and_eq_true_iff.mp kept).1
  unfold plan
  by_cases preferred : preferExternal = true
  · by_cases empty : (externalSignature outputs).isEmpty = true
    · simp only [preferred, empty, Bool.not_true, Bool.false_eq_true, if_true,
        if_false]
      exact ⟨nofun, nofun, internal _⟩
    · simp only [preferred, empty, Bool.not_true, Bool.false_eq_true, if_false]
      rw [externals_eq] at steady
      refine ⟨?_, ?_, internal _⟩
      · intro external since candidate
        simp only [Option.some.injEq] at candidate
        rw [candidate] at same steady
        rw [← same] at steady
        exact ⟨now, rfl, steady⟩
      · intro disables
        refine ⟨by simpa using empty, _, now, steady, ?_⟩
        split at disables
        · rename_i longEnough
          have positive : 0 < settle := by decide
          omega
        · cases disables
  · simp only [preferred, Bool.not_false, if_true]
    exact ⟨nofun, nofun, internal _⟩

end Planner

/-! ### The trace -/

/-- In the order of time, no observation of the last five seconds shows other
external outputs. -/
theorem Steady.recent {external : Set Signature} {since last : Nat}
    {observed : List (List Output × Nat)}
    (steady : Steady external since last observed)
    (ordered : (observed.map Prod.snd).Pairwise (· ≤ ·))
    (longEnough : since + settle ≤ last)
    {observation : List Output × Nat} (member : observation ∈ observed)
    (recent : last < observation.2 + settle) :
    Output.externals observation.1 = external := by
  obtain ⟨earlier, window, rfl, first, -, same, -⟩ := steady
  rcases List.mem_append.mp member with isEarlier | inWindow
  · obtain ⟨head, isHead, rfl⟩ := Option.map_eq_some_iff.mp first
    have atMost : observation.2 ≤ head.2 := by
      rw [List.map_append, List.pairwise_append] at ordered
      exact ordered.2.2 _ (List.mem_map_of_mem isEarlier) _
        (List.mem_map_of_mem (List.mem_of_mem_head? isHead))
    omega
  · exact same observation inWindow

/-- What holds when a panel is turned off: the last thing read is a list of
outputs with a usable external one, the target is among them, unchanged and
not mirrored, and the external outputs have been the same for long enough. -/
structure Undocked (before : List Event) (target : Output) : Prop where
  internal : target.internal = true
  read : ∃ earlier current, before = earlier ++ [.listed current] ∧
    (∃ output ∈ current, output.external = true ∧ output.usable = true) ∧
    (∃ output ∈ current, output.name = target.name ∧
      output.id = target.id) ∧
    (∀ output ∈ current, output.active = true →
      ∀ source, output.mirrorSource current = some source →
        source.name ≠ target.name) ∧
    ∃ since last, since + settle ≤ last ∧
      Steady (Output.externals current) since last (observations before) ∧
      (((observations before).map Prod.snd).Pairwise (· ≤ ·) →
        ∀ observation ∈ observations before,
          last < observation.2 + settle →
            Output.externals observation.1 = Output.externals current)

/-- Every command to turn a panel off is justified. -/
def Docks (trace : List Event) : Prop :=
  Each (fun before event => ∀ target, event = .docked target true →
    Undocked before target) trace

namespace Session

/-- The invariant of docking. -/
structure Docked (session : Session) : Prop where
  docks : Docks session.trace
  tracks : session.planner.Tracks (observations session.trace)

theorem Aside.observations {session after : Session}
    (aside : Aside session after) :
    observations after.trace = observations session.trace := by
  obtain ⟨events, trace, none⟩ := aside.trace
  rw [trace, Displays.observations, Displays.observations,
    List.filterMap_append, List.append_right_eq_self,
    List.filterMap_eq_nil_iff]
  intro event member
  cases event with
  | planned outputs now => exact absurd rfl ((none _ member).1 outputs now)
  | listed _ | saved _ | configured _ _ | docked _ _ => rfl

theorem Aside.docked {session after : Session} (aside : Aside session after)
    (docked : session.Docked) : after.Docked := by
  constructor
  · obtain ⟨events, trace, none⟩ := aside.trace
    rw [trace]
    refine Each.append docked.docks ?_
    intro event member before _ target isDocked
    exact absurd isDocked ((none event member).2 target)
  · rw [aside.planner, aside.observations]
    exact docked.tracks

end Session

namespace Service

open Session

variable {world : Surroundings}

/-- The invariant, and what a plan knows, during a reconciliation. -/
structure Reconciling (plan : Plan) (session : Session) : Prop where
  docked : session.Docked
  settled : plan.disableInternal = true →
    plan.Settled (observations session.trace)

theorem Reconciling.aside {plan : Plan} {session after : Session}
    (reconciling : Reconciling plan session) (aside : Aside session after) :
    Reconciling plan after := by
  constructor
  · exact aside.docked reconciling.docked
  · rw [aside.observations]
    exact reconciling.settled

theorem meets_aside {Value : Type} {service : Service Value}
    (aside : Within Aside service) (plan : Plan) :
    Meets (Reconciling plan) service (fun _ => Reconciling plan)
      (fun _ => Docked) := by
  refine (aside.meets fun _ _ aside reconciling =>
    reconciling.aside aside).weaken (fun _ holds => holds)
    (fun _ _ holds => holds) fun _ _ holds => holds.docked

theorem meets_planning (preferExternal : Bool) (outputs : List Output)
    (now : Nat) :
    Meets Docked (planning preferExternal outputs now)
      (fun plan session => Reconciling plan session ∧
        ∀ target ∈ plan.targets, target.internal = true)
      (fun _ => Docked) := by
  intro session docked
  obtain ⟨tracks, settled, internal⟩ :=
    Planner.plan_spec docked.tracks preferExternal outputs now
  have observed : observations (session.trace ++ [.planned outputs now]) =
      observations session.trace ++ [(outputs, now)] := by
    simp [observations, Event.observation?]
  refine ⟨⟨⟨each_concat_iff.mpr ⟨docked.docks, nofun⟩, ?_⟩, ?_⟩, internal⟩
  · exact observed ▸ tracks
  · intro disables
    exact observed ▸ settled disables

/-- A list of outputs that has just been read and allows to turn the target
off. -/
structure Revalidated (plan : Plan) (target : Output) (session : Session) :
    Prop where
  reconciling : Reconciling plan session
  read : ∃ earlier current,
    session.trace = earlier ++ [.listed current] ∧
      plan.validateDisable target current = .ok ()

theorem meets_revalidate (plan : Plan) (target : Output) :
    Meets (Reconciling plan) (revalidate world plan target)
      (fun _ => Revalidated plan target) (fun _ => Docked) := by
  have read : Meets (Reconciling plan) (outputs world)
      (fun current session => Reconciling plan session ∧
        ∃ earlier, session.trace = earlier ++ [.listed current])
      (fun _ => Docked) := by
    intro session reconciling
    have aside : Aside session (outputs world session).2 :=
      aside_outputs session
    rcases result : outputs world session with ⟨outcome, after⟩
    rw [result] at aside
    cases outcome with
    | ok current =>
        obtain ⟨-, -, rfl⟩ := outputs_eq_ok result
        exact ⟨reconciling.aside aside, session.trace, rfl⟩
    | error error => exact (reconciling.aside aside).docked
  refine (meets_aside (Follows.within_aside within_eligible) plan).bind
    fun _ => read.bind fun current => meets_lift ?_ ?_
  · rintro session _ ⟨reconciling, earlier, trace⟩ valid
    exact ⟨reconciling, earlier, current, trace, valid⟩
  · rintro session cause ⟨reconciling, -⟩ -
    exact reconciling.docked

/-- What the second look establishes. -/
theorem Revalidated.undocked {plan : Plan} {target : Output}
    {session : Session} (revalidated : Revalidated plan target session)
    (disables : plan.disableInternal = true)
    (internal : target.internal = true) :
    Undocked session.trace target := by
  obtain ⟨earlier, current, trace, valid⟩ := revalidated.read
  have settled := revalidated.reconciling.settled disables
  obtain ⟨since, last, steady, longEnough⟩ := settled.steady
  simp only [Plan.validateDisable, ite_eq_right_iff, reduceCtorEq, imp_false,
    not_or, not_not, Bool.not_eq_true] at valid
  obtain ⟨same, present, unmirrored⟩ := valid
  have externals : {signature | signature ∈ plan.external} =
      Output.externals current := by
    rw [externals_eq, same]
  rw [externals] at steady
  refine ⟨internal, earlier, current, trace, ?_, ?_, ?_, since, last,
    longEnough, steady, ?_⟩
  · obtain ⟨signature, member⟩ :=
      List.exists_mem_of_ne_nil _ settled.some_external
    have seen : signature ∈ Output.externals current := externals ▸ member
    obtain ⟨output, listed, external, usable, -⟩ := seen
    exact ⟨output, listed, external, usable⟩
  · simpa using present
  · intro output listed active source isSource sameName
    have mirrored : Output.mirroredBy current target.name = true := by
      refine List.any_eq_true.mpr ⟨output, listed, ?_⟩
      simp [active, isSource, sameName]
    exact absurd unmirrored (by simp [Output.hasActiveMirrors, mirrored])
  · intro ordered observation member recent
    exact steady.recent ordered longEnough member recent

theorem Revalidated.aside {plan : Plan} {target : Output}
    {session after : Session} (revalidated : Revalidated plan target session)
    (aside : Aside session after) (same : after.trace = session.trace) :
    Revalidated plan target after :=
  ⟨revalidated.reconciling.aside aside, same ▸ revalidated.read⟩

variable (world) in
/-- A command that is allowed where it is sent. -/
theorem meets_sendDocking (plan : Plan) (target : Output) (disable : Bool) :
    Meets (fun session => Reconciling plan session ∧
        (disable = true → Undocked session.trace target))
      (sendDocking world target disable)
      (fun _ => Reconciling plan) (fun _ => Docked) := by
  refine Meets.bind (meets_lift (fun _ _ holds _ => holds)
    fun _ _ holds _ => holds.1.docked) fun _ => ?_
  rintro session ⟨reconciling, justified⟩
  have served : Reconciling plan (session.served world) :=
    reconciling.aside ⟨rfl, [], by simp [Session.served]⟩
  have sent : ∀ topology : List Output, Reconciling plan
      { (session.served world).traced (.docked target disable) with
        topology := topology } := by
    intro topology
    have observed : observations (session.trace ++ [.docked target disable]) =
        observations session.trace := by
      simp [observations, Event.observation?]
    refine ⟨⟨each_concat_iff.mpr ⟨reconciling.docked.docks, ?_⟩, ?_⟩, ?_⟩
    · rintro other isDocked
      cases isDocked
      exact justified rfl
    · exact observed ▸ reconciling.docked.tracks
    · exact observed ▸ reconciling.settled
  simp only [perform]
  cases world.fate session.calls with
  | answered => exact sent _
  | failed effective | abandoned effective | crashed effective =>
      cases effective with
      | true => exact (sent _).docked
      | false => exact served.docked

variable [Decimals]

theorem aside_restorePanel (target : Output) :
    Within Aside (restorePanel world target) := by
  refine Within.bind (Within.catching ((Follows.within_aside
    within_load).bind fun _ => within_pure _)) fun restored => ?_
  match restored with
  | .error text => exact within_pure _
  | .ok none => exact within_pure _
  | .ok (some setting) =>
      exact (aside_configure _ _).catching.bind fun _ => within_pure _

omit [Decimals] in
theorem meets_uninterrupted {before : Session → Prop} (generation : Nat)
    (keeps : ∀ session after, before session → Aside session after →
      after.trace = session.trace → before after)
    (docked : ∀ session, before session → session.Docked) :
    Meets before (uninterrupted world generation) (fun _ => before)
      (fun _ => Docked) := by
  have asked : Meets before (sleepInterrupted world generation)
      (fun _ => before) (fun _ => Docked) :=
    fun session holds => keeps session _ holds ⟨rfl, [], by simp⟩ rfl
  exact asked.bind fun interrupted =>
    meets_ensure (fun _ holds _ => holds) fun _ holds _ => docked _ holds

variable (world) in
theorem meets_dockTarget (plan : Plan) (generation : Nat)
    {target : Output} (internal : target.internal = true) :
    Meets (Reconciling plan) (dockTarget world plan generation target)
      (fun _ => Reconciling plan) (fun _ => Docked) := by
  unfold dockTarget
  cases disables : plan.disableInternal with
  | true =>
    simp only [if_true]
    refine (meets_revalidate plan target).bind fun _ =>
      (meets_uninterrupted generation
        (fun _ _ holds aside same => holds.aside aside same)
        fun _ holds => holds.reconciling.docked).bind fun _ => ?_
    refine (meets_sendDocking world plan target true).weaken ?_
      (fun _ _ holds => holds) fun _ _ holds => holds
    intro session holds
    exact ⟨holds.reconciling, fun _ => holds.undocked disables internal⟩
  | false =>
    simp only [Bool.false_eq_true, if_false]
    refine (meets_uninterrupted generation (fun _ _ holds aside _ =>
        holds.aside aside) fun _ holds => holds.docked).bind fun _ =>
      (meets_aside (aside_restorePanel target) plan).bind fun restored => ?_
    refine meets_ite (fun _ => meets_pure fun _ holds => holds) fun _ => ?_
    exact (meets_sendDocking world plan target false).weaken
      (fun session holds => ⟨holds, nofun⟩) (fun _ _ holds => holds)
      fun _ _ holds => holds

omit [Decimals] in
theorem meets_quiet {Value : Type} {service : Service Value}
    (aside : Within Aside service) :
    Meets Docked service (fun _ => Docked) (fun _ => Docked) :=
  aside.meets fun _ _ aside docked => aside.docked docked

theorem meets_reconcile (preferExternal preserveEnablement : Bool)
    (now : Nat) :
    Meets Docked (reconcile world preferExternal preserveEnablement now)
      (fun _ => Docked) (fun _ => Docked) := by
  have reset : Meets Docked resetPlanner (fun _ => Docked)
      (fun _ : Failure => Docked) := by
    refine meets_change fun session docked => ?_
    exact ⟨docked.docks, Planner.tracks_reset _⟩
  refine (meets_quiet (Follows.within_aside within_sleepState)).bind fun sleep =>
    meets_ite (fun _ => reset.bind fun _ => meets_pure fun _ holds => holds)
      fun _ => (meets_quiet (Follows.within_aside within_eligible)).bind fun _ =>
        (meets_quiet aside_outputs).bind fun current =>
          meets_ite (fun _ => reset.bind fun _ =>
            meets_pure fun _ holds => holds) fun _ =>
              (meets_planning preferExternal current now).bind fun plan => ?_
  have loop : Meets (fun session => Reconciling plan session ∧
        ∀ target ∈ plan.targets, target.internal = true)
      (forEach (dockTarget world plan sleep.2) plan.targets)
      (fun _ => Reconciling plan) (fun _ => Docked) := by
    let invariant (_ ahead : List Output) (session : Session) : Prop :=
      Reconciling plan session ∧ ∀ target ∈ ahead, target.internal = true
    suffices body : ∀ behind target ahead,
        Meets (invariant behind (target :: ahead))
          (dockTarget world plan sleep.2 target)
          (fun _ => invariant (behind ++ [target]) ahead)
          (fun _ => Docked) from
      (meets_forEach invariant body [] plan.targets).weaken (fun _ holds => holds)
        (fun _ _ holds => holds.1) fun _ _ holds => holds
    intro behind target ahead session ⟨reconciling, internal⟩
    have spec := meets_dockTarget world plan sleep.2
      (internal target (by simp)) session reconciling
    rcases result : dockTarget world plan sleep.2 target session with
      ⟨outcome, after⟩
    rw [result] at spec
    cases outcome with
    | ok done =>
        exact ⟨spec, fun other member => internal other (by simp [member])⟩
    | error error => exact spec
  exact loop.bind fun _ => (meets_aside aside_outputs plan).bind fun _ =>
    (meets_uninterrupted sleep.2 (fun _ _ holds aside _ =>
      holds.aside aside) fun _ holds => holds.docked).bind fun _ =>
        meets_pure fun _ holds => holds.docked

variable (world) in
theorem meets_refresh (docking : DockingState) :
    Meets Docked (refresh world docking) (fun _ => Docked)
      (fun _ => Docked) := by
  have reconciled : ∀ preferExternal preserve now,
      Meets Docked (caught (reconcile world preferExternal preserve now))
        (fun _ => Docked) (fun _ => Docked) := by
    intro preferExternal preserve now
    refine Meets.catching ((meets_reconcile _ _ _).weaken
      (fun _ holds => holds) (fun _ _ holds => holds) ?_)
    intro failure session docked
    cases failure with
    | error text => exact docked
    | abandoned => exact docked
    | crashed => exact docked
  refine (meets_quiet (Follows.within_aside within_loadPolicy)).bind fun _ =>
    (meets_quiet aside_tick.catching).bind fun ticked =>
    (meets_quiet (Follows.within_aside within_instant)).bind fun _ =>
    (reconciled _ _ _).bind fun result =>
    Meets.bind ?_ fun _ => meets_quiet ?_
  · cases result with
    | ok status => exact meets_pure fun _ holds => holds
    | error text =>
        exact (meets_quiet aside_outputs.catching).bind
          fun _ => meets_pure fun _ holds => holds
  · unfold conclusion
    split
    · exact within_fail _
    · exact within_fail _
    · exact within_pure _

end Service

namespace Session

variable {world : Surroundings}

/-- Forgetting the candidate keeps the invariant. -/
theorem Docked.forget {session after : Session} (docked : session.Docked)
    (trace : after.trace = session.trace) (planner : after.planner = .reset) :
    after.Docked := by
  constructor
  · exact trace ▸ docked.docks
  · exact planner ▸ Planner.tracks_reset _

theorem docked_initial (topology : List Output) (disk : Document)
    (preferExternal : Bool) :
    (initial topology disk preferExternal).Docked :=
  ⟨each_nil, Planner.tracks_reset _⟩

theorem Docked.noticed {session : Session} (docked : session.Docked)
    (resume : Nat) : (session.noticed resume).Docked := by
  unfold Session.noticed
  split
  · exact docked.forget rfl rfl
  · exact docked

variable [Decimals]

theorem Docked.monitored {session : Session} (docked : session.Docked) :
    (session.monitored world).Docked := by
  have noticed := docked.noticed (world.sleep session.calls).2
  have begun : (session.begun world).Docked := ⟨noticed.docks, noticed.tracks⟩
  have kept := (Service.meets_refresh world
    (world.docking session.calls)).after begun
  unfold Session.monitored
  rcases result : Service.refresh world (world.docking session.calls)
    (session.begun world) with ⟨outcome, after⟩
  rw [result] at kept
  match outcome with
  | .ok status => exact kept
  | .error .crashed => exact kept.forget rfl rfl
  | .error .abandoned => exact kept.forget rfl rfl
  | .error (.error text) => exact kept.forget rfl rfl

omit [Decimals] in
theorem Docked.settled {Value : Type} {service : Service Value}
    (aside : Within Aside service) {session : Session}
    (docked : session.Docked) : (Session.settled (service session)).Docked := by
  have kept := (aside session).docked docked
  rcases result : service session with ⟨outcome, after⟩
  rw [result] at kept
  unfold Session.settled
  split
  · rename_i same
    cases same
    exact kept.forget rfl rfl
  · rename_i same
    cases same
    exact kept

theorem Docked.step {session : Session} (docked : session.Docked)
    (request : Request) : (step world session request).Docked := by
  cases request with
  | monitor => exact docked.monitored
  | preview baseline settings =>
      exact docked.settled (Service.aside_preview baseline settings)
  | finish id confirm =>
      exact docked.settled (Service.aside_finish id confirm)
  | setPolicy preferExternal =>
      exact docked.settled (Service.aside_setPolicy preferExternal)
  | restart => exact docked.forget rfl rfl

variable (world) in
/-- In every run, a panel is turned off only right after a look at the outputs
that shows a usable external one, the unmirrored panel itself, and the
external outputs of the last five seconds of observations. -/
theorem undocked_only_when_steady (topology : List Output) (disk : Document)
    (preferExternal : Bool) (requests : List Request) :
    Docks (run (step world) (initial topology disk preferExternal)
      requests).trace := by
  have preserved : ∀ session request, Docked session → True →
      Docked (step world session request) :=
    fun _ request docked _ => docked.step request
  exact (invariant_run preserved
    (docked_initial topology disk preferExternal)
    (stepsMeet_of_forall (fun _ _ => trivial) _ requests)).docks

end Session

end BarDaemon.Displays
