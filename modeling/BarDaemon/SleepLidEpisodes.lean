import BarDaemon.SleepLid

/-!
# Lid actions and the closes they answer

Every action of a run answers a close of the lid, or repeats one that has
failed while the lid has stayed closed.  A close is answered exactly when no
earlier action is running.
-/

namespace BarDaemon.SleepPolicies

open TransitionRuns

/-! ### Reading a trace -/

/-- The last observation of the present connection, as closed and eligible. -/
def lastSeen (trace : List LidMark) : Option (Bool × Bool) :=
  trace.foldl (fun last mark =>
    match mark with
    | .observed _ closed eligible => some (closed, eligible)
    | .disconnected => none
    | _ => last) none

/-- Whether an action is running. -/
def busy (trace : List LidMark) : Bool :=
  trace.foldl (fun running mark =>
    match mark with
    | .started _ => true
    | .completed => false
    | .disconnected => false
    | .observed .. => running) false

/-- The lid stays closed and eligible, under one policy. -/
def LidMark.Steady (policy : SleepPolicy) : LidMark → Prop
  | .observed seen closed eligible =>
      seen = policy ∧ closed = true ∧ eligible = true
  | .started _ => True
  | .completed => True
  | .disconnected => False

/-- The eligible lid was open when it was last seen. -/
def Opened (trace : List LidMark) : Prop :=
  lastSeen trace = some (false, true)

/-- An action of the same close has ended, under the same policy. -/
def Retries (trace : List LidMark) (policy : SleepPolicy) : Prop :=
  ∃ early first late, trace = early ++ .started first :: late ∧
    first.policy = policy ∧ .completed ∈ late ∧
      ∀ mark ∈ late, mark.Steady policy

/-- What an action may be started for. -/
def LidMark.Permitted (trace : List LidMark) : LidMark → Prop
  | .started request => ∃ before,
      trace = before ++ [.observed request.policy true true] ∧
        (Opened before ∨ Retries before request.policy)
  | _ => True

@[simp]
theorem lastSeen_append_observed (trace : List LidMark) (policy : SleepPolicy)
    (closed eligible : Bool) :
    lastSeen (trace ++ [.observed policy closed eligible]) =
      some (closed, eligible) := by
  simp [lastSeen]

@[simp]
theorem lastSeen_append_started (trace : List LidMark)
    (request : LidRequest) :
    lastSeen (trace ++ [.started request]) = lastSeen trace := by
  simp [lastSeen]

@[simp]
theorem lastSeen_append_completed (trace : List LidMark) :
    lastSeen (trace ++ [.completed]) = lastSeen trace := by
  simp [lastSeen]

@[simp]
theorem lastSeen_append_disconnected (trace : List LidMark) :
    lastSeen (trace ++ [.disconnected]) = none := by
  simp [lastSeen]

@[simp]
theorem busy_append_observed (trace : List LidMark) (policy : SleepPolicy)
    (closed eligible : Bool) :
    busy (trace ++ [.observed policy closed eligible]) = busy trace := by
  simp [busy]

@[simp]
theorem busy_append_started (trace : List LidMark) (request : LidRequest) :
    busy (trace ++ [.started request]) = true := by
  simp [busy]

@[simp]
theorem busy_append_completed (trace : List LidMark) :
    busy (trace ++ [.completed]) = false := by
  simp [busy]

@[simp]
theorem busy_append_disconnected (trace : List LidMark) :
    busy (trace ++ [.disconnected]) = false := by
  simp [busy]

/-! ### The invariant of a session -/

/-- The edge that a trace leaves. -/
def edgeAfter (trace : List LidMark) : LidEdge :=
  match lastSeen trace with
  | none => .default
  | some (closed, eligible) => ⟨some closed, eligible⟩

/-- The chain of retries belongs to one close. -/
structure LidRetry.Follows (retry : LidRetry) (trace : List LidMark) :
    Prop where
  /-- A pending retry follows an action that has ended. -/
  episode : ∀ policy, retry.policy = some policy →
    ∃ early first late, trace = early ++ .started first :: late ∧
      first.policy = policy ∧ (retry.deadline.isSome → .completed ∈ late) ∧
        ∀ mark ∈ late, mark.Steady policy
  pending : retry.policy = none → retry.deadline = none
  /-- Opening the lid ends the chain. -/
  ended : Opened trace → retry.policy = none

/-- A close is answered at once, or not at all while the lid stays closed. -/
def LidSession.Answers (session : LidSession) : Prop :=
  ∀ before policy later,
    session.trace = before ++ .observed policy true true :: later →
    Opened before → (∀ mark ∈ later, mark.Steady policy) →
      if busy before = true then
        session.controller.retry.policy = none ∧
          ∀ request, .started request ∉ later
      else ∃ request, .started request ∈ later

structure LidSession.Sound (session : LidSession) : Prop where
  edge : session.controller.edge = edgeAfter session.trace
  alone : session.controller.actions.length ≤ 1
  running : session.controller.actions.isEmpty = !busy session.trace
  retry : session.controller.retry.Follows session.trace
  permitted : Traces.Each LidMark.Permitted session.trace
  answers : session.Answers

/-! ### Retries -/

namespace LidRetry

variable {retry : LidRetry} {trace : List LidMark}

theorem follows_cleared : cleared.Follows trace :=
  ⟨nofun, fun _ => rfl, fun _ => rfl⟩

/-- A chain that survives an observation was made for this policy. -/
theorem reconcile_eq (policy : SleepPolicy) (eligible : Bool) :
    retry.reconcile policy eligible = cleared ∨
      retry.reconcile policy eligible = retry ∧ eligible = true ∧
        ∀ other, retry.policy = some other → other = policy := by
  unfold reconcile
  split
  · exact .inl rfl
  · rename_i kept
    refine .inr ⟨rfl, ?_, ?_⟩
    · cases eligible with
      | true => rfl
      | false => simp at kept
    · intro other present
      by_contra differs
      simp [present, differs] at kept

/-- The chain after an observation. -/
theorem Follows.reconcile (follows : retry.Follows trace)
    (policy : SleepPolicy) (closed eligible : Bool) :
    (retry.reconcile policy (closed && eligible)).Follows
      (trace ++ [.observed policy closed eligible]) := by
  rcases retry.reconcile_eq policy (closed && eligible) with
    cleared | ⟨kept, steady, same⟩
  · rw [cleared]
    exact follows_cleared
  · rw [kept]
    rw [Bool.and_eq_true] at steady
    refine ⟨?_, follows.pending, ?_⟩
    · intro other present
      obtain ⟨early, first, late, rfl, equal, ended, throughout⟩ :=
        follows.episode other present
      refine ⟨early, first, late ++ [.observed policy closed eligible],
        by simp, equal, fun waits => ?_, ?_⟩
      · exact List.mem_append_left _ (ended waits)
      · intro mark member
        rcases List.mem_append.mp member with earlier | last
        · exact throughout mark earlier
        · obtain rfl := List.mem_singleton.mp last
          exact ⟨(same other present).symm, steady.1, steady.2⟩
    · intro opened
      simp [Opened, steady.1] at opened

/-- What a chain that is due says of the trace. -/
theorem Follows.retries (follows : retry.Follows trace)
    {policy : SleepPolicy} (present : retry.policy = some policy)
    (waits : retry.deadline.isSome) : Retries trace policy := by
  obtain ⟨early, first, late, same, equal, ended, throughout⟩ :=
    follows.episode policy present
  exact ⟨early, first, late, same, equal, ended waits, throughout⟩

/-- The same chain, without its deadline. -/
theorem Follows.waived (follows : retry.Follows trace) :
    { retry with deadline := none }.Follows trace := by
  refine ⟨?_, fun _ => rfl, follows.ended⟩
  intro policy present
  obtain ⟨early, first, late, same, equal, -, throughout⟩ :=
    follows.episode policy present
  exact ⟨early, first, late, same, equal, nofun, throughout⟩

/-- A chain follows whatever else happens while the lid stays closed. -/
theorem Follows.concat (follows : retry.Follows trace) {mark : LidMark}
    (steady : ∀ policy, mark.Steady policy)
    (same : lastSeen (trace ++ [mark]) = lastSeen trace) :
    retry.Follows (trace ++ [mark]) := by
  refine ⟨?_, follows.pending, ?_⟩
  · intro policy present
    obtain ⟨early, first, late, rfl, equal, ended, throughout⟩ :=
      follows.episode policy present
    refine ⟨early, first, late ++ [mark], by simp, equal,
      fun waits => List.mem_append_left _ (ended waits), ?_⟩
    intro other member
    rcases List.mem_append.mp member with earlier | last
    · exact throughout other earlier
    · obtain rfl := List.mem_singleton.mp last
      exact steady policy
  · intro opened
    rw [Opened, same] at opened
    exact follows.ended opened

/-- A new chain begins with its action. -/
theorem follows_start (request : LidRequest)
    (closed : lastSeen trace ≠ some (false, true)) :
    (start request.policy).Follows (trace ++ [.started request]) := by
  refine ⟨?_, nofun, ?_⟩
  · intro policy present
    obtain rfl := Option.some.inj present
    exact ⟨trace, request, [], rfl, rfl, nofun, by simp⟩
  · intro opened
    rw [Opened, lastSeen_append_started] at opened
    exact absurd opened closed

theorem due_cases (now operation : Nat) :
    (retry.due now operation).1 = false ∧
        ((retry.due now operation).2 = cleared ∨
          (retry.due now operation).2 = retry) ∨
      (retry.due now operation).1 = true ∧ retry.deadline.isSome = true ∧
        (retry.due now operation).2 = { retry with deadline := none } := by
  unfold due
  split
  · left
    simp [cleared]
  · dsimp only
    split
    · rename_i reached
      right
      refine ⟨rfl, ?_, rfl⟩
      cases waits : retry.deadline with
      | none => simp [waits] at reached
      | some deadline => rfl
    · exact .inl ⟨rfl, .inr rfl⟩

/-- After a failure the chain waits, or it ends. -/
theorem Follows.failed (follows : retry.Follows trace) (now : Nat)
    (failure : ActionFailure) :
    (retry.failed now failure).2.Follows (trace ++ [.completed]) := by
  have steady : retry.Follows (trace ++ [.completed]) :=
    follows.concat (fun _ => trivial) (by simp)
  unfold LidRetry.failed
  split
  · exact follows_cleared
  · split
    · exact follows_cleared
    · split
      · exact steady
      · refine ⟨?_, ?_, steady.ended⟩
        · intro policy present
          obtain ⟨early, first, late, rfl, equal, -, throughout⟩ :=
            follows.episode policy present
          refine ⟨early, first, late ++ [.completed], by simp, equal,
            fun _ => by simp, ?_⟩
          intro mark member
          rcases List.mem_append.mp member with earlier | last
          · exact throughout mark earlier
          · obtain rfl := List.mem_singleton.mp last
            exact trivial
        · intro absent
          rename_i present
          simp only at absent
          simp [absent] at present

/-- A chain without a policy gets none but by a new close. -/
theorem reconcile_policy_none (absent : retry.policy = none)
    (policy : SleepPolicy) (eligible : Bool) :
    (retry.reconcile policy eligible).policy = none := by
  rcases retry.reconcile_eq policy eligible with cleared | ⟨kept, -, -⟩
  · rw [cleared]
    rfl
  · rw [kept, absent]

theorem failed_policy_none (absent : retry.policy = none) (now : Nat)
    (failure : ActionFailure) :
    (retry.failed now failure).2.policy = none := by
  unfold LidRetry.failed
  split
  · rfl
  · split
    · rfl
    · simp [absent]

end LidRetry

/-! ### Edges -/

theorem edgeAfter_observe_iff {trace : List LidMark}
    {closed eligible : Bool} :
    ((edgeAfter trace).observe closed eligible).1 = true ↔
      Opened trace ∧ closed = true ∧ eligible = true := by
  unfold Opened edgeAfter
  rcases lastSeen trace with _ | ⟨previous, before⟩
  · simp [LidEdge.observe, LidEdge.default]
  · simp only [LidEdge.observe, Bool.and_eq_true, beq_iff_eq,
      Option.some.injEq, Prod.mk.injEq]
    tauto

theorem edgeAfter_append_observed (trace : List LidMark)
    (policy : SleepPolicy) (closed eligible : Bool) :
    edgeAfter (trace ++ [.observed policy closed eligible]) =
      ((edgeAfter trace).observe closed eligible).2 := by
  simp [edgeAfter, LidEdge.observe]

/-- While the lid stays closed, it is closed when it was last seen. -/
theorem lastSeen_steady {before later : List LidMark} {policy : SleepPolicy}
    (steady : ∀ mark ∈ later, mark.Steady policy) :
    lastSeen (before ++ .observed policy true true :: later) =
      some (true, true) := by
  induction later using List.reverseRecOn with
  | nil => simp
  | append_singleton later mark ih =>
      have earlier := ih fun other member => steady other (by simp [member])
      have last := steady mark (by simp)
      rw [← List.cons_append, ← List.append_assoc]
      cases mark with
      | observed seen closed eligible =>
          obtain ⟨-, rfl, rfl⟩ := last
          rw [lastSeen_append_observed]
      | started request => rw [lastSeen_append_started, earlier]
      | completed => rw [lastSeen_append_completed, earlier]
      | disconnected => exact last.elim

/-- Where an observation stands in a trace that has grown. -/
theorem split_of_append {trace before later starts : List LidMark}
    {mark seen : LidMark} (other : seen ∉ starts)
    (same : trace ++ mark :: starts = before ++ seen :: later) :
    (before = trace ∧ mark = seen ∧ later = starts) ∨
      ∃ rest, trace = before ++ seen :: rest ∧
        later = rest ++ mark :: starts := by
  rcases List.append_eq_append_iff.mp same with
    ⟨more, rfl, rest⟩ | ⟨rest, rfl, more⟩
  · cases more with
    | nil =>
        obtain ⟨rfl, rfl⟩ := List.cons.inj rest
        exact .inl ⟨by simp, rfl, rfl⟩
    | cons first more =>
        obtain ⟨rfl, rfl⟩ := List.cons.inj rest
        simp at other
  · cases rest with
    | nil =>
        obtain ⟨rfl, rfl⟩ := List.cons.inj more
        exact .inl ⟨by simp, rfl, rfl⟩
    | cons first rest =>
        obtain ⟨rfl, rfl⟩ := List.cons.inj more
        exact .inr ⟨rest, rfl, rfl⟩

/-! ### One step -/

namespace LidSession

variable {session : LidSession}

/-- The answers so far are kept by a step that starts nothing for a close
that has not been answered. -/
theorem Answers.append (answers : session.Answers)
    {mark : LidMark} {starts : List LidMark} {controller : LidController}
    (still : ∀ policy closed eligible,
      LidMark.observed policy closed eligible ∉ starts)
    (fresh : ∀ policy, mark = .observed policy true true →
      Opened session.trace →
        if busy session.trace = true then
          controller.retry.policy = none ∧ starts = []
        else ∃ request, .started request ∈ starts)
    (quiet : lastSeen session.trace = some (true, true) →
      (∃ policy, mark.Steady policy) →
      session.controller.retry.policy = none →
        controller.retry.policy = none ∧
          ∀ request, .started request ∉ mark :: starts) :
    LidSession.Answers ⟨controller, session.trace ++ mark :: starts⟩ := by
  intro before policy later same opened steady
  rcases split_of_append (still policy true true) same with
    ⟨rfl, rfl, rfl⟩ | ⟨rest, earlier, rfl⟩
  · have answer := fresh policy rfl opened
    split
    · rename_i running
      rw [if_pos running] at answer
      exact ⟨answer.1, by simp [answer.2]⟩
    · rename_i idle
      rw [if_neg idle] at answer
      exact answer
  · have before' : ∀ other ∈ rest, other.Steady policy :=
      fun other member => steady other (by simp [member])
    have answer := answers before policy rest earlier opened before'
    split
    · rename_i running
      rw [if_pos running] at answer
      have closed : lastSeen session.trace = some (true, true) := by
        rw [earlier]
        exact lastSeen_steady before'
      obtain ⟨absent, none⟩ := quiet closed
        ⟨policy, steady mark (by simp)⟩ answer.1
      refine ⟨absent, fun request member => ?_⟩
      rcases List.mem_append.mp member with old | new
      · exact answer.2 request old
      · exact none request new
    · rename_i idle
      rw [if_neg idle] at answer
      obtain ⟨request, member⟩ := answer
      exact ⟨request, List.mem_append_left _ member⟩

theorem sound_initial : initial.Sound where
  edge := rfl
  alone := by simp [initial, LidController.connected]
  running := rfl
  retry := LidRetry.follows_cleared
  permitted := Traces.each_nil
  answers := by
    intro before policy later same
    simp [initial] at same

theorem Sound.disconnected (sound : session.Sound) :
    session.disconnected.Sound where
  edge := by simp [LidSession.disconnected, edgeAfter, LidController.connected]
  alone := by simp [LidSession.disconnected, LidController.connected]
  running := by simp [LidSession.disconnected, LidController.connected]
  retry := LidRetry.follows_cleared
  permitted := Traces.each_concat_iff.mpr ⟨sound.permitted, trivial⟩
  answers := by
    apply sound.answers.append (by simp)
    · intro policy other
      nomatch other
    · rintro - ⟨policy, impossible⟩
      exact impossible.elim

theorem Sound.completed (sound : session.Sound) {index : Nat}
    (running : index < session.controller.actions.length) (now : Nat)
    (completion : LidCompletion) :
    LidSession.Sound
      ⟨{ session.controller.completed now completion with
          actions := session.controller.actions.eraseIdx index },
        session.trace ++ [.completed]⟩ := by
  have alone := sound.alone
  have empty : session.controller.actions.eraseIdx index = [] := by
    apply List.eq_nil_of_length_eq_zero
    rw [List.length_eraseIdx_of_lt running]
    omega
  have edge : (session.controller.completed now completion).edge =
      session.controller.edge := by
    cases completion <;> rfl
  have follows : (session.controller.completed now completion).retry.Follows
      (session.trace ++ [.completed]) := by
    cases completion with
    | finished => exact LidRetry.follows_cleared
    | failed failure => exact sound.retry.failed now failure
    | ended text => exact LidRetry.follows_cleared
  refine ⟨?_, ?_, ?_, follows, ?_, ?_⟩
  · simp [edge, sound.edge, edgeAfter]
  · simp [empty]
  · simp [empty]
  · exact Traces.each_concat_iff.mpr ⟨sound.permitted, trivial⟩
  · apply sound.answers.append (by simp)
    · intro policy other
      nomatch other
    · intro _ _ absent
      refine ⟨?_, by simp⟩
      cases completion with
      | finished => rfl
      | failed failure => exact LidRetry.failed_policy_none absent now failure
      | ended text => rfl

theorem Sound.empty (sound : session.Sound)
    (idle : busy session.trace = false) : session.controller.actions = [] := by
  have running := sound.running
  rw [idle] at running
  simpa using running

/-- What an observation can start, and the chain of retries that it leaves. -/
inductive Decides (session : LidSession) (view : LidView) :
    Option LidRequest × LidRetry → Prop
  /-- A close is passed over only while an action is running. -/
  | waits (retry : LidRetry)
      (running : Opened session.trace → view.closed = true →
        view.eligible = true → busy session.trace = true)
      (follows : retry.Follows (session.trace ++
        [.observed view.policy view.closed view.eligible]))
      (kept : session.controller.retry.policy = none → retry.policy = none) :
      Decides session view (none, retry)
  | answers (operation : Nat) (idle : busy session.trace = false)
      (opened : Opened session.trace) (closed : view.closed = true)
      (eligible : view.eligible = true) :
      Decides session view (some ⟨view.policy, operation⟩, .start view.policy)
  | retries (operation : Nat) (retry : LidRetry)
      (idle : busy session.trace = false)
      (closed : view.closed = true) (eligible : view.eligible = true)
      (again : Retries session.trace view.policy)
      (chained : session.controller.retry.policy ≠ none)
      (follows : retry.Follows (session.trace ++
        [.observed view.policy view.closed view.eligible])) :
      Decides session view (some ⟨view.policy, operation⟩, retry)

/-- A retry that is due. -/
theorem Sound.decides_due (sound : session.Sound) (view : LidView)
    (now operation : Nat) (idle : busy session.trace = false)
    (quiet : ¬ (Opened session.trace ∧ view.closed = true ∧
      view.eligible = true)) :
    let due := (session.controller.retry.reconcile view.policy
      (view.closed && view.eligible)).due now operation
    Decides session view
      (if due.1 then some ⟨view.policy, due.2.operation⟩ else none, due.2) := by
  intro due
  have follows := sound.retry.reconcile view.policy view.closed view.eligible
  have kept : session.controller.retry.policy = none →
      (session.controller.retry.reconcile view.policy
        (view.closed && view.eligible)).policy = none :=
    fun absent => LidRetry.reconcile_policy_none absent _ _
  have passed : Opened session.trace → view.closed = true →
      view.eligible = true → busy session.trace = true :=
    fun opened closed eligible => absurd ⟨opened, closed, eligible⟩ quiet
  rcases (session.controller.retry.reconcile view.policy
      (view.closed && view.eligible)).due_cases now operation with
    ⟨later, ended | ended⟩ | ⟨reached, waits, left⟩
  · simp only [due, later, ended]
    exact .waits _ passed LidRetry.follows_cleared fun _ => rfl
  · simp only [due, later, ended]
    exact .waits _ passed follows kept
  · rcases session.controller.retry.reconcile_eq view.policy
      (view.closed && view.eligible) with cleared | ⟨same, steady, equal⟩
    · rw [cleared] at waits
      nomatch waits
    · rw [Bool.and_eq_true] at steady
      have chained : session.controller.retry.policy ≠ none := by
        intro absent
        rw [same, sound.retry.pending absent] at waits
        nomatch waits
      obtain ⟨policy, present⟩ := Option.ne_none_iff_exists'.mp chained
      obtain rfl := equal policy present
      rw [same] at reached waits left follows
      simp only [due, reached, same, left, if_true]
      exact .retries _ _ idle steady.1 steady.2
        (sound.retry.retries present waits) chained follows.waived

theorem Sound.decides (sound : session.Sound) (view : LidView)
    (now operation : Nat) :
    Decides session view (session.controller.request view
      (session.controller.edge.observe view.closed view.eligible).1 now
        operation) := by
  have running := sound.running
  have triggers := @edgeAfter_observe_iff session.trace view.closed
    view.eligible
  rw [← sound.edge] at triggers
  unfold LidController.request
  by_cases empty : session.controller.actions.isEmpty = true
  · have idle : busy session.trace = false := by simpa [empty] using running
    rw [if_pos empty]
    by_cases triggered : (session.controller.edge.observe view.closed
        view.eligible).1 = true
    · obtain ⟨opened, closed, eligible⟩ := triggers.mp triggered
      rw [if_pos triggered]
      exact .answers operation idle opened closed eligible
    · rw [if_neg triggered]
      exact sound.decides_due view now operation idle
        (mt triggers.mpr triggered)
  · rw [if_neg empty]
    exact .waits _ (fun _ _ _ => by simpa [empty] using running)
      (sound.retry.reconcile view.policy view.closed view.eligible)
      fun absent => LidRetry.reconcile_policy_none absent _ _

/-- An observation that starts an action for a good reason. -/
theorem Sound.started (sound : session.Sound) {policy : SleepPolicy}
    {operation : Nat} {controller : LidController}
    (idle : busy session.trace = false)
    (reason : Opened session.trace ∨ Retries session.trace policy)
    (edge : controller.edge =
      edgeAfter (session.trace ++ [.observed policy true true]))
    (actions : controller.actions =
      session.controller.actions ++ [⟨policy, operation⟩])
    (follows : controller.retry.Follows (session.trace ++
      [.observed policy true true] ++ [.started ⟨policy, operation⟩]))
    (answers : LidSession.Answers ⟨controller, session.trace ++
      .observed policy true true :: [.started ⟨policy, operation⟩]⟩) :
    LidSession.Sound ⟨controller, session.trace ++
      .observed policy true true :: [.started ⟨policy, operation⟩]⟩ := by
  have split : session.trace ++
      .observed policy true true :: [.started ⟨policy, operation⟩] =
        session.trace ++ [.observed policy true true] ++
          [.started ⟨policy, operation⟩] := by
    simp
  have permitted : Traces.Each LidMark.Permitted
      (session.trace ++ [.observed policy true true]) :=
    Traces.each_concat_iff.mpr ⟨sound.permitted, trivial⟩
  refine ⟨?_, ?_, ?_, ?_, ?_, answers⟩
  · simp only [split, edge, edgeAfter, lastSeen_append_started]
  · simp [actions, sound.empty idle]
  · simp only [split, busy_append_started, actions]
    simp
  · simpa only [split] using follows
  · simp only [split]
    exact Traces.each_concat_iff.mpr ⟨permitted, session.trace, rfl, reason⟩

/-- An observation and what it starts, in the trace. -/
theorem Sound.observed (sound : session.Sound) (view : LidView)
    (now operation : Nat) :
    let seen := session.controller.observe view now operation
    LidSession.Sound ⟨seen.2, session.trace ++
      .observed view.policy view.closed view.eligible ::
        seen.1.toList.map .started⟩ := by
  intro seen
  have edge : seen.2.edge = edgeAfter (session.trace ++
      [.observed view.policy view.closed view.eligible]) := by
    rw [edgeAfter_append_observed, ← sound.edge]
    rfl
  have permitted : Traces.Each LidMark.Permitted (session.trace ++
      [.observed view.policy view.closed view.eligible]) :=
    Traces.each_concat_iff.mpr ⟨sound.permitted, trivial⟩
  have decided := sound.decides view now operation
  have started : (seen.1, seen.2.retry) = session.controller.request view
      (session.controller.edge.observe view.closed view.eligible).1 now
        operation := rfl
  have actions : seen.2.actions =
      session.controller.actions ++ seen.1.toList := rfl
  rw [← started] at decided
  have alone := sound.alone
  have running := sound.running
  generalize seen = result at *
  obtain ⟨request, controller⟩ := result
  simp only at edge decided actions
  generalize kept : controller.retry = retry at decided
  cases decided with
  | waits _ passed follows none_kept =>
      subst kept
      have same : controller.actions = session.controller.actions := by
        simpa using actions
      refine ⟨edge, by rw [same]; exact alone, ?_, follows, permitted, ?_⟩
      · rw [same, running]
        simp
      · apply sound.answers.append (by simp)
        · intro policy now opened
          simp only [LidMark.observed.injEq] at now
          have taken := passed opened now.2.1 now.2.2
          rw [if_pos taken]
          exact ⟨none_kept (sound.retry.ended opened), rfl⟩
        · intro _ _ absent
          exact ⟨none_kept absent, by simp⟩
  | answers operation idle opened closed eligible =>
      rw [closed, eligible] at edge ⊢
      apply sound.started idle (.inl opened) edge actions
      · have closing : lastSeen (session.trace ++
            [.observed view.policy true true]) ≠ some (false, true) := by
          simp
        rw [kept]
        exact LidRetry.follows_start ⟨view.policy, operation⟩ closing
      · apply sound.answers.append (by simp)
        · intro policy same _
          rw [if_neg (by simp [idle])]
          exact ⟨_, List.mem_singleton.mpr rfl⟩
        · intro seen
          rw [opened] at seen
          simp at seen
  | retries operation _ idle closed eligible again chained follows =>
      subst kept
      rw [closed, eligible] at edge follows ⊢
      apply sound.started idle (.inr again) edge actions
      · exact follows.concat (fun _ => trivial) (lastSeen_append_started _ _)
      · apply sound.answers.append (by simp)
        · intro _ _ opened
          exact absurd (sound.retry.ended opened) chained
        · intro _ _ absent
          exact absurd absent chained

theorem Sound.step (sound : session.Sound) (event : LidEvent) :
    (session.step event).Sound := by
  cases event with
  | observe reading =>
      simp only [LidSession.step]
      cases session.controller.look reading with
      | error text => exact sound.disconnected
      | ok view => exact sound.observed view reading.now reading.operation
  | complete index now completion =>
      simp only [LidSession.step]
      split
      · rename_i running
        exact sound.completed running now completion
      · exact sound
  | disconnect => exact sound.disconnected

theorem sound_after (events : List LidEvent) : (after events).Sound := by
  have unconditional : StepsMeet step (fun _ _ => True) initial events :=
    stepsMeet_of_forall (fun _ _ => trivial) initial events
  have preserved : ∀ session event, Sound session → True →
      Sound (session.step event) :=
    fun _ event sound _ => sound.step event
  exact invariant_run preserved sound_initial unconditional

/-- Every action that is started answers an eligible close, or repeats an
action of the same close under the same policy.  While the lid stays closed,
eligible and under one policy, a close has an action exactly when no earlier
action was running as it was seen. -/
theorem lid_actions (events : List LidEvent) :
    Traces.Each LidMark.Permitted (after events).trace ∧
      ∀ before policy later,
        (after events).trace =
          before ++ .observed policy true true :: later →
        Opened before → (∀ mark ∈ later, mark.Steady policy) →
          ((∃ request, .started request ∈ later) ↔ busy before = false) := by
  have sound := sound_after events
  refine ⟨sound.permitted, ?_⟩
  intro before policy later same opened steady
  have answer := sound.answers before policy later same opened steady
  cases running : busy before with
  | true =>
      rw [if_pos running] at answer
      constructor
      · rintro ⟨request, member⟩
        exact absurd member (answer.2 request)
      · nofun
  | false =>
      rw [if_neg (by simp [running])] at answer
      exact ⟨fun _ => rfl, fun _ => answer⟩

/-- Suspend on closing the lid. -/
def suspending : SleepPolicy :=
  { SleepPolicy.default with lidAction := .suspend }

def lidReading (closed : Bool) : LidReading :=
  ⟨.ok suspending, .ok true, .ok (), .ok closed, .ok false, 7, 0⟩

/-- A single close has an action. -/
theorem lid_actions_once :
    ∃ request, .started request ∈ [LidMark.started ⟨suspending, 7⟩] :=
  ((lid_actions [.observe (lidReading false), .observe (lidReading true)]).2
    [.observed suspending false true] suspending _ (by decide +kernel) rfl
      (by simp [LidMark.Steady])).mpr (by decide)

/-! ### A close that is passed over -/

/-- The lid is closed, opened and closed again while the first action is
still running, and then that action ends. -/
def closedTwice : List LidEvent :=
  [.observe (lidReading false), .observe (lidReading true),
    .observe (lidReading false), .observe (lidReading true),
    .complete 0 0 .finished]

/-- Nothing is running, the lid is closed, and its last close has had no
action. -/
theorem second_close_dropped :
    ∃ before later,
      (after closedTwice).trace =
          before ++ .observed suspending true true :: later ∧
        Opened before ∧ (∀ mark ∈ later, mark.Steady suspending) ∧
        (after closedTwice).controller.actions = [] ∧
        ¬ ∃ request, .started request ∈ later := by
  refine ⟨[.observed suspending false true, .observed suspending true true,
    .started ⟨suspending, 7⟩, .observed suspending false true],
    [.completed], by decide +kernel, by rfl, ?_, by decide +kernel, ?_⟩
  · intro mark member
    obtain rfl := List.mem_singleton.mp member
    exact trivial
  · rintro ⟨request, member⟩
    nomatch List.mem_singleton.mp member

end LidSession

end BarDaemon.SleepPolicies
