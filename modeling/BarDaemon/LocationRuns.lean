import BarDaemon.LocationFence

/-!
# Runs of the location authority

The fence stands through every turn, whatever is answered and wherever the
authority dies.
-/

namespace BarDaemon.Locations

open Attempt TransitionRuns

namespace Place

theorem same_self_of_validate {zones : Zones} {place : Place}
    (valid : place.validate zones = .ok ()) : place.same place = true := by
  unfold validate at valid
  split_ifs at valid with label name bounds known
  simp only [Bool.not_eq_true', Bool.not_eq_false, Bool.and_eq_true] at bounds
  simp [same, Binary64.equals_self_of_within bounds.1,
    Binary64.equals_self_of_within bounds.2]

end Place

namespace Request

/-- A zone comes from a valid place. -/
theorem zone_cases {zones : Zones} {request : Request}
    {answer : Option String} (resolved : request.zone zones = .ok answer) :
    (request.place = none ∧ answer = none) ∨
      ∃ place zone, request.place = some place ∧ answer = some zone ∧
        place.validate zones = .ok () := by
  unfold Request.zone at resolved
  cases placed : request.place with
  | none =>
      rw [placed] at resolved
      cases resolved
      exact .inl ⟨rfl, rfl⟩
  | some place =>
      rw [placed] at resolved
      cases valid : place.validate zones with
      | error text => simp [valid, bind, Except.bind] at resolved
      | ok checked =>
          cases located : zones.locate place with
          | none => simp [valid, located, bind, Except.bind] at resolved
          | some zone =>
              simp only [valid, located, bind, Except.bind] at resolved
              split at resolved
              · cases resolved
                exact .inr ⟨place, zone, rfl, rfl, valid⟩
              · cases resolved

theorem same_self_of_zone {zones : Zones} {request : Request}
    {answer : Option String} (resolved : request.zone zones = .ok answer) :
    request.same request = true := by
  rcases zone_cases resolved with ⟨placed, -⟩ | ⟨place, -, placed, -, valid⟩
  · simp [same, placed]
  · simp [same, placed, Place.same_self_of_validate valid]

theorem place_isSome_of_same {left right : Request}
    (same : left.same right = true) :
    left.place.isSome = right.place.isSome := by
  unfold Request.same at same
  cases first : left.place with
  | none =>
      cases second : right.place with
      | none => rfl
      | some place => simp [first, second] at same
  | some place =>
      cases second : right.place with
      | none => simp [first, second] at same
      | some other => rfl

end Request

/-! ### Changes of a state -/

/-- A change that leaves the fence, the revision and the operation alone. -/
theorem Knows.same {state next : State} {trace : List Mark}
    (knows : Knows state trace)
    (fence : next.writePending = state.writePending)
    (revision : next.acceptedRevision = state.acceptedRevision)
    (operation : next.operation = state.operation) : Knows next trace where
  fence isOpen := fence.trans (knows.fence isOpen)
  spent := by
    rw [revision]
    exact knows.spent
  last := by
    rw [operation]
    exact knows.last
  applied := by
    rw [operation]
    exact knows.applied

/-- Without an open call the fence may be taken away. -/
theorem Knows.lowered {state : State} {trace : List Mark}
    (knows : Knows state trace) (closed : opened trace = none) :
    Knows { state with writePending := false } trace where
  fence isOpen := absurd closed isOpen
  spent := knows.spent
  last := knows.last
  applied := knows.applied

theorem Knows.raised {state : State} {trace : List Mark}
    (knows : Knows state trace) :
    Knows { state with writePending := true } trace where
  fence _ := rfl
  spent := knows.spent
  last := knows.last
  applied := knows.applied

/-- A fenced state does not mind a mark that is no call. -/
theorem Knows.fenced {state : State} {trace : List Mark}
    (knows : Knows state trace) {note : Option (State → Mark)} {kept : State}
    (other : ∀ origin zone fenced,
      note.map (fun mark => mark kept) ≠ some (.called origin zone fenced)) :
    Knows { state with paused := true, writePending := true }
      (note.elim trace fun mark => trace ++ [mark kept]) := by
  have raised : Knows { state with paused := true, writePending := true }
      trace := knows.raised.same rfl rfl rfl
  cases note with
  | none => exact raised
  | some mark =>
      have uncalled : ∀ origin zone fenced,
          mark kept ≠ .called origin zone fenced :=
        fun _ _ _ same => other _ _ _ (congrArg some same)
      refine ⟨fun _ => rfl, ?_, ?_, ?_⟩
      · intro uid request zone fenced member
        rcases List.mem_append.mp member with earlier | last
        · exact knows.spent uid request zone fenced earlier
        · exact absurd (List.mem_singleton.mp last).symm (uncalled _ _ _)
      · intro identifier member
        rw [Option.elim_some, remembered_concat] at member
        exact knows.last identifier (mem_of_mem_remembers uncalled member)
      · intro operation known outcome place
        obtain ⟨zone, kept, member⟩ :=
          knows.applied operation known outcome place
        exact ⟨zone, kept, List.mem_append_left _ member⟩

/-- An intent that goes to the disk, with its mark. -/
theorem Knows.intended {state : State} {trace : List Mark}
    (knows : Knows state trace) {uid : Nat} {request : Request}
    {zone : Option String} (placed : zone = none → request.place = none)
    {kept : State} :
    Knows (Service.intended state uid request zone)
      (trace ++ [.intended uid request kept]) where
  fence isOpen := by
    rw [opened_concat] at isOpen
    simp [Service.intended, knows.fence isOpen]
  spent other earlier zone fenced member := by
    rcases List.mem_append.mp member with before | last
    · exact Nat.lt_succ_of_lt (knows.spent other earlier zone fenced before)
    · exact absurd (List.mem_singleton.mp last) nofun
  last identifier member := by
    rw [remembered_concat] at member
    have same := (List.mem_filter.mp member).2
    rw [beq_iff_eq.mp same]
    rfl
  applied operation known outcome place := by
    cases known
    cases zone with
    | none => simp [placed rfl] at place
    | some zone => simp at outcome

/-- What is remembered is repeated only by the last operation. -/
theorem Knows.not_mem_remembered {state : State} {trace : List Mark}
    (knows : Knows state trace) {uid : Nat} {request : Request}
    (new : state.operation.filter (Service.repeats · uid request) = none) :
    (uid, request.requestId) ∉ remembered trace := by
  intro member
  obtain ⟨operation, known, same⟩ :=
    Option.map_eq_some_iff.mp (knows.last _ member)
  have repeated : Service.repeats operation uid request = true := by
    simpa [Service.repeats, Operation.identifier] using same
  simp [known, repeated] at new

/-- A mark that closes a call lets the fence down. -/
theorem Knows.closed {state next : State} {trace : List Mark} {mark : Mark}
    (knows : Knows state trace)
    (closes : ∀ call, opens call mark = none)
    (revision : state.acceptedRevision ≤ next.acceptedRevision)
    (last : next.operation.map Operation.identifier =
      state.operation.map Operation.identifier)
    (applied : ∀ operation, next.operation = some operation →
      state.operation = some operation ∨
        ∃ zone kept, mark =
          .recorded (some (operation.uid, operation.request)) zone kept) :
    Knows next (trace ++ [mark]) where
  fence isOpen := by
    rw [opened_concat] at isOpen
    exact absurd (closes _) isOpen
  spent uid request zone fenced member := by
    rcases List.mem_append.mp member with earlier | last
    · have spent := knows.spent uid request zone fenced earlier
      omega
    · rw [← List.mem_singleton.mp last] at closes
      exact absurd (closes none) (by simp [opens])
  last identifier member := by
    rw [remembered_concat] at member
    rw [last]
    refine knows.last identifier (mem_of_mem_remembers ?_ member)
    rintro origin zone fenced rfl
    exact absurd (closes none) (by simp [opens])
  applied operation known outcome place := by
    rcases applied operation known with same | ⟨zone, kept, rfl⟩
    · obtain ⟨zone, kept, member⟩ :=
        knows.applied operation same outcome place
      exact ⟨zone, kept, List.mem_append_left _ member⟩
    · exact ⟨zone, kept, by simp⟩

namespace Session

variable {zones : Zones} {session : Session}

/-- The state may go to the disk, with the note that it makes. -/
structure Ready (zones : Zones) (note : Option (State → Mark)) (next : State)
    (session : Session) : Prop where
  safe : session.Safe zones
  kept : (session.wrote note next).Safe zones

/-- A mark that is permitted goes to the disk together with the state. -/
theorem Stands.ready_mark (stands : session.Stands zones) {next : State}
    {mark : State → Mark} (permitted : (mark next).Permitted zones session.trace)
    (knows : Knows next (session.trace ++ [mark next])) :
    session.Ready zones (some mark) next :=
  ⟨stands.safe, knows,
    Traces.each_concat_iff.mpr ⟨stands.safe.permitted, permitted⟩⟩

theorem Ready.of_same {note : Option (State → Mark)} {next : State} {after : Session}
    (ready : session.Ready zones note next) (disk : after.disk = session.disk)
    (trace : after.trace = session.trace) : after.Ready zones note next := by
  obtain ⟨⟨knows, permitted⟩, kept, others⟩ := ready
  unfold wrote at kept others
  rw [← disk, ← trace] at knows
  rw [← trace] at permitted kept others
  exact ⟨⟨knows, permitted⟩, kept, others⟩

theorem Stands.updated (stands : session.Stands zones)
    {update : Authority → Authority}
    (knows : Knows (update session.authority).state session.trace) :
    (session.updated update).Stands zones :=
  ⟨⟨stands.safe.disk, stands.safe.permitted⟩, knows⟩

end Session

namespace Service

open Session

variable {world : Nat → Answer} {zones : Zones}

/-! ### Keeping a state -/

/-- The state in memory may not know of what is on the disk, until it is there
itself. -/
theorem meets_saveMemory_ready {note : Option (State → Mark)} :
    Meets (fun session => session.Ready zones note session.authority.state)
      (saveMemory world note) (fun _ session => session.Stands zones)
      (fun _ session => session.Safe zones) := by
  apply meets_saveMemory
  · rintro session ⟨-, disk, permitted⟩
    exact ⟨⟨disk, permitted⟩, disk⟩
  · rintro fault session ⟨⟨disk, permitted⟩, -⟩
    exact ⟨disk, permitted⟩
  · rintro fault session ⟨-, disk, permitted⟩
    exact ⟨disk, permitted⟩

/-- A failure may be handled where the authority stands. -/
theorem meets_caught {Value : Type} {attempt : Service Value}
    {before : Session → Prop} {done : Value → Session → Prop}
    (spec : Meets before attempt done (Fails zones)) :
    Meets before (attempt.catching Fault.text?)
      (fun caught session => match caught with
        | .ok value => done value session
        | .error _ => session.Stands zones)
      (Fails zones) := by
  apply Meets.catching
  refine spec.weaken (fun _ holds => holds) (fun _ _ holds => holds) ?_
  intro fault session fails
  cases fault with
  | crashed => exact fails
  | failed text => exact fails.stands nofun

theorem meets_updateState {before : Session → Prop}
    {done : Unit → Session → Prop} {failed : Fault → Session → Prop}
    {update : State → State}
    (holds : ∀ session, before session →
      done () (session.updated fun authority =>
        { authority with state := update authority.state })) :
    Meets before (updateState update) done failed :=
  meets_change holds

theorem meets_persistControl {note : Option (State → Mark)} {next : State}
    {before : Session → Prop} {done : Unit → Session → Prop}
    (other : ∀ origin zone fenced,
      note.map (fun mark => mark next) ≠ some (.called origin zone fenced))
    (stands : ∀ session, before session → session.Stands zones)
    (ready : ∀ session, before session → session.Ready zones note next)
    (kept : ∀ session, before session →
      done () ((session.asked.wrote note next).updated fun authority =>
        { authority with state := next })) :
    Meets before (persistControl world note next) done (Fails zones) := by
  have saved : Meets before ((save world note next).catching Fault.text?)
      (handled
        (fun _ session => done () (session.updated fun authority =>
          { authority with state := next }))
        fun _ session => session.Safe zones ∧
          Knows { session.authority.state with
            paused := true, writePending := true } session.trace)
      (Fails zones) := by
    apply Meets.catching
    apply meets_save
    · exact kept
    · intro fault session holds
      obtain ⟨⟨disk, permitted⟩, memory⟩ := stands session holds
      have safe : session.asked.Safe zones := ⟨disk, permitted⟩
      cases fault with
      | crashed => exact ⟨safe, fun handled => absurd rfl handled⟩
      | failed text => exact ⟨safe, memory.raised.same rfl rfl rfl⟩
    · intro fault session holds
      obtain ⟨-, disk, permitted⟩ := ready session holds
      have safe : (session.asked.wrote note next).Safe zones :=
        ⟨disk, permitted⟩
      cases fault with
      | crashed => exact ⟨safe, fun handled => absurd rfl handled⟩
      | failed text => exact ⟨safe, (stands session holds).memory.fenced other⟩
  apply saved.bind
  intro answer
  cases answer with
  | ok answered => exact meets_updateState fun _ holds => holds
  | error text =>
      have fenced : Meets (fun session => session.Safe zones ∧
          Knows { session.authority.state with
            paused := true, writePending := true } session.trace)
          (updateState fun state =>
            { state with paused := true, writePending := true })
          (fun _ session => session.Stands zones) (Fails zones) := by
        apply meets_updateState
        rintro session ⟨⟨disk, permitted⟩, memory⟩
        exact ⟨⟨disk, permitted⟩, memory⟩
      exact fenced.bind fun _ => meets_fail fun _ holds => holds.fails _

theorem meets_stands {Value : Type} {attempt : Service Value}
    (within : Within Quiet attempt) :
    Meets (Stands zones) attempt (fun _ => Stands zones) (Fails zones) :=
  meets_quiet within (fun _ _ stands quiet => stands.quiet quiet)
    fun fault _ stands => stands.fails fault

/-- What a quiet attempt keeps beside the fence. -/
theorem meets_idle {Value : Type} {attempt : Service Value}
    (within : Within Quiet attempt) :
    Meets (fun session => session.Stands zones ∧
        session.authority.state.writePending = false) attempt
      (fun _ session => session.Stands zones ∧
        session.authority.state.writePending = false)
      (fun _ session => session.Safe zones) := by
  apply meets_quiet within
  · rintro session after ⟨stands, down⟩ quiet
    exact ⟨stands.quiet quiet, by rw [quiet.state, down]⟩
  · exact fun _ _ holds => holds.1.safe

theorem meets_safe {Value : Type} {attempt : Service Value}
    {before : Session → Prop} {done : Value → Session → Prop}
    (spec : Meets before attempt done (Fails zones)) :
    Meets before attempt done (fun _ session => session.Safe zones) :=
  spec.weaken (fun _ holds => holds) (fun _ _ holds => holds)
    fun _ _ fails => fails.safe

/-! ### The automatic check -/

/-- A change that no invariant looks at. -/
theorem meets_updateState_stands {update : State → State}
    {failed : Fault → Session → Prop}
    (fence : ∀ state, (update state).writePending = state.writePending)
    (revision : ∀ state,
      (update state).acceptedRevision = state.acceptedRevision)
    (operation : ∀ state, (update state).operation = state.operation) :
    Meets (Stands zones) (updateState update) (fun _ => Stands zones)
      failed := by
  apply meets_updateState
  intro session stands
  exact stands.updated
    (stands.memory.same (fence _) (revision _) (operation _))

theorem meets_saveMemory_stands :
    Meets (Stands zones) (saveMemory world none) (fun _ => Stands zones)
      (Fails zones) := by
  apply meets_saveMemory_none fun _ stands => stands
  intro session stands
  exact ⟨⟨stands.memory, stands.safe.permitted⟩, stands.memory⟩

/-- Pause, keep it, and say so. -/
theorem meets_pause (decision : Decision) :
    Meets (Stands zones) (do
        updateState fun state => { state with paused := true }
        saveMemory world none
        finish world decision)
      (fun _ => Stands zones) (fun _ session => session.Safe zones) := by
  have paused : Meets (Stands zones)
      (updateState fun state => { state with paused := true })
      (fun _ => Stands zones) (fun _ session => session.Safe zones) :=
    meets_updateState_stands (fun _ => rfl) (fun _ => rfl) fun _ => rfl
  refine paused.bind fun _ => ?_
  refine (meets_safe meets_saveMemory_stands).bind fun _ => ?_
  exact meets_safe (meets_stands (within_finish decision))

theorem meets_accept {geo : Fix} {zone actual : String} {now : Binary64} :
    Meets (fun session => session.Stands zones ∧
        ReadBack zones session.trace none zone)
      (accept world geo zone actual now) (fun _ => Stands zones)
      (fun _ session => session.Safe zones) := by
  apply meets_memory.bind
  intro authority
  apply meets_ite
  · exact fun _ => meets_fail fun _ holds => holds.1.1.safe
  · intro room
    have accepted : Meets (fun session => (session.Stands zones ∧
          ReadBack zones session.trace none zone) ∧ session.authority = authority)
        (Service.update fun authority => { authority with
          baseline := actual
          state := { authority.state with
            expectedTimezone := some zone
            acceptedRevision := authority.state.acceptedRevision + 1
            manualPlace := none
            accepted := some ⟨zone, geo.latitude, geo.longitude, now,
              geo.source, some geo.accuracy⟩
            writePending := false } })
        (fun _ session => session.Ready zones (some (.recorded none zone))
          session.authority.state) (fun _ session => session.Safe zones) := by
      apply meets_change
      rintro session ⟨⟨stands, verified⟩, -⟩
      refine Ready.of_same (stands.ready_mark
        ⟨verified, rfl, rfl, nofun⟩ ?_) rfl rfl
      exact stands.memory.closed (fun _ => rfl) (Nat.le_succ _) rfl
        fun _ known => .inl known
    refine accepted.bind fun _ => meets_saveMemory_ready.bind fun _ => ?_
    have cleared : Meets (Stands zones)
        (Service.update fun authority => { authority with lastResult := "" })
        (fun _ => Stands zones) (fun _ session => session.Safe zones) :=
      meets_change fun _ stands => stands.updated stands.memory
    refine cleared.bind fun _ => ?_
    exact meets_safe (meets_stands (within_status ""))

theorem meets_decided {epoch : Nat} {geo : Fix} {zone current : String}
    {now : Binary64} :
    Meets (fun session => session.Stands zones ∧
        session.authority.state.writePending = false)
      (decided world zones epoch geo zone current now)
      (fun _ => Stands zones) (fun _ session => session.Safe zones) := by
  apply meets_memory.bind
  intro authority
  apply meets_ite
  · intro drifted
    exact (meets_pause _).weaken (fun _ holds => holds.1.1)
      (fun _ _ holds => holds) fun _ _ holds => holds
  · intro agreed
    have raised : Meets (fun session => (session.Stands zones ∧
          session.authority.state.writePending = false) ∧
            session.authority = authority)
        (updateState fun state => { state with writePending := true })
        (fun _ session => session.Stands zones ∧ session.authority.state =
          { authority.state with writePending := true } ∧
            opened session.trace = none)
        (fun _ session => session.Safe zones) := by
      apply meets_updateState
      rintro session ⟨⟨stands, down⟩, rfl⟩
      refine ⟨stands.updated stands.memory.raised, rfl, ?_⟩
      by_contra isOpen
      have pending := stands.memory.fence isOpen
      exact Bool.false_ne_true (down.symm.trans pending)
    have kept : Meets (fun session => session.Stands zones ∧
          session.authority.state =
            { authority.state with writePending := true } ∧
              opened session.trace = none)
        (saveMemory world none)
        (fun _ => Armed zones none { authority.state with writePending := true })
        (fun _ session => session.Safe zones) := by
      apply meets_saveMemory
      · rintro session ⟨stands, same, closed⟩
        refine ⟨⟨⟨stands.memory, stands.safe.permitted⟩, stands.memory⟩, same,
          ?_, rfl, closed, nofun⟩
        exact congrArg State.writePending same
      · rintro fault session ⟨⟨⟨disk, permitted⟩, -⟩, -⟩
        exact ⟨disk, permitted⟩
      · rintro fault session ⟨⟨⟨-, permitted⟩, memory⟩, -⟩
        exact ⟨memory, permitted⟩
    have asked : Meets
        (Armed zones none { authority.state with writePending := true })
        (ask world)
        (fun _ => Armed zones none
          { authority.state with writePending := true })
        (fun _ session => session.Safe zones) := by
      apply meets_quiet within_ask
      · exact fun _ _ armed quiet => armed.quiet quiet
      · exact fun _ _ armed => armed.stands.safe
    refine raised.bind fun _ => kept.bind fun _ => asked.bind fun answer => ?_
    apply meets_ite
    · intro interrupted
      have lowered : Meets
          (Armed zones none { authority.state with writePending := true })
          (updateState fun state => { state with writePending := false })
          (fun _ => Stands zones) (fun _ session => session.Safe zones) := by
        apply meets_updateState
        exact fun session armed =>
          armed.stands.updated (armed.stands.memory.lowered armed.closed)
      refine lowered.bind fun _ => ?_
      refine (meets_safe meets_saveMemory_stands).bind fun _ => ?_
      exact meets_safe (meets_stands (within_finish _))
    · intro valid
      have applied : Meets
          (Armed zones none { authority.state with writePending := true })
          (applyTimezone world zones none current zone)
          (fun _ session => session.Stands zones ∧
            ReadBack zones session.trace none zone) (Fails zones) :=
        meets_applyTimezone.weaken (fun _ holds => holds)
          (fun _ _ holds => ⟨holds.1.stands, holds.2⟩)
          fun fault _ holds => holds.stands.fails fault
      apply (meets_safe (meets_caught applied)).bind
      intro outcome
      cases outcome with
      | ok actual => exact meets_accept
      | error text => exact meets_pause _

/-- What the evidence says, it only says. -/
theorem meets_idle_finish (decision : Decision) :
    Meets (fun session => session.Stands zones ∧
        session.authority.state.writePending = false)
      (finish world decision) (fun _ => Stands zones)
      (fun _ session => session.Safe zones) :=
  (meets_idle (within_finish decision)).weaken (fun _ holds => holds)
    (fun _ _ holds => holds.1) fun _ _ holds => holds

theorem meets_check :
    Meets (fun session => session.Stands zones ∧
        session.authority.state.writePending = false)
      (check world zones) (fun _ => Stands zones)
      (fun _ session => session.Safe zones) := by
  apply (meets_idle within_ask).bind
  intro begun
  apply meets_ite
  · exact fun _ => meets_idle_finish _
  · intro ready
    refine (meets_idle (within_status _)).bind fun _ => ?_
    refine (meets_idle within_ask).bind fun evidence => ?_
    have limited : Meets (fun session => session.Stands zones ∧
          session.authority.state.writePending = false)
        (updateState fun state => { state with
          ipNotBefore := evidence.limited.getD state.ipNotBefore })
        (fun _ session => session.Stands zones ∧
          session.authority.state.writePending = false)
        (fun _ session => session.Safe zones) := by
      apply meets_updateState
      rintro session ⟨stands, down⟩
      exact ⟨stands.updated (stands.memory.same rfl rfl rfl), down⟩
    have kept : Meets (fun session => session.Stands zones ∧
          session.authority.state.writePending = false)
        (saveMemory world none)
        (fun _ session => session.Stands zones ∧
          session.authority.state.writePending = false)
        (fun _ session => session.Safe zones) := by
      apply meets_safe
      apply meets_saveMemory_none fun _ holds => holds.1
      rintro session ⟨stands, down⟩
      exact ⟨⟨⟨stands.memory, stands.safe.permitted⟩, stands.memory⟩, down⟩
    refine limited.bind fun _ => kept.bind fun _ => ?_
    cases evidence.acquired with
    | error decision => exact meets_idle_finish decision
    | ok fixes =>
        obtain ⟨geo, ip⟩ := fixes
        dsimp only
        cases zones.decides geo ip evidence.started evidence.now with
        | error decision => exact meets_idle_finish decision
        | ok zone =>
            apply (meets_idle within_timezone.catching).bind
            intro current
            cases current with
            | error text => exact meets_idle_finish _
            | ok current => exact meets_decided

theorem meets_observe :
    Meets (fun session => session.Stands zones ∧
        session.authority.state.writePending = false)
      (observe world zones) (fun _ => Stands zones)
      (fun _ session => session.Safe zones) := by
  apply (meets_idle within_ask).bind
  intro answer
  cases answer.observed with
  | ready => exact meets_check
  | waiting message =>
      exact (meets_idle (within_status message)).weaken (fun _ holds => holds)
        (fun _ _ holds => holds.1) fun _ _ holds => holds
  | quiet => exact meets_pure fun _ holds => holds.1

/-! ### Requests -/

/-- The state in which a request has been applied goes to the disk. -/
theorem meets_record {uid : Nat} {request : Request} {zone : String}
    {held next : State} (resolved : request.zone zones = .ok (some zone))
    (revision : held.acceptedRevision ≤ next.acceptedRevision)
    (pending : held.operation.map Operation.identifier =
      some (uid, request.requestId))
    (down : next.writePending = false)
    (expected : next.expectedTimezone = some zone)
    (operation : next.operation = some ⟨uid, request, "applied"⟩) :
    Meets (fun session => (session.Stands zones ∧
        session.authority.state = held) ∧
          ReadBack zones session.trace (some (uid, request)) zone)
      (persistControl world (some (.recorded (some (uid, request)) zone)) next)
      (fun _ session => session.Stands zones ∧
        ∃ kept, .recorded (some (uid, request)) zone kept ∈ session.trace)
      (Fails zones) := by
  have ready : ∀ session : Session, ((session.Stands zones ∧
      session.authority.state = held) ∧
        ReadBack zones session.trace (some (uid, request)) zone) →
      session.Ready zones (some (.recorded (some (uid, request)) zone))
        next := by
    rintro session ⟨⟨stands, rfl⟩, verified⟩
    apply stands.ready_mark
    · refine ⟨verified, down, expected, ?_⟩
      rintro other asked same
      cases same
      exact ⟨resolved, operation⟩
    · apply stands.memory.closed (fun _ => rfl) revision
      · rw [operation, pending]
        rfl
      intro known same
      rw [operation] at same
      cases same
      exact .inr ⟨zone, next, rfl⟩
  apply meets_persistControl
  · exact fun _ _ _ => by simp
  · exact fun _ holds => holds.1.1
  · exact ready
  · intro session holds
    obtain ⟨-, disk, permitted⟩ := ready session holds
    exact ⟨⟨⟨disk, permitted⟩, disk⟩, next, by simp [updated, wrote]⟩

theorem meets_conclude {uid : Nat} {request : Request} {place : Place}
    {zone actual outcome : String} {now : Binary64} {held : State}
    (resolved : request.zone zones = .ok (some zone))
    (operation : held.operation = some ⟨uid, request, outcome⟩) :
    Meets (fun session => (session.Stands zones ∧
        session.authority.state = held) ∧
          ReadBack zones session.trace (some (uid, request)) zone)
      (conclude world uid request place zone actual now)
      (fun _ session => session.Stands zones ∧
        ∃ kept, .recorded (some (uid, request)) zone kept ∈ session.trace)
      (Fails zones) := by
  apply meets_memory.bind
  intro authority
  have same : ∀ session : Session, ((session.Stands zones ∧
      session.authority.state = held) ∧
        ReadBack zones session.trace (some (uid, request)) zone) ∧
          session.authority = authority → authority.state = held := by
    rintro session ⟨⟨⟨-, same⟩, -⟩, rfl⟩
    exact same
  refine meets_of_fact same fun same => ?_
  apply meets_ite
  · exact fun _ => meets_fail fun _ holds => holds.1.1.1.fails _
  · intro room
    have kept := @meets_record world zones uid request zone held
      (State.conclude { authority.state with
        manual := true
        expectedTimezone := some zone
        accepted := some ⟨zone, place.latitude, place.longitude, now,
          .manual, none⟩
        manualPlace := some place
        acceptedRevision := authority.state.acceptedRevision + 1
        writePending := false } "applied") resolved
      (by simp [State.conclude, same])
      (by simp [operation, Operation.identifier]) rfl rfl
      (by simp [State.conclude, same, operation])
    have settled : Meets (fun session => session.Stands zones ∧
          ∃ kept, .recorded (some (uid, request)) zone kept ∈ session.trace)
        (Service.update fun authority =>
          { authority with baseline := actual })
        (fun _ session => session.Stands zones ∧
          ∃ kept, .recorded (some (uid, request)) zone kept ∈ session.trace)
        (Fails zones) := by
      apply meets_change
      rintro session ⟨stands, recorded⟩
      exact ⟨stands.updated stands.memory, recorded⟩
    apply Meets.bind _ fun _ => settled
    exact kept.weaken (fun _ holds => holds.1) (fun _ _ holds => holds)
      fun _ _ holds => holds

theorem meets_applyPlace {uid epoch : Nat} {request : Request}
    {place : Place} {current zone outcome : String} {held : State}
    (resolved : request.zone zones = .ok (some zone))
    (operation : held.operation = some ⟨uid, request, outcome⟩) :
    Meets (Armed zones (some (uid, request)) held)
      (applyPlace world zones uid request epoch place current zone)
      (fun _ session => session.Stands zones ∧
        ∃ kept, .recorded (some (uid, request)) zone kept ∈ session.trace)
      (Fails zones) := by
  have asked : Meets (Armed zones (some (uid, request)) held) (ask world)
      (fun _ => Armed zones (some (uid, request)) held) (Fails zones) := by
    apply meets_quiet within_ask
    · exact fun _ _ armed quiet => armed.quiet quiet
    · exact fun fault _ armed => armed.stands.fails fault
  apply asked.bind
  intro answer
  have applied : Meets (Armed zones (some (uid, request)) held) (do
        ensure (answer.control.active epoch)
          (.failed "Location control interrupted before apply")
        applyTimezone world zones (some (uid, request)) current zone)
      (fun _ session => (session.Stands zones ∧
        session.authority.state = held) ∧
          ReadBack zones session.trace (some (uid, request)) zone)
      (Fails zones) := by
    apply meets_ensure_bind
    · exact fun _ armed => armed.stands.fails _
    · intro active
      exact meets_applyTimezone.weaken (fun _ holds => holds)
        (fun _ _ holds => ⟨⟨holds.1.stands, holds.1.same⟩, holds.2⟩)
        fun fault _ holds => holds.stands.fails fault
  apply (meets_caught applied).bind
  intro answer
  cases answer with
  | ok actual => exact meets_conclude resolved operation
  | error text =>
      have uncertain : Meets (Stands zones)
          (updateState fun state => State.conclude
            { state with paused := true } "uncertain")
          (fun _ => Stands zones) (Fails zones) := by
        apply meets_updateState
        intro session stands
        apply stands.updated
        refine ⟨stands.memory.fence, stands.memory.spent, ?_, ?_⟩
        · intro identifier member
          rw [← stands.memory.last identifier member]
          simp only [State.conclude, Option.map_map]
          rfl
        intro operation known outcome
        simp only [State.conclude, Option.map_eq_some_iff] at known
        obtain ⟨earlier, -, rfl⟩ := known
        simp at outcome
      refine uncertain.bind fun _ => meets_saveMemory_stands.bind fun _ => ?_
      refine (meets_stands (within_status _)).bind fun _ => ?_
      exact meets_fail fun _ stands => stands.fails _

/-- The authority stands, with this state in memory. -/
theorem meets_held {Value : Type} {attempt : Service Value} {held : State}
    (within : Within Quiet attempt) :
    Meets (fun session => session.Stands zones ∧
        session.authority.state = held) attempt
      (fun _ session => session.Stands zones ∧
        session.authority.state = held) (Fails zones) := by
  apply meets_quiet within
  · rintro session after ⟨stands, same⟩ quiet
    exact ⟨stands.quiet quiet, quiet.state.trans same⟩
  · exact fun fault _ holds => holds.1.fails fault

/-- The intent goes to the disk under its mark, and then it is in memory. -/
structure Intended (uid : Nat) (request : Request) (held : State)
    (session : Session) : Prop where
  disk : session.disk = held
  memory : session.authority.state = held
  closed : opened session.trace = none
  unused : Unused session.trace uid request

theorem meets_intended {uid : Nat} {request : Request} {held : State}
    {zone : Option String} (placed : zone = none → request.place = none)
    (revision : request.revision = held.acceptedRevision)
    (down : held.writePending = false)
    (new : held.operation.filter (repeats · uid request) = none) :
    Meets (fun session => session.Stands zones ∧
        session.authority.state = held)
      (persistControl world (some (.intended uid request))
        (intended held uid request zone))
      (fun _ session => session.Stands zones ∧
        Intended uid request (intended held uid request zone) session)
      (Fails zones) := by
  have knows : ∀ session : Session, session.Stands zones ∧
      session.authority.state = held →
      Knows (intended held uid request zone)
        (session.trace ++
          [.intended uid request (intended held uid request zone)]) := by
    rintro session ⟨stands, rfl⟩
    exact stands.memory.intended placed
  apply meets_persistControl
  · exact fun _ _ _ => by simp
  · exact fun _ holds => holds.1
  · exact fun session holds =>
      holds.1.ready_mark ⟨_, rfl⟩ (knows session holds)
  · intro session holds
    have known := knows session holds
    obtain ⟨⟨⟨disk, permitted⟩, memory⟩, rfl⟩ := holds
    refine ⟨⟨⟨known, Traces.each_concat_iff.mpr ⟨permitted, _, rfl⟩⟩, known⟩,
      rfl, rfl, ?_, ?_, ?_⟩
    · by_contra isOpen
      have pending := memory.fence (by simpa [updated, wrote, asked, opens]
        using isOpen)
      exact Bool.false_ne_true (down.symm.trans pending)
    · intro member
      have later : (uid, request.requestId) ∈
          remembered (session.trace ++ [.intended uid request
            (intended session.authority.state uid request zone)]) := member
      rw [remembered_concat] at later
      exact memory.not_mem_remembered new (List.mem_filter.mp later).1
    · intro other earlier zone fenced member
      rcases List.mem_append.mp member with before | last
      · have spent := memory.spent other earlier zone fenced before
        omega
      · cases List.mem_singleton.mp last

/-- The intent of a request with a place arms the call. -/
theorem Intended.armed {uid : Nat} {request : Request} {zone : String}
    {held : State} {session : Session} (stands : session.Stands zones)
    (revision : request.revision = held.acceptedRevision)
    (taken : Intended uid request (intended held uid request (some zone))
      session) :
    Armed zones (some (uid, request))
      (intended held uid request (some zone)) session := by
  obtain ⟨disk, memory, closed, unused⟩ := taken
  have recalls :
      Recalls (intended held uid request (some zone)) uid request :=
    ⟨Nat.lt_succ_of_le (Nat.le_of_eq revision), rfl⟩
  refine ⟨stands, memory, ?_, rfl, closed, ?_⟩
  · rw [disk]
    rfl
  · rintro other asked same
    cases same
    rw [disk]
    exact ⟨recalls, recalls, unused⟩

/-- The end of every new request. -/
theorem meets_told {uid : Nat} {request : Request} :
    Meets (fun session => session.Stands zones ∧
        Confirmed session.trace uid request) (do
          let after ← memory
          status world (if after.state.manual then
            "Current location set manually"
            else "Automatic location · awaiting fresh location")
          let final ← memory
          return controlStatus final.state)
      (fun _ session => session.Stands zones ∧
        Confirmed session.trace uid request) (Fails zones) := by
  apply meets_quiet
  · refine within_memory.bind fun _ => (within_status _).bind fun _ => ?_
    exact within_memory.bind fun _ => within_pure _
  · rintro session after ⟨stands, confirmed⟩ quiet
    exact ⟨stands.quiet quiet, by rwa [quiet.trace]⟩
  · exact fun fault _ holds => holds.1.fails fault

theorem meets_applyNew {uid : Nat} {request : Request} :
    Meets (fun session => session.Stands zones ∧
        session.authority.state.operation.filter (repeats · uid request) = none)
      (applyNew world zones uid request)
      (fun _ session => session.Stands zones ∧
        Confirmed session.trace uid request) (Fails zones) := by
  have remembered : Meets (fun session => session.Stands zones ∧
        session.authority.state.operation.filter (repeats · uid request) = none)
      memory (fun authority session => (session.Stands zones ∧
        session.authority.state = authority.state) ∧
          authority.state.operation.filter (repeats · uid request) = none)
      (Fails zones) :=
    fun _ holds => ⟨⟨holds.1, rfl⟩, holds.2⟩
  apply remembered.bind
  intro authority
  apply meets_and_fact
  intro new
  have fails : ∀ fault (session : Session), session.Stands zones ∧
      session.authority.state = authority.state →
      session.Fails zones fault :=
    fun fault _ holds => holds.1.fails fault
  apply meets_ensure_bind (fails _)
  intro fresh
  apply meets_ensure_bind (fails _)
  intro unfenced
  apply (meets_held within_ask).bind
  intro answer
  apply meets_ensure_bind (fails _)
  intro awake
  apply (meets_held within_timezone).bind
  intro current
  apply meets_ensure_bind (fails _)
  intro undisturbed
  apply meets_lift_bind fun text => fails (.failed text)
  intro zone resolved
  apply meets_ensure_bind (fails _)
  intro room
  have revision : request.revision = authority.state.acceptedRevision := by
    simpa using fresh
  have down : authority.state.writePending = false := by
    simp only [Bool.and_eq_true, Bool.not_eq_true'] at unfenced
    exact unfenced.2
  have own : request.same request = true := Request.same_self_of_zone resolved
  rcases Request.zone_cases resolved with
    ⟨placeless, rfl⟩ | ⟨place, zone, placed, rfl, -⟩
  · apply (meets_intended (fun _ => placeless) revision down new).bind
    intro kept
    simp only [placeless]
    refine meets_told.weaken (fun session holds => ⟨holds.1, ?_⟩)
      (fun _ _ holds => holds) fun _ _ holds => holds
    intro some
    simp [placeless] at some
  · have intent := @meets_intended world zones uid request authority.state
      (some zone) nofun revision down new
    have armed : Meets (fun session => session.Stands zones ∧
          session.authority.state = authority.state)
        (persistControl world (some (.intended uid request))
          (intended authority.state uid request (some zone)))
        (fun _ => Armed zones (some (uid, request))
          (intended authority.state uid request (some zone)))
        (Fails zones) :=
      intent.weaken (fun _ holds => holds)
        (fun _ _ holds => holds.2.armed holds.1 revision) fun _ _ fails => fails
    apply armed.bind
    intro kept
    simp only [placed]
    have pending : (intended authority.state uid request (some zone)).operation =
        some ⟨uid, request, "pending"⟩ := rfl
    apply (meets_applyPlace resolved pending).bind
    intro applied
    refine meets_told.weaken ?_ (fun _ _ holds => holds) fun _ _ holds => holds
    rintro session ⟨stands, kept, recorded⟩
    exact ⟨stands, fun _ => ⟨request, zone, kept, recorded, own⟩⟩

/-- A repetition is answered from what is known of the last operation. -/
theorem meets_applyControl {uid : Nat} {request : Request} :
    Meets (Stands zones) (applyControl world zones uid request)
      (fun _ session => session.Stands zones ∧
        Confirmed session.trace uid request) (Fails zones) := by
  have fails : ∀ fault (session : Session), session.Stands zones →
      session.Fails zones fault :=
    fun fault _ stands => stands.fails fault
  apply meets_ensure_bind (fails _)
  intro valid
  apply meets_memory.bind
  intro authority
  cases last : authority.state.operation.filter fun operation =>
      repeats operation uid request with
  | none =>
      refine meets_applyNew.weaken ?_ (fun _ _ holds => holds)
        fun _ _ holds => holds
      rintro session ⟨stands, rfl⟩
      exact ⟨stands, last⟩
  | some operation =>
      obtain ⟨known, same⟩ := Option.filter_eq_some_iff.mp last
      apply meets_ensure_bind fun session holds => fails _ session holds.1
      intro parameters
      apply meets_ensure_bind fun session holds => fails _ session holds.1
      intro outcome
      apply meets_pure
      rintro session ⟨stands, rfl⟩
      refine ⟨stands, fun place => ?_⟩
      rw [← Request.place_isSome_of_same parameters] at place
      obtain ⟨zone, kept, recorded⟩ := stands.memory.applied operation known
        (by simpa using outcome) place
      have own : operation.uid = uid := by
        simp only [repeats, Bool.and_eq_true, beq_iff_eq] at same
        exact same.1
      rw [own] at recorded
      exact ⟨operation.request, zone, kept, recorded, parameters⟩

theorem meets_serve {uid : Nat} {request : Request} :
    Meets (Stands zones) (serve world zones uid request)
      (fun _ => Stands zones) (fun _ session => session.Safe zones) := by
  apply (meets_safe (meets_caught meets_applyControl)).bind
  intro replied
  cases replied with
  | error text => exact meets_pure fun _ stands => stands
  | ok answer =>
      apply meets_change
      rintro session ⟨⟨⟨disk, permitted⟩, memory⟩, confirmed⟩
      exact ⟨⟨knows_concat disk (by simp [opens]) nofun,
        Traces.each_concat_iff.mpr ⟨permitted, confirmed⟩⟩,
        knows_concat memory (by simp [opens]) nofun⟩

/-! ### The loop -/

theorem meets_reconcileControl {current : Control} :
    Meets (Stands zones) (reconcileControl world zones current)
      (fun _ => Stands zones) (fun _ session => session.Safe zones) := by
  have apart : ∀ update : Authority → Authority,
      (∀ authority, (update authority).state = authority.state) →
      Meets (Stands zones) (Service.update update) (fun _ => Stands zones)
        (fun _ session => session.Safe zones) := by
    intro update same
    apply meets_change
    intro session stands
    exact stands.updated (by rw [same]; exact stands.memory)
  apply (meets_safe (meets_stands within_memory)).bind
  intro authority
  refine Meets.bind (apart _ ?_) fun seen => ?_
  · exact fun _ => rfl
  apply meets_ite
  · intro reloaded
    apply (meets_safe (meets_stands within_timezone)).bind
    intro baseline
    cases zones.canonical baseline with
    | none => exact meets_fail fun _ stands => stands.safe
    | some canonical =>
        have lowered : Meets (Stands zones)
            (Service.update fun authority => { authority with
              baseline := baseline
              state := { authority.state with
                expectedTimezone := some canonical
                paused := false
                writePending := false
                manual := false } })
            (fun _ session =>
              session.Ready zones (some fun _ => .reloaded)
                session.authority.state)
            (fun _ session => session.Safe zones) := by
          apply meets_change
          intro session stands
          refine Ready.of_same (stands.ready_mark trivial ?_) rfl rfl
          exact stands.memory.closed (fun _ => rfl) (Nat.le_refl _) rfl
            fun _ known => .inl known
        apply lowered.bind
        intro taken
        apply meets_saveMemory_ready.bind
        intro kept
        apply apart
        exact fun _ => rfl
  · exact fun _ => meets_pure fun _ stands => stands

theorem meets_turn {current : Control} {command : Option (Nat × Request)} :
    Meets (Stands zones) (turn world zones current command)
      (fun _ => Stands zones) (fun _ session => session.Safe zones) := by
  have rest : Meets (Stands zones) (do
        let authority ← memory
        if authority.state.paused || authority.state.writePending then
          status world "Automatic location paused · reload to resume"
        else if authority.state.manual then
          status world "Current location set manually"
        else observe world zones)
      (fun _ => Stands zones) (fun _ session => session.Safe zones) := by
    apply meets_memory.bind
    intro authority
    have told : ∀ message, Meets
        (fun session => session.Stands zones ∧ session.authority = authority)
        (status world message) (fun _ => Stands zones)
        (fun _ session => session.Safe zones) :=
      fun message => (meets_safe (meets_stands (within_status message))).weaken
        (fun _ holds => holds.1) (fun _ _ holds => holds) fun _ _ holds => holds
    apply meets_ite
    · exact fun _ => told _
    · intro free
      apply meets_ite
      · exact fun _ => told _
      · intro automatic
        refine meets_observe.weaken ?_ (fun _ _ holds => holds)
          fun _ _ holds => holds
        rintro session ⟨stands, rfl⟩
        simp only [Bool.or_eq_true, not_or, Bool.not_eq_true] at free
        exact ⟨stands, free.2⟩
  apply meets_reconcileControl.bind
  intro reconciled
  cases command with
  | none => exact rest
  | some asked => exact meets_serve.bind fun _ => rest

theorem meets_start :
    Meets (Safe zones) (start world zones) (fun _ => Stands zones)
      (fun _ session => session.Safe zones) := by
  have kept : ∀ disk : State, ∀ session after : Session,
      session.Safe zones ∧ session.disk = disk → session.Quiet after →
      after.Safe zones ∧ after.disk = disk := by
    rintro disk session after ⟨⟨knows, permitted⟩, same⟩ quiet
    rw [← quiet.disk, ← quiet.trace] at knows
    rw [← quiet.trace] at permitted
    exact ⟨⟨knows, permitted⟩, quiet.disk.trans same⟩
  have seen : Meets (Safe zones) (read : Service Session)
      (fun seen session => session.Safe zones ∧ session.disk = seen.disk)
      (fun _ session => session.Safe zones) :=
    meets_read fun _ safe => ⟨safe, rfl⟩
  apply seen.bind
  intro session
  have idle : ∀ {Value : Type} {attempt : Service Value},
      Within Quiet attempt →
      Meets (fun later : Session =>
          later.Safe zones ∧ later.disk = session.disk) attempt
        (fun _ later => later.Safe zones ∧ later.disk = session.disk)
        (fun _ later => later.Safe zones) :=
    fun within => meets_quiet within (kept session.disk) fun _ _ holds =>
      holds.1
  apply (idle within_ask).bind
  intro loaded
  apply meets_lift_bind fun _ _ holds => holds.1
  intro readable _
  apply (idle within_timezone).bind
  intro baseline
  cases zones.canonical baseline with
  | none => exact meets_fail fun _ holds => holds.1
  | some canonical =>
      have loaded : ∀ state : State,
          state.writePending = session.disk.writePending →
          state.acceptedRevision = session.disk.acceptedRevision →
          state.operation = session.disk.operation →
          Meets (fun later : Session =>
              later.Safe zones ∧ later.disk = session.disk)
            (Service.update fun _ => ⟨state, baseline, "", 0, 0, none⟩)
            (fun _ => Stands zones) (fun _ later => later.Safe zones) := by
        intro state fence revision operation
        apply meets_change
        rintro later ⟨⟨disk, permitted⟩, same⟩
        rw [← same] at fence revision operation
        exact ⟨⟨disk, permitted⟩, disk.same fence revision operation⟩
      refine Meets.bind (loaded _ ?_ ?_ ?_) fun _ =>
        meets_safe meets_saveMemory_stands
      all_goals
        split
        · split
          · rfl
          · rfl
        · rfl

end Service

/-! ### Runs -/

namespace Session

variable {world : Nat → Answer} {zones : Zones}

/-- An authority that runs stands; one that does not has left a disk that
knows of the calls. -/
structure Fenced (zones : Zones) (session : Session) : Prop where
  safe : session.Safe zones
  stands : session.running = true → session.Stands zones

theorem fenced_settled {before : Session → Prop} {Value : Type}
    {attempt : Service Value} {session : Session}
    (spec : Meets before attempt (fun _ => Stands zones)
      (fun _ session => session.Safe zones)) (holds : before session) :
    (settled (attempt session)).Fenced zones := by
  have reached := spec session holds
  rcases result : attempt session with ⟨outcome, after⟩
  rw [result] at reached
  cases outcome with
  | ok value =>
      obtain ⟨⟨disk, permitted⟩, memory⟩ := reached
      exact ⟨⟨disk, permitted⟩, fun _ => ⟨⟨disk, permitted⟩, memory⟩⟩
  | error fault =>
      obtain ⟨disk, permitted⟩ := reached
      exact ⟨⟨disk, permitted⟩, fun running => nomatch running⟩

theorem fenced_step {session : Session} (fenced : session.Fenced zones)
    (event : Event) : (session.step world zones event).Fenced zones := by
  have stopped : ({ session with running := false } : Session).Fenced zones :=
    ⟨⟨fenced.safe.disk, fenced.safe.permitted⟩, fun running => nomatch running⟩
  cases event with
  | crash => exact stopped
  | boot =>
      simp only [step]
      split
      · exact fenced
      · exact fenced_settled Service.meets_start fenced.safe
  | turn control command =>
      simp only [step]
      split
      case isTrue running =>
        split
        · exact stopped
        · exact fenced_settled Service.meets_turn (fenced.stands running)
      case isFalse => exact fenced

theorem fenced_initial : initial.Fenced zones :=
  ⟨⟨⟨nofun, nofun, nofun, nofun⟩, Traces.each_nil⟩, nofun⟩

/-- A call is made under the fence and only when the last one has been read
back and recorded, unless there was a reload; an identifier is called for again
only after the intent of another operation has gone to the disk; a success reply
is given when the place has been recorded. -/
theorem calls_fenced (world : Nat → Answer) (zones : Zones)
    (events : List Event) :
    Traces.Each (Mark.Permitted zones)
      (run (step world zones) initial events).trace := by
  have unconditional :
      StepsMeet (step world zones) (fun _ _ => True) initial events :=
    stepsMeet_of_forall (fun _ _ => trivial) _ _
  have preserved : ∀ (session : Session) (event : Event),
      session.Fenced zones → True →
        (session.step world zones event).Fenced zones :=
    fun _ event fenced _ => fenced_step fenced event
  have fenced : (run (step world zones) initial events).Fenced zones :=
    invariant_run preserved fenced_initial unconditional
  exact fenced.safe.permitted

/-! ### An identifier that comes back -/

/-- A call for a request with the identifier. -/
def calledFor (uid : Nat) (requestId : String) : Mark → Bool
  | .called (some (other, request)) _ _ =>
      other == uid && request.requestId == requestId
  | _ => false

/-- Every place is in the zone that it names. -/
def anyZone : Zones where
  canonical := some
  known _ := true
  locate place := some place.timezone
  decides _ _ _ _ := .error (.retry "")

/-- Nothing fails, and the zone is what has been asked for. -/
def obedient (call : Nat) : Answer where
  crashed := false
  written := true
  kept := .ok ()
  timezone := .ok (if call < 8 then "Etc/UTC"
    else if call < 21 then "Europe/Dublin" else "Europe/Paris")
  applied := .ok ()
  control := ⟨0, 0, false, false⟩
  onNetwork := true
  observed := .quiet
  cooling := false
  acquired := .error (.retry "")
  limited := none
  started := .ofNat 0
  now := .ofNat 0

def placeAt (name zone : String) : Place :=
  ⟨name, "", "", zone, .ofNat 50, .ofNat 5⟩

def asks (request : Request) : Event :=
  .turn ⟨0, 0, false, false⟩ (some (1000, request))

/-- The identifier of the first request is used for the third one. -/
def reusedIdentifier : List Event :=
  [.boot, asks ⟨"a", 0, some (placeAt "Dublin" "Europe/Dublin")⟩,
    asks ⟨"b", 2, none⟩, asks ⟨"a", 3, some (placeAt "Paris" "Europe/Paris")⟩]

theorem reused_identifier_called_twice :
    ¬ ∀ world zones events uid requestId,
      (run (step world zones) initial events).trace.countP
        (calledFor uid requestId) ≤ 1 := by
  intro once
  have twice : (run (step obedient anyZone) initial
      reusedIdentifier).trace.countP (calledFor 1000 "a") = 2 := by
    decide +kernel
  have atMost := once obedient anyZone reusedIdentifier 1000 "a"
  omega

end Session

end BarDaemon.Locations
