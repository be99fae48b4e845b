import BarDaemon.LocationAuthority
import BarDaemon.Traces
import BarDaemon.TransitionRuns

/-!
# The fence of the location authority

While a call of timedated has not been read back and recorded, the disk says
that a write is pending, and no other call is made.  An identifier that has been
called for is not called for again before another one takes its place.
-/

namespace BarDaemon.Locations

open Attempt TransitionRuns

/-! ### Reading a trace -/

/-- The call that is open after the mark. -/
def opens (call : Option (Origin × String)) :
    Mark → Option (Origin × String)
  | .called origin zone _ => some (origin, zone)
  | .recorded _ _ _ => none
  | .reloaded => none
  | .read _ => call
  | .intended _ _ _ => call
  | .succeeded _ _ => call

/-- The last call that has not been recorded, if there was no reload since. -/
def opened (trace : List Mark) : Option (Origin × String) :=
  trace.foldl opens none

@[simp]
theorem opened_concat (trace : List Mark) (mark : Mark) :
    opened (trace ++ [mark]) = opens (opened trace) mark := by
  simp [opened]

/-- The identifiers that are remembered after the mark. -/
def remembers (called : List (Nat × String)) : Mark → List (Nat × String)
  | .called (some (uid, request)) _ _ => (uid, request.requestId) :: called
  | .intended uid request _ =>
      called.filter fun earlier => earlier == (uid, request.requestId)
  | _ => called

/-- The identifiers that have been called for, each as long as no other one has
gone to the disk. -/
def remembered (trace : List Mark) : List (Nat × String) :=
  trace.foldl remembers []

@[simp]
theorem remembered_concat (trace : List Mark) (mark : Mark) :
    remembered (trace ++ [mark]) = remembers (remembered trace) mark := by
  simp [remembered]

theorem mem_of_mem_remembers {called : List (Nat × String)} {mark : Mark}
    {identifier : Nat × String}
    (other : ∀ origin zone fenced, mark ≠ .called origin zone fenced)
    (member : identifier ∈ remembers called mark) : identifier ∈ called := by
  cases mark with
  | called origin zone fenced => exact absurd rfl (other origin zone fenced)
  | intended uid request kept => exact (List.mem_filter.mp member).1
  | read | recorded | reloaded | succeeded => exact member

/-- The zone is what has just been read, and an open call has asked for it. -/
structure ReadBack (zones : Zones) (trace : List Mark) (origin : Origin)
    (zone : String) : Prop where
  call : ∀ call, opened trace = some call → call = (origin, zone)
  read : ∃ before actual, trace = before ++ [.read actual] ∧
    zones.canonical actual = some zone

/-- The place of a request has been applied, read back and recorded. -/
def Confirmed (trace : List Mark) (uid : Nat) (request : Request) : Prop :=
  request.place.isSome = true →
    ∃ earlier zone kept,
      .recorded (some (uid, earlier)) zone kept ∈ trace ∧
        earlier.same request = true

/-- What may happen after what has happened. -/
def Mark.Permitted (zones : Zones) (past : List Mark) : Mark → Prop
  | .called origin _ fenced =>
      fenced = true ∧ opened past = none ∧
        ∀ uid request, origin = some (uid, request) →
          (uid, request.requestId) ∉ remembered past ∧
            ∀ other earlier zone fenced,
              .called (some (other, earlier)) zone fenced ∈ past →
                earlier.revision ≠ request.revision
  | .recorded origin zone kept => ReadBack zones past origin zone ∧
      kept.writePending = false ∧ kept.expectedTimezone = some zone ∧
        ∀ uid request, origin = some (uid, request) →
          request.zone zones = .ok (some zone) ∧
            kept.operation = some ⟨uid, request, "applied"⟩
  | .succeeded uid request => Confirmed past uid request
  | .intended uid request kept =>
      ∃ outcome, kept.operation = some ⟨uid, request, outcome⟩
  | .read _ => True
  | .reloaded => True

/-! ### What a state knows of the calls -/

/-- How an operation is known again. -/
def Operation.identifier (operation : Operation) : Nat × String :=
  (operation.uid, operation.request.requestId)

structure Knows (state : State) (trace : List Mark) : Prop where
  fence : opened trace ≠ none → state.writePending = true
  spent : ∀ uid request zone fenced,
    .called (some (uid, request)) zone fenced ∈ trace →
      request.revision < state.acceptedRevision
  last : ∀ identifier ∈ remembered trace,
    state.operation.map Operation.identifier = some identifier
  applied : ∀ operation, state.operation = some operation →
    operation.outcome = "applied" → operation.request.place.isSome = true →
      ∃ zone kept,
        .recorded (some (operation.uid, operation.request)) zone kept ∈ trace

namespace Session

/-- The disk knows of the calls. -/
structure Safe (zones : Zones) (session : Session) : Prop where
  disk : Knows session.disk session.trace
  permitted : Traces.Each (Mark.Permitted zones) session.trace

/-- The authority in memory knows of them as well. -/
structure Stands (zones : Zones) (session : Session) : Prop where
  safe : session.Safe zones
  memory : Knows session.authority.state session.trace

/-- How an attempt of the authority may fail. -/
structure Fails (zones : Zones) (fault : Fault) (session : Session) :
    Prop where
  safe : session.Safe zones
  stands : fault ≠ .crashed → session.Stands zones

theorem Stands.fails {zones : Zones} {session : Session}
    (stands : session.Stands zones) (fault : Fault) :
    session.Fails zones fault :=
  ⟨stands.safe, fun _ => stands⟩

/-- Neither the states nor the trace have changed. -/
structure Quiet (session after : Session) : Prop where
  state : after.authority.state = session.authority.state
  baseline : after.authority.baseline = session.authority.baseline
  disk : after.disk = session.disk
  trace : after.trace = session.trace
  durable : after.durable = session.durable

instance : Std.Refl Quiet where
  refl _ := ⟨rfl, rfl, rfl, rfl, rfl⟩

instance : IsTrans Session Quiet where
  trans _ _ _ before after := ⟨after.state.trans before.state,
    after.baseline.trans before.baseline, after.disk.trans before.disk,
    after.trace.trans before.trace, after.durable.trans before.durable⟩

theorem Stands.quiet {zones : Zones} {session after : Session}
    (stands : session.Stands zones) (quiet : session.Quiet after) :
    after.Stands zones := by
  obtain ⟨⟨disk, permitted⟩, memory⟩ := stands
  rw [← quiet.disk, ← quiet.trace] at disk
  rw [← quiet.trace] at permitted
  rw [← quiet.state, ← quiet.trace] at memory
  exact ⟨⟨disk, permitted⟩, memory⟩

end Session

namespace Service

open Session

variable {world : Nat → Answer} {zones : Zones}

/-! ### Effects -/

theorem within_ask : Within Quiet (ask world) := by
  intro session
  unfold ask
  split
  · exact ⟨rfl, rfl, rfl, rfl, rfl⟩
  · exact ⟨rfl, rfl, rfl, rfl, rfl⟩

theorem within_timezone : Within Quiet (timezone world) :=
  within_ask.bind fun _ => within_lift _ _

theorem within_memory : Within Quiet memory :=
  within_read.bind fun _ => within_pure _

theorem within_status (message : String) :
    Within Quiet (status world message) := by
  refine within_memory.bind fun _ => ?_
  apply Within.ite
  · exact within_pure ()
  · refine within_ask.bind fun _ => (within_lift _ _).bind fun _ => ?_
    exact within_change fun _ => ⟨rfl, rfl, rfl, rfl, rfl⟩

theorem within_finish (decision : Decision) :
    Within Quiet (finish world decision) := by
  refine (within_status _).bind fun _ => ?_
  exact within_change fun _ => ⟨rfl, rfl, rfl, rfl, rfl⟩

/-- What a quiet attempt does not change is kept. -/
theorem meets_quiet {Value : Type} {attempt : Service Value}
    (within : Within Quiet attempt) {before : Session → Prop}
    {failed : Fault → Session → Prop}
    (keeps : ∀ session after, before session → session.Quiet after →
      before after)
    (fails : ∀ fault session, before session → failed fault session) :
    Meets before attempt (fun _ => before) failed := by
  have kept : Meets before attempt (fun _ => before) (fun _ => before) :=
    within.meets fun session after quiet holds => keeps session after holds
      quiet
  exact kept.weaken (fun _ holds => holds) (fun _ _ holds => holds) fails

theorem meets_memory {before : Session → Prop}
    {failed : Fault → Session → Prop} :
    Meets before memory
      (fun authority session => before session ∧
        session.authority = authority) failed :=
  fun _ holds => ⟨holds, rfl⟩

theorem meets_save {note : Option (State → Mark)} {state : State}
    {before : Session → Prop} {done : Unit → Session → Prop}
    {failed : Fault → Session → Prop}
    (kept : ∀ session, before session →
      done () (session.asked.wrote note state))
    (lost : ∀ fault session, before session → failed fault session.asked)
    (late : ∀ fault session, before session →
      failed fault (session.asked.wrote note state)) :
    Meets before (save world note state) done failed := by
  intro session holds
  have either : ∀ fault, failed fault
      (if (world session.calls).written then session.asked.wrote note state
        else session.asked) := by
    intro fault
    split
    · exact late fault session holds
    · exact lost fault session holds
  unfold save
  dsimp only
  by_cases crashed : (world session.calls).crashed = true
  · rw [if_pos crashed]
    exact either .crashed
  · rw [if_neg crashed]
    cases answered : (world session.calls).kept with
    | ok saved => exact kept session holds
    | error text => exact either (.failed text)

theorem meets_saveMemory {note : Option (State → Mark)} {before : Session → Prop}
    {done : Unit → Session → Prop} {failed : Fault → Session → Prop}
    (kept : ∀ session, before session →
      done () (session.asked.wrote note session.authority.state))
    (lost : ∀ fault session, before session → failed fault session.asked)
    (late : ∀ fault session, before session →
      failed fault (session.asked.wrote note session.authority.state)) :
    Meets before (saveMemory world note) done failed := by
  apply meets_memory.bind
  intro authority
  apply meets_save
  · rintro session ⟨holds, rfl⟩
    exact kept session holds
  · rintro fault session ⟨holds, -⟩
    exact lost fault session holds
  · rintro fault session ⟨holds, rfl⟩
    exact late fault session holds

/-- Keeping what is in memory, without a mark. -/
theorem meets_saveMemory_none {before : Session → Prop}
    (stands : ∀ session, before session → session.Stands zones)
    (calm : ∀ session, before session →
      before (session.asked.wrote none session.authority.state)) :
    Meets before (saveMemory world none) (fun _ => before)
      (Fails zones) := by
  apply meets_saveMemory
  · exact calm
  · intro fault session holds
    obtain ⟨⟨disk, permitted⟩, memory⟩ := stands session holds
    have asked : session.asked.Stands zones := ⟨⟨disk, permitted⟩, memory⟩
    exact asked.fails fault
  · intro fault session holds
    exact Stands.fails (stands _ (calm session holds)) fault

/-! ### Applying a timezone -/

/-- The state has taken the request in. -/
structure Recalls (state : State) (uid : Nat) (request : Request) : Prop where
  spent : request.revision < state.acceptedRevision
  last : state.operation.map Operation.identifier =
    some (uid, request.requestId)

/-- Nothing has been called for under the identifier or the revision. -/
structure Unused (trace : List Mark) (uid : Nat) (request : Request) :
    Prop where
  identifier : (uid, request.requestId) ∉ remembered trace
  revision : ∀ other earlier zone fenced,
    .called (some (other, earlier)) zone fenced ∈ trace →
      earlier.revision ≠ request.revision

/-- A call may be made. -/
structure Armed (zones : Zones) (origin : Origin) (held : State)
    (session : Session) : Prop where
  stands : session.Stands zones
  same : session.authority.state = held
  fenced : session.disk.writePending = true
  pending : held.writePending = true
  closed : opened session.trace = none
  unused : ∀ uid request, origin = some (uid, request) →
    Recalls session.disk uid request ∧ Recalls held uid request ∧
      Unused session.trace uid request

theorem Armed.quiet {origin : Origin} {held : State}
    {session after : Session} (armed : Armed zones origin held session)
    (quiet : session.Quiet after) : Armed zones origin held after where
  stands := armed.stands.quiet quiet
  same := quiet.state.trans armed.same
  fenced := by rw [quiet.disk, armed.fenced]
  pending := armed.pending
  closed := by rw [quiet.trace, armed.closed]
  unused := by
    rw [quiet.disk, quiet.trace]
    exact armed.unused

/-- A call keeps what a state knows, when it says that a write is pending. -/
theorem knows_called {state : State} {trace : List Mark}
    (knows : Knows state trace) {origin : Origin} {zone : String}
    {fenced : Bool} (pending : state.writePending = true)
    (recalls : ∀ uid request, origin = some (uid, request) →
      Recalls state uid request) :
    Knows state (trace ++ [.called origin zone fenced]) where
  fence _ := pending
  spent uid request other held member := by
    rcases List.mem_append.mp member with earlier | last
    · exact knows.spent uid request other held earlier
    · have same := List.mem_singleton.mp last
      injection same with origins
      exact (recalls uid request origins.symm).spent
  last identifier member := by
    rw [remembered_concat] at member
    rcases origin with - | ⟨uid, request⟩
    · exact knows.last identifier member
    · rcases List.mem_cons.mp member with rfl | earlier
      · exact (recalls uid request rfl).last
      · exact knows.last identifier earlier
  applied operation known outcome place := by
    obtain ⟨zone, kept, member⟩ := knows.applied operation known outcome place
    exact ⟨zone, kept, List.mem_append_left _ member⟩

/-- A mark that neither opens nor is a call. -/
theorem knows_concat {state : State} {trace : List Mark}
    (knows : Knows state trace) {mark : Mark}
    (closes : opens (opened trace) mark ≠ none → opened trace ≠ none)
    (other : ∀ origin zone fenced, mark ≠ .called origin zone fenced) :
    Knows state (trace ++ [mark]) where
  fence isOpen := by
    rw [opened_concat] at isOpen
    exact knows.fence (closes isOpen)
  spent uid request zone fenced member := by
    rcases List.mem_append.mp member with earlier | last
    · exact knows.spent uid request zone fenced earlier
    · exact absurd (List.mem_singleton.mp last).symm (other _ _ _)
  last identifier member := by
    rw [remembered_concat] at member
    exact knows.last identifier (mem_of_mem_remembers other member)
  applied operation known outcome place := by
    obtain ⟨zone, kept, member⟩ := knows.applied operation known outcome place
    exact ⟨zone, kept, List.mem_append_left _ member⟩

/-- The call of a request, or of the evidence, may have been made. -/
structure Applying (zones : Zones) (origin : Origin) (zone : String)
    (held : State) (session : Session) : Prop where
  stands : session.Stands zones
  same : session.authority.state = held
  call : ∀ call, opened session.trace = some call → call = (origin, zone)

theorem Armed.applying {origin : Origin} {zone : String} {held : State}
    {session : Session} (armed : Armed zones origin held session) :
    Applying zones origin zone held session where
  stands := armed.stands
  same := armed.same
  call call isOpen := by simp [armed.closed] at isOpen

theorem Applying.quiet {origin : Origin} {zone : String} {held : State}
    {session after : Session} (applying : Applying zones origin zone held session)
    (quiet : session.Quiet after) : Applying zones origin zone held after where
  stands := applying.stands.quiet quiet
  same := quiet.state.trans applying.same
  call := by
    rw [quiet.trace]
    exact applying.call

theorem meets_setTimezone {origin : Origin} {held : State} {zone : String} :
    Meets (Armed zones origin held) (setTimezone world origin zone)
      (fun _ => Applying zones origin zone held)
      (fun _ => Applying zones origin zone held) := by
  intro session armed
  have called : Applying zones origin zone held (session.asked.marked
      (.called origin zone session.disk.writePending)) := by
    have unused := armed.unused
    constructor
    · refine ⟨⟨?_, Traces.each_concat_iff.mpr ⟨armed.stands.safe.permitted,
        armed.fenced, armed.closed, fun uid request same => ?_⟩⟩, ?_⟩
      · exact knows_called armed.stands.safe.disk armed.fenced
          fun uid request same => (unused uid request same).1
      · obtain ⟨-, -, identifier, revision⟩ := unused uid request same
        exact ⟨identifier, revision⟩
      · apply knows_called armed.stands.memory
        · rw [armed.same]
          exact armed.pending
        · intro uid request same
          rw [armed.same]
          exact (unused uid request same).2.1
    · exact armed.same
    · intro call isOpen
      simp only [marked, opened_concat, opens, Option.some.injEq] at isOpen
      exact isOpen.symm
  unfold setTimezone
  dsimp only
  by_cases crashed : (world session.calls).crashed = true
  · rw [if_pos crashed]
    exact called
  · rw [if_neg crashed]
    cases answered : (world session.calls).applied with
    | ok applied => exact called
    | error text => exact called

/-- What is read back is marked as it is read, before it is judged. -/
theorem meets_readBack {origin : Origin} {held : State} {zone : String} :
    Meets (Applying zones origin zone held) (readBack world)
      (fun actual session => Applying zones origin zone held session ∧
        ∃ before, session.trace = before ++ [.read actual])
      (fun _ => Applying zones origin zone held) := by
  have answered : Meets (Applying zones origin zone held) (timezone world)
      (fun _ => Applying zones origin zone held)
      (fun _ => Applying zones origin zone held) := by
    apply meets_quiet within_timezone
    · exact fun _ _ applying quiet => applying.quiet quiet
    · exact fun _ _ holds => holds
  apply answered.bind
  intro actual
  have marked : Meets (Applying zones origin zone held)
      (change fun session => session.marked (.read actual) : Service Unit)
      (fun _ session => Applying zones origin zone held session ∧
        ∃ before, session.trace = before ++ [.read actual])
      (fun _ => Applying zones origin zone held) := by
    apply meets_change
    rintro session ⟨⟨⟨disk, permitted⟩, memory⟩, same, call⟩
    refine ⟨⟨⟨⟨?_, ?_⟩, ?_⟩, same, ?_⟩, session.trace, rfl⟩
    · exact knows_concat disk (by simp [opens]) nofun
    · exact Traces.each_concat_iff.mpr ⟨permitted, trivial⟩
    · exact knows_concat memory (by simp [opens]) nofun
    · intro other isOpen
      rw [Session.marked, opened_concat] at isOpen
      exact call other isOpen
  exact marked.bind fun _ => meets_pure fun _ holds => holds

theorem meets_applyTimezone {origin : Origin} {held : State}
    {current zone : String} :
    Meets (Armed zones origin held)
      (applyTimezone world zones origin current zone)
      (fun _ session => Applying zones origin zone held session ∧
        ReadBack zones session.trace origin zone)
      (fun _ => Applying zones origin zone held) := by
  have verify : Meets (Applying zones origin zone held) (do
        let actual ← readBack world
        if zones.canonical actual = some zone then
          return actual
        else fail (.failed "Timezone application unverified"))
      (fun _ session => Applying zones origin zone held session ∧
        ReadBack zones session.trace origin zone)
      (fun _ => Applying zones origin zone held) := by
    apply meets_readBack.bind
    intro actual
    apply meets_ite
    · intro agrees
      apply meets_pure
      rintro session ⟨applying, before, read⟩
      exact ⟨applying, applying.call, before, actual, read, agrees⟩
    · exact fun _ => meets_fail fun _ holds => holds.1
  unfold applyTimezone
  dsimp only
  apply meets_ite
  · exact fun _ => meets_setTimezone.bind fun _ => verify
  · exact fun _ => verify.weaken (fun _ armed => armed.applying)
      (fun _ _ holds => holds) fun _ _ holds => holds

end Service

end BarDaemon.Locations
