import BarDaemon.WorkspaceDurability

/-!
# Receipts of requests

A create or close that has been answered with its own record is found again
under its key, and sending it again has no further effect.
-/

namespace BarDaemon.Workspaces

open Std

/-! ### The request of a key -/

/-- The request that a record was made for. -/
def Reply.request? : Reply → Option (Create ⊕ Close)
  | .reservation record => some (.inl record.request)
  | .close record => some (.inr record.request)
  | _ => none

namespace Journal

/-- No key is used twice. -/
def Apart (journal : Journal) : Prop :=
  ∀ key : String, journal.reservations[key]? = none ∨
    journal.closes[key]? = none

/-- The request that is recorded for a key. -/
def requestAt (journal : Journal) (key : String) : Option (Create ⊕ Close) :=
  match journal.reservations[key]? with
  | some record => some (.inl record.request)
  | none => journal.closes[key]?.map fun record => .inr record.request

/-- The record of a key. -/
def replyAt (journal : Journal) (key : String) : Option Reply :=
  match journal.reservations[key]? with
  | some record => some (.reservation record)
  | none => journal.closes[key]?.map Reply.close

/-- A recorded request has a record. -/
theorem replyAt_of_requestAt {journal : Journal} {key : String}
    {request : Create ⊕ Close}
    (recorded : journal.requestAt key = some request) :
    ∃ reply, journal.replyAt key = some reply ∧
      reply.request? = some request := by
  unfold requestAt at recorded
  unfold replyAt
  cases reserved : journal.reservations[key]? with
  | some record =>
      rw [reserved] at recorded
      exact ⟨.reservation record, rfl, recorded⟩
  | none =>
      rw [reserved] at recorded
      obtain ⟨record, closed, rfl⟩ := Option.map_eq_some_iff.mp recorded
      exact ⟨.close record, by simp [closed], rfl⟩

theorem requestAt_eq_inl_iff {journal : Journal} {key : String}
    {request : Create} :
    journal.requestAt key = some (.inl request) ↔
      journal.reservations[key]?.map Reservation.request = some request := by
  unfold requestAt
  cases journal.reservations[key]? with
  | none => simp
  | some record => simp

theorem Apart.requestAt_eq_inr_iff {journal : Journal} (apart : journal.Apart)
    {key : String} {request : Close} :
    journal.requestAt key = some (.inr request) ↔
      journal.closes[key]?.map CloseRecord.request = some request := by
  unfold requestAt
  rcases apart key with absent | absent
  · rw [absent]
    cases journal.closes[key]? with
    | none => simp
    | some record => simp
  · cases journal.reservations[key]? with
    | none => simp [absent]
    | some record => simp [absent]

theorem Apart.of_matches {first second : Journal} (apart : first.Apart)
    (same : first.Matches second) : second.Apart := by
  intro key
  rcases apart key with absent | absent
  · left
    have equal := same.reservation key
    rw [absent] at equal
    simpa using equal
  · right
    have equal := same.close key
    rw [absent] at equal
    simpa using equal

/-- What extends a journal has its requests. -/
theorem Extends.requestAt {before after : Journal}
    (grows : before.Extends after) (apart : before.Apart)
    (later : after.Apart) {key : String} {request : Create ⊕ Close}
    (found : before.requestAt key = some request) :
    after.requestAt key = some request := by
  cases request with
  | inl request =>
      rw [requestAt_eq_inl_iff] at found ⊢
      exact grows.reservation key request found
  | inr request =>
      rw [apart.requestAt_eq_inr_iff] at found
      rw [later.requestAt_eq_inr_iff]
      exact grows.close key request found

theorem apart_reserve {journal : Journal} (apart : journal.Apart)
    {request : Create} (unused : journal.Unused request.requestId)
    (lease : Lease) (writer : String) :
    (journal.reserve request lease writer).Apart := by
  intro key
  rw [reservations_reserve, closes_reserve]
  split
  · rename_i same
    rw [← same]
    exact .inr unused.close
  · exact apart key

theorem apart_acceptClose {journal : Journal} (apart : journal.Apart)
    {request : Close} (unused : journal.Unused request.requestId)
    (targets : List Target) : (journal.acceptClose request targets).Apart := by
  intro key
  by_cases same : request.requestId = key
  · left
    have absent := unused.reservation
    rw [same] at absent
    simp [acceptClose, fenceWorkspace, setClose, absent]
  · rcases apart key with absent | absent
    · left
      simp [acceptClose, fenceWorkspace, setClose, absent]
    · right
      simp [acceptClose, fenceWorkspace, setClose,
        OrderedMaps.getElem?_insert, same, absent]

end Journal

/-- In no run a key is used twice. -/
theorem Journal.apart_invariant [Wire] : Journal.Invariant Journal.Apart where
  empty _ key := .inl (by simp [Journal.empty])
  serialized journal apart := apart.of_matches journal.matches_serialized
  restored file session journal restored apart := by
    obtain ⟨-, -, rfl⟩ := Journal.restore_eq_ok restored
    exact (apart.of_matches file.matches_keepManual).of_matches
      file.keepManual.matches_fenced
  watched _ _ apart := apart
  visited journal monitor apart :=
    apart.of_matches (journal.matches_noteActive monitor)
  observed _ _ _ _ apart := apart
  allocated journal live id next allocated apart := by
    obtain ⟨-, -, rfl⟩ := Journal.allocate_eq_ok_iff.mp allocated
    exact apart
  entered _ _ _ apart := apart
  retired _ _ apart := apart
  reserved journal request lease writer reservable apart :=
    journal.apart_reserve apart reservable.unused lease writer
  resolved journal key update keeps apart :=
    apart.of_matches (journal.matches_changeReservation key fun record =>
      (keeps record).1.request)
  released journal key apart :=
    apart.of_matches (journal.matches_changeReservation key fun _ => rfl)
  closeAccepted journal request targets closable apart :=
    journal.apart_acceptClose apart closable.unused targets
  closeChanged journal key update keeps apart :=
    apart.of_matches (journal.matches_changeClose key keeps)

/-! ### Methods that leave a record -/

namespace Method

/-- The request id of a create or a close. -/
def key? : Method → Option String
  | .create request => some request.requestId
  | .close request => some request.requestId
  | .command given =>
      if given.command = .create ∨ given.command = .close then
        given.requestId
      else none
  | _ => none

/-- The close that a method with a request id asks for. -/
def closing? (snapshot : Snapshot) : Method → Option Close
  | .close request => some request
  | .command given =>
      match given.command, given.requestId,
          snapshot.context given.monitor with
      | .close, some key, .ok here => some ⟨key, here⟩
      | _, _, _ => none
  | _ => none

/-- Whether sending the method again names the recorded request. -/
def Repeats (key : String) : Method → Create ⊕ Close → Prop
  | .create own, .inl request => own = request ∧ own.requestId = key
  | .close own, .inr request => own = request ∧ own.requestId = key
  | .command given, .inl request => given.wellFormed = true ∧
      given.requestId = some key ∧
      (given.repeats .create request.context &&
        request.purpose == .landingPad) = true
  | .command given, .inr request => given.wellFormed = true ∧
      given.requestId = some key ∧
      given.repeats .close request.context = true
  | _, _ => False

/-- Whether the method is looked at, as temporary workspaces are allowed or
not.  Only a create is refused before its key is looked up. -/
def allowed (enabled : Bool) : Method → Bool
  | .create request => request.allowed enabled
  | _ => true

end Method

/-- Whether a close with a new key is answered with the record of another
close of its workspace, which is in progress. -/
def Journal.joins (journal : Journal) (request : Close) : Bool :=
  journal.closes[request.requestId]?.isNone &&
    (Service.joining journal request.context.workspaceId).isSome

namespace Service

variable (world : Surroundings) [Wire]

theorem journal_of_holds {state : State} {journal : Journal}
    (holds : state.Holds (· = journal)) :
    Service.journal state = (.ok journal, state) := by
  obtain ⟨loaded, present, rfl⟩ := holds
  simp [Service.journal, present]

theorem get_found {state : State} {journal : Journal} {snapshot : Snapshot}
    {key : String} {reply : Reply} (holds : state.Holds (· = journal))
    (found : journal.replyAt key = some reply) :
    get snapshot ⟨snapshot.session, key⟩ state = (.ok reply, state) := by
  have read := journal_of_holds holds
  unfold Journal.replyAt at found
  cases reserved : journal.reservations[key]? with
  | some record =>
      rw [reserved] at found
      obtain rfl := Option.some.inj found
      simp [get, ensure, Attempt.ensure, Attempt.bind_apply, read, reserved]
  | none =>
      rw [reserved] at found
      obtain ⟨record, closed, rfl⟩ := Option.map_eq_some_iff.mp found
      simp [get, ensure, Attempt.ensure, Attempt.bind_apply, read, reserved,
        closed]

/-- A method that names a recorded request returns its record. -/
theorem answer_again {state : State} {journal : Journal} {snapshot : Snapshot}
    {method : Method} {key : String} {request : Create ⊕ Close} {reply : Reply}
    (holds : state.Holds (· = journal))
    (found : journal.replyAt key = some reply)
    (about : reply.request? = some request)
    (repeats : method.Repeats key request)
    (allowed : method.allowed (world.enabled state.calls) = true) :
    answer world snapshot method state = (.ok reply, state) := by
  have read := journal_of_holds holds
  unfold Journal.replyAt at found
  cases reserved : journal.reservations[key]? with
  | some record =>
      rw [reserved] at found
      obtain rfl := Option.some.inj found
      obtain rfl := Option.some.inj about
      cases method with
      | create own =>
          obtain ⟨rfl, rfl⟩ := repeats
          rw [Method.allowed] at allowed
          simp [answer, create, enabled, ensure, Attempt.ensure,
            Attempt.bind_apply, read, reserved, allowed]
      | command command =>
          obtain ⟨formed, named, same⟩ := repeats
          rw [Bool.and_eq_true, beq_iff_eq] at same
          simp [answer, Service.command, replayed, ensure, Attempt.ensure,
            Attempt.bind_apply, formed, named, read, reserved, same.1, same.2]
      | context => exact repeats.elim
      | place => exact repeats.elim
      | release => exact repeats.elim
      | get => exact repeats.elim
      | close => exact repeats.elim
      | unsupported => exact repeats.elim
  | none =>
      rw [reserved] at found
      obtain ⟨record, closed, rfl⟩ := Option.map_eq_some_iff.mp found
      obtain rfl := Option.some.inj about
      cases method with
      | close own =>
          obtain ⟨rfl, rfl⟩ := repeats
          simp [answer, close, ensure, Attempt.ensure, Attempt.bind_apply,
            read, closed]
      | command command =>
          obtain ⟨formed, named, same⟩ := repeats
          simp [answer, Service.command, replayed, ensure, Attempt.ensure,
            Attempt.bind_apply, formed, named, read, reserved, closed, same]
      | context => exact repeats.elim
      | place => exact repeats.elim
      | release => exact repeats.elim
      | get => exact repeats.elim
      | create => exact repeats.elim
      | unsupported => exact repeats.elim

omit [Wire] in
theorem ensure_bind_eq_ok {Value : Type} {condition : Bool} {text : String}
    {next : Unit → Service Value} {state done : State} {value : Value}
    (result : (ensure condition text >>= next) state = (.ok value, done)) :
    condition = true ∧ next () state = (.ok value, done) :=
  Attempt.ensure_bind_eq_ok_iff.mp result

omit [Wire] in
theorem checked_bind_eq_ok {Value Other : Type}
    {outcome : Except String Other} {next : Other → Service Value}
    {state done : State} {value : Value}
    (result : (checked outcome >>= next) state = (.ok value, done)) :
    ∃ other, outcome = .ok other ∧ next other state = (.ok value, done) :=
  Attempt.lift_bind_eq_ok_iff.mp result

/-- What is known when a record has been returned. -/
structure Receipt (session key : String) (request : Create ⊕ Close)
    (done : State) : Prop where
  sound : done.Sound
  holds : done.Holds fun journal => journal.session = session ∧
    match request with
    | .inl request =>
        journal.reservations[key]?.map Reservation.request = some request
    | .inr request =>
        journal.closes[key]?.map CloseRecord.request = some request

theorem create_receipt {snapshot : Snapshot} {state done : State}
    {own : Create} {record : Reservation} (opened : Opened snapshot state)
    (result : create world snapshot own state = (.ok record, done)) :
    record.request = own ∧
      Receipt snapshot.session own.requestId (.inl own) done := by
  obtain ⟨asked, sound, loaded, present, same, found⟩ :=
    (create_leads world snapshot own).ok opened result
  exact ⟨asked, sound, loaded, present, same, by rw [found, ← asked]; rfl⟩

theorem close_receipt {snapshot : Snapshot} {state done : State}
    {own : Close} {record : CloseRecord} (opened : Opened snapshot state)
    (unjoined : state.Holds fun journal => journal.joins own = false)
    (result : close world snapshot own state = (.ok record, done)) :
    record.request = own ∧
      Receipt snapshot.session own.requestId (.inr own) done := by
  have spec := @close_leads world _ snapshot own False
  have before : state.Sound ∧ state.Holds fun journal =>
      journal.session = snapshot.session ∧
        (journal.closes[own.requestId]? = none →
          (joining journal own.context.workspaceId).isSome → False) := by
    obtain ⟨loaded, present, joins⟩ := unjoined
    obtain ⟨sound, other, same, session⟩ := opened
    obtain rfl := Option.some.inj (present.symm.trans same)
    refine ⟨sound, loaded, present, session, fun fresh joining => ?_⟩
    simp [Journal.joins, fresh, joining] at joins
  rcases spec.ok before result with impossible | reached
  · exact impossible.elim
  · obtain ⟨asked, sound, loaded, present, same, found⟩ := reached
    exact ⟨asked, sound, loaded, present, same, by rw [found, ← asked]; rfl⟩

/-- A method that is not allowed is refused, whatever is recorded. -/
theorem answer_refused {snapshot : Snapshot} {method : Method} {state : State}
    (refused : method.allowed (world.enabled state.calls) = false) :
    answer world snapshot method state =
      (.error (.error "temporary workspace creation disabled"), state) := by
  cases method with
  | create own =>
      rw [Method.allowed] at refused
      simp [answer, create, enabled, ensure, Attempt.ensure, Attempt.fail,
        Attempt.bind_apply, refused]
  | command => cases refused
  | context => cases refused
  | place => cases refused
  | release => cases refused
  | get => cases refused
  | close => cases refused
  | unsupported => cases refused

/-- A command that is given again returns a record that it names. -/
theorem replayed_receipt {snapshot : Snapshot} {state done : State}
    {given : Command} {key : String} {reply : Reply}
    (opened : Opened snapshot state) (formed : given.wellFormed = true)
    (named : given.requestId = some key)
    (result : replayed given state = (.ok (some reply), done)) :
    ∃ request, reply.request? = some request ∧
      (Method.command given).Repeats key request ∧
      Receipt snapshot.session key request done := by
  obtain ⟨sound, loaded, present, same⟩ := opened
  have read := journal_of_holds ⟨loaded, present, rfl⟩
  rw [replayed, named] at result
  simp only [Attempt.bind_apply, read] at result
  cases reserved : loaded.journal.reservations[key]? with
  | some record =>
      simp only [reserved] at result
      obtain ⟨same', rest⟩ := ensure_bind_eq_ok result
      obtain ⟨returned, rfl⟩ := Prod.mk.inj rest
      obtain rfl := Option.some.inj (Except.ok.inj returned)
      exact ⟨.inl record.request, rfl, ⟨formed, named, same'⟩, sound, loaded,
        present, same, by rw [reserved]; rfl⟩
  | none =>
      simp only [reserved, Attempt.bind_apply, read] at result
      cases closed : loaded.journal.closes[key]? with
      | some record =>
          simp only [closed] at result
          obtain ⟨same', rest⟩ := ensure_bind_eq_ok result
          obtain ⟨returned, rfl⟩ := Prod.mk.inj rest
          obtain rfl := Option.some.inj (Except.ok.inj returned)
          exact ⟨.inr record.request, rfl, ⟨formed, named, same'⟩, sound, loaded,
            present, same, by rw [closed]; rfl⟩
      | none =>
          simp only [closed, Attempt.pure_apply] at result
          nomatch (Prod.mk.inj result).1

omit [Wire] in
/-- A command repeats itself in the context that it was given in. -/
theorem repeats_of_context {snapshot : Snapshot} {given : Command}
    {context : Context} {kind : CommandKind}
    (found : snapshot.context given.monitor = .ok context)
    (same : given.command = kind) : given.repeats kind context = true := by
  unfold Snapshot.context at found
  split at found
  · nomatch found
  rename_i monitor invoked
  split at found
  · nomatch found
  obtain rfl := Except.ok.inj found
  have chosen := List.find?_some invoked
  simp only [Command.repeats, same, beq_self_eq_true, Bool.true_and]
  cases name : given.monitor with
  | none => rfl
  | some name' =>
      rw [name] at chosen
      rw [Option.all_some]
      exact beq_iff_eq.mpr (beq_iff_eq.mp chosen).symm

theorem journal_unchanged : Attempt.Within Eq Service.journal :=
  fun _ => rfl

theorem replayed_unchanged (given : Command) :
    Attempt.Within Eq (replayed given) := by
  unfold replayed
  cases given.requestId with
  | none => exact Attempt.within_pure _
  | some key =>
      refine journal_unchanged.bind fun journal => ?_
      cases journal.reservations[key]? with
      | some record =>
          exact (Attempt.within_ensure _ _).bind fun _ => Attempt.within_pure _
      | none =>
          refine journal_unchanged.bind fun journal => ?_
          cases journal.closes[key]? with
          | some record =>
              exact (Attempt.within_ensure _ _).bind
                fun _ => Attempt.within_pure _
          | none => exact Attempt.within_pure _

theorem commandFresh_receipt {snapshot : Snapshot} {state done : State}
    {given : Command} {key : String} {reply : Reply}
    (opened : Opened snapshot state) (formed : given.wellFormed = true)
    (named : given.requestId = some key)
    (kind : given.command = .create ∨ given.command = .close)
    (unjoined : ∀ request,
      (Method.command given).closing? snapshot = some request →
      state.Holds fun journal => journal.joins request = false)
    (result : commandFresh world snapshot given state = (.ok reply, done)) :
    ∃ request, reply.request? = some request ∧
      (Method.command given).Repeats key request ∧
      Receipt snapshot.session key request done := by
  obtain ⟨context, found, rest⟩ := checked_bind_eq_ok result
  have keyed : commandKey world given = pure key := by
    simp only [commandKey, named]
  rw [keyed, Attempt.bind_apply, Attempt.pure_apply] at rest
  rcases kind with kind | kind
  · have repeats := repeats_of_context found kind
    simp only [kind] at rest
    obtain ⟨record, middle, created, ended⟩ := Attempt.bind_eq_ok_iff.mp rest
    obtain ⟨returned, rfl⟩ := Prod.mk.inj ended
    obtain rfl := Except.ok.inj returned
    obtain ⟨asked, receipt⟩ := create_receipt world opened created
    exact ⟨.inl ⟨key, context, .landingPad, none, "Workspace", "workspace"⟩,
      by rw [← asked]; rfl, ⟨formed, named, by simp [repeats]⟩, receipt⟩
  · have repeats := repeats_of_context found kind
    simp only [kind] at rest
    obtain ⟨record, middle, closed, ended⟩ := Attempt.bind_eq_ok_iff.mp rest
    obtain ⟨returned, rfl⟩ := Prod.mk.inj ended
    obtain rfl := Except.ok.inj returned
    have fresh := unjoined ⟨key, context⟩ (by
      simp only [Method.closing?, kind, named, found])
    obtain ⟨asked, receipt⟩ := close_receipt world opened fresh closed
    exact ⟨.inr ⟨key, context⟩, by rw [← asked]; rfl,
      ⟨formed, named, repeats⟩, receipt⟩

theorem command_receipt {snapshot : Snapshot} {state done : State}
    {given : Command} {key : String} {reply : Reply}
    (opened : Opened snapshot state)
    (named : (Method.command given).key? = some key)
    (unjoined : ∀ request,
      (Method.command given).closing? snapshot = some request →
      state.Holds fun journal => journal.joins request = false)
    (result : command world snapshot given state = (.ok reply, done)) :
    ∃ request, reply.request? = some request ∧
      (Method.command given).Repeats key request ∧
      Receipt snapshot.session key request done := by
  simp only [Method.key?] at named
  split at named
  · rename_i kind
    obtain ⟨formed, rest⟩ := ensure_bind_eq_ok result
    obtain ⟨earlier, middle, replied, ended⟩ :=
      Attempt.bind_eq_ok_iff.mp rest
    obtain rfl := (replayed_unchanged given).ok replied
    cases earlier with
    | some earlier =>
        obtain ⟨returned, rfl⟩ := Prod.mk.inj ended
        obtain rfl := Except.ok.inj returned
        exact replayed_receipt opened formed named replied
    | none =>
        exact commandFresh_receipt world opened formed named kind unjoined
          ended
  · nomatch named

/-- A create or close that has been answered with its own record. -/
theorem answer_receipt {snapshot : Snapshot} {state done : State}
    {method : Method} {key : String} {reply : Reply}
    (opened : Opened snapshot state) (named : method.key? = some key)
    (unjoined : ∀ request, method.closing? snapshot = some request →
      state.Holds fun journal => journal.joins request = false)
    (result : answer world snapshot method state = (.ok reply, done)) :
    ∃ request, reply.request? = some request ∧
      method.Repeats key request ∧
      Receipt snapshot.session key request done := by
  cases method with
  | command given => exact command_receipt world opened named unjoined result
  | create own =>
      obtain rfl := Option.some.inj named
      obtain ⟨record, middle, created, ended⟩ :=
        Attempt.bind_eq_ok_iff.mp result
      obtain ⟨returned, rfl⟩ := Prod.mk.inj ended
      obtain rfl := Except.ok.inj returned
      obtain ⟨asked, receipt⟩ := create_receipt world opened created
      exact ⟨.inl own, by rw [← asked]; rfl, ⟨rfl, rfl⟩, receipt⟩
  | close own =>
      obtain rfl := Option.some.inj named
      obtain ⟨record, middle, closed, ended⟩ :=
        Attempt.bind_eq_ok_iff.mp result
      obtain ⟨returned, rfl⟩ := Prod.mk.inj ended
      obtain rfl := Except.ok.inj returned
      obtain ⟨asked, receipt⟩ :=
        close_receipt world opened (unjoined own rfl) closed
      exact ⟨.inr own, by rw [← asked]; rfl, ⟨rfl, rfl⟩, receipt⟩
  | context => nomatch named
  | place => nomatch named
  | release => nomatch named
  | get => nomatch named
  | unsupported => nomatch named

end Service

/-! ### Opening sends nothing -/

/-- Nothing has been sent to the compositor in between. -/
def State.Silent (state after : State) : Prop :=
  ∃ events, after.trace = state.trace ++ events ∧
    ∀ expression, .executed expression ∉ events

instance : Std.Refl State.Silent :=
  ⟨fun _ => ⟨[], by simp, by simp⟩⟩

instance : IsTrans State State.Silent where
  trans := by
    rintro first second third ⟨before, same, silent⟩ ⟨after, same', silent'⟩
    refine ⟨before ++ after, by rw [same', same, List.append_assoc], ?_⟩
    intro expression member
    rcases List.mem_append.mp member with earlier | later
    · exact silent expression earlier
    · exact silent' expression later

theorem State.silent_of_trace {state after : State}
    (same : after.trace = state.trace) : state.Silent after :=
  ⟨[], by simp [same], by simp⟩

theorem Saves.silent {state after : State} (saves : Saves state after) :
    state.Silent after := by
  have wrote : ∀ (before : State) journal,
      before.Silent (before.wrote journal) :=
    fun before journal => ⟨[.saved journal.serialized], rfl, by simp⟩
  cases saves with
  | refused => exact refl_of State.Silent state
  | written => exact wrote state.called _
  | poisoned loaded written =>
      cases written with
      | false => exact State.silent_of_trace rfl
      | true => exact wrote state.called _

namespace Service

variable (world : Surroundings)

theorem perform_silent (refusal : String) :
    Attempt.Within State.Silent (perform world refusal) := by
  intro state
  rcases fate : world.fate state.calls with _ | _ | _
  all_goals
    simp only [perform, fate]
    exact State.silent_of_trace rfl

theorem reading_silent {Value : Type} (value : Nat → Value) :
    Attempt.Within State.Silent (reading value) :=
  fun _ => State.silent_of_trace rfl

theorem verify_silent (session : String) :
    Attempt.Within State.Silent (verify session) := by
  refine Attempt.within_read.bind fun seen => ?_
  exact (Attempt.within_ensure _ _).bind fun _ => Attempt.within_ensure _ _

variable [Wire]

theorem prepare_silent (session : String) :
    Attempt.Within State.Silent (prepare world session) := by
  refine Attempt.within_read.bind fun seen => ?_
  apply Attempt.Within.ite
  · have file : Attempt.Within State.Silent (readFile world session) :=
      (perform_silent world _).bind fun _ => Attempt.within_read.bind
        fun _ => Attempt.within_pure _
    have loaded : Attempt.Within State.Silent (load world session) := by
      refine file.bind fun found => ?_
      cases found with
      | none => exact Attempt.within_pure _
      | some file => exact Attempt.within_lift _ _
    refine loaded.bind fun journal => ?_
    have filled : Attempt.Within State.Silent
        (Attempt.change fun state => { state with
          loaded := some ⟨journal, false, false, ∅⟩ } : Service Unit) :=
      fun _ => State.silent_of_trace rfl
    refine filled.bind fun _ => ?_
    have saved : Attempt.Within State.Silent (save world) :=
      fun state => (save_saves world state).silent
    exact saved.bind fun _ => verify_silent session
  · exact verify_silent session

theorem opened_silent : Attempt.Within State.Silent (opened world) := by
  have read : Attempt.Within State.Silent (snapshot world) :=
    (perform_silent world _).bind fun _ => reading_silent _
  refine read.bind fun snapshot => ?_
  exact (prepare_silent world snapshot.session).bind
    fun _ => Attempt.within_pure _

end Service

/-! ### Durable receipts -/

section Durable

variable [Wire]

/-- Whether the method is a close that would be answered with the record of
another close, which is in progress. -/
def State.Joins (world : Surroundings) (state : State) (method : Method) :
    Prop :=
  ∃ snapshot opened request,
    Service.opened world state = (.ok snapshot, opened) ∧
      method.closing? snapshot = some request ∧
      opened.Holds fun journal => journal.joins request = true

/-- What is known of every state of a run. -/
structure State.Consistent (state : State) : Prop where
  durable : state.Durable
  apart : state.Satisfies Journal.Apart

theorem Changes.consistent {world : Surroundings} {state after : State}
    (changes : Changes world state after) (consistent : state.Consistent) :
    after.Consistent ∧ state.Grows after := by
  obtain ⟨durable, grows⟩ := changes.durable consistent.durable
  exact ⟨⟨durable, changes.satisfies Journal.apart_invariant
    consistent.apart⟩, grows⟩

theorem State.consistent_after (world : Surroundings) (writer : String)
    (requests : List Request) :
    (State.after world writer requests).Consistent :=
  ⟨(State.durable_run (State.durable_initial writer) requests).1,
    State.satisfies_after Journal.apart_invariant writer requests⟩

/-- An opened service has what the file had before. -/
theorem State.Consistent.requestAt {before opened : State} {session : String}
    {key : String} {request : Create ⊕ Close}
    (consistent : opened.Consistent) (apart : before.Satisfies Journal.Apart)
    (grows : before.Grows opened) (isOpen : opened.Open session)
    (recorded : (before.stored session).requestAt key = some request) :
    opened.Holds fun journal => journal.requestAt key = some request := by
  obtain ⟨loaded, present, rfl⟩ := isOpen
  have kept := (grows _).trans (consistent.durable.kept loaded present)
  exact ⟨loaded, present, kept.requestAt (apart.stored _)
    (consistent.apart.loaded loaded present) recorded⟩

/-- A receipt is in the file. -/
theorem Service.Receipt.stored {session key : String}
    {request : Create ⊕ Close} {done : State}
    (receipt : Receipt session key request done)
    (consistent : done.Consistent) :
    (done.stored session).requestAt key = some request := by
  obtain ⟨⟨loaded, present, unpoisoned⟩, other, same, inSession, recorded⟩ :=
    receipt
  obtain rfl := Option.some.inj (present.symm.trans same)
  have apart := consistent.apart.loaded loaded present
  have written := consistent.durable.written loaded present unpoisoned
  have found : loaded.journal.requestAt key = some request := by
    cases request with
    | inl request => exact Journal.requestAt_eq_inl_iff.mpr recorded
    | inr request => exact apart.requestAt_eq_inr_iff.mpr recorded
  rw [inSession] at written
  exact written.requestAt apart (consistent.apart.stored session) found

theorem Service.call_of_opened {world : Surroundings} {method : Method}
    {state opened : State} {snapshot : Snapshot}
    (began : Service.opened world state = (.ok snapshot, opened)) :
    call world method state = answer world snapshot method opened := by
  rw [call, Attempt.bind_apply, began]

/-- A create or close that has been answered with its own record is found
under its key in every later state of the run, and sending it again returns
what is recorded and sends nothing to the compositor. -/
theorem Service.receipts_durable (world : Surroundings) (writer : String)
    (earlier later : List Request) (method : Method) (key : String)
    (reply : Reply) (done : State) (first snapshot : Snapshot)
    (before opened : State) (named : method.key? = some key)
    (began : Service.opened world (State.after world writer earlier) =
      (.ok first, before))
    (answered : call world method (State.after world writer earlier) =
      (.ok reply, done))
    (unjoined : ¬ (State.after world writer earlier).Joins world method)
    (again : Service.opened world
        (State.after world writer (earlier ++ .call method :: later)) =
      (.ok snapshot, opened))
    (same : snapshot.session = first.session) :
    ∃ record, record.request? = reply.request? ∧
      call world (.get ⟨snapshot.session, key⟩)
          (State.after world writer (earlier ++ .call method :: later)) =
        (.ok record, opened) ∧
      call world method
          (State.after world writer (earlier ++ .call method :: later)) =
        (if method.allowed (world.enabled opened.calls) then .ok record
          else .error (.error "temporary workspace creation disabled"),
          opened) ∧
      (State.after world writer (earlier ++ .call method :: later)).Silent
        opened := by
  have start := State.consistent_after world writer earlier
  have ready : Opened first before := (opened_leads world).ok trivial began
  have fresh : ∀ request, method.closing? first = some request →
      before.Holds fun journal => journal.joins request = false := by
    intro request asked
    obtain ⟨loaded, present, -⟩ := ready.2
    refine ⟨loaded, present, Bool.eq_false_iff.mpr fun joins => ?_⟩
    exact unjoined ⟨first, before, request, began, asked, loaded, present,
      joins⟩
  have result := answered
  rw [call_of_opened began] at result
  obtain ⟨request, about, repeats, receipt⟩ :=
    answer_receipt world ready named fresh result
  -- The receipt is in the file when the method returns.
  have changes : Changes world (State.after world writer earlier) done := by
    have within := call_within world method (State.after world writer earlier)
    rwa [answered] at within
  have settled := (changes.consistent start).1
  have stored := receipt.stored settled
  -- It stays there during the rest of the run.
  have ended : State.after world writer (earlier ++ .call method :: later) =
      TransitionRuns.run (State.step world) done later := by
    rw [State.after, TransitionRuns.run_append, TransitionRuns.run_cons]
    congr 1
    have stepped : State.step world (State.after world writer earlier)
        (.call method) = done := by
      rw [State.step, answered]
      rfl
    exact stepped
  have consistent :
      (State.after world writer (earlier ++ .call method :: later)).Consistent :=
    State.consistent_after world writer _
  have grown : done.Grows
      (State.after world writer (earlier ++ .call method :: later)) := by
    rw [ended]
    exact (State.durable_run settled.durable later).2
  have reopened : Changes world
      (State.after world writer (earlier ++ .call method :: later)) opened := by
    have respects : ∀ state,
        Changes world state (Service.opened world state).2 :=
      fun _ => (opened_leads world).respects trivial
    have reached := respects
      (State.after world writer (earlier ++ .call method :: later))
    rwa [again] at reached
  obtain ⟨last, rest⟩ := reopened.consistent consistent
  have ready' : Opened snapshot opened := (opened_leads world).ok trivial again
  rw [← same] at stored
  have known := last.requestAt settled.apart
    (fun session => (grown session).trans (rest session)) ready'.2 stored
  -- So the later requests find it and stop there.
  obtain ⟨loaded, present, recorded⟩ := known
  obtain ⟨record, found, asked⟩ := Journal.replyAt_of_requestAt recorded
  have silent := opened_silent world
    (State.after world writer (earlier ++ .call method :: later))
  rw [again] at silent
  refine ⟨record, asked.trans about.symm, ?_, ?_, silent⟩
  · rw [call_of_opened again]
    exact get_found ⟨loaded, present, rfl⟩ found
  · rw [call_of_opened again]
    cases allowed : method.allowed (world.enabled opened.calls) with
    | false => exact answer_refused world allowed
    | true =>
        exact answer_again world ⟨loaded, present, rfl⟩ found asked repeats
          allowed

end Durable

/-! ### A close that joins another -/

/-- A compositor with one window on workspace 3, where everything succeeds. -/
def oneWindow : Surroundings where
  fate _ := .answered
  writing _ := .written
  snapshot _ := ⟨"session", [⟨"eDP-1", true, some 3⟩], [⟨some 3, "eDP-1"⟩],
    [⟨"0x1", 10, true, some 3, "editor", "editor"⟩]⟩
  pinned _ := .present
  icons _ _ _ := none
  processStart _ _ := some 1
  epoch _ := "epoch"
  instant call := call
  encodable _ := true
  enabled _ := true

@[reducible]
def plainWire : Wire :=
  ⟨1, 2147483647, fun _ => true⟩

def closeThird (key : String) : Method :=
  .close ⟨key, "session", "eDP-1", 3⟩

section Plain

attribute [local instance] plainWire

theorem closeThird_unjoined :
    ¬ (State.after oneWindow "writer" []).Joins oneWindow
      (closeThird "first") := by
  rintro ⟨snapshot, opened, request, began, asked, loaded, present, joins⟩
  obtain rfl := Option.some.inj asked
  have free : ((Service.opened oneWindow
      (State.after oneWindow "writer" [])).2.loaded.all fun loaded =>
        !loaded.journal.joins ⟨"first", "session", "eDP-1", 3⟩) = true := by
    decide +kernel
  rw [began, present] at free
  simp [joins] at free

/-- Closing the workspace once leaves a record that is found again, and that is
returned when the close is sent again. -/
theorem Service.receipts_durable_once :
    ∃ record done,
      record.request? = some (.inr ⟨"first", "session", "eDP-1", 3⟩) ∧
        call oneWindow (.get ⟨"session", "first"⟩)
          (State.after oneWindow "writer" [.call (closeThird "first")]) =
            (.ok record, done) ∧
          call oneWindow (closeThird "first")
            (State.after oneWindow "writer" [.call (closeThird "first")]) =
              (.ok record, done) := by
  have succeeds : ((call oneWindow (closeThird "first")
      (State.after oneWindow "writer" [])).1.toOption.bind Reply.request?) =
        some (.inr ⟨"first", "session", "eDP-1", 3⟩) := by
    decide +kernel
  obtain ⟨reply, answered, about⟩ := Option.bind_eq_some_iff.mp succeeds
  have returned : (call oneWindow (closeThird "first")
      (State.after oneWindow "writer" [])).1 = .ok reply := by
    cases outcome : (call oneWindow (closeThird "first")
      (State.after oneWindow "writer" [])).1 with
    | ok value => simp_all [Except.toOption]
    | error failure => simp_all [Except.toOption]
  obtain ⟨record, asked, found, sent, -⟩ :=
    receipts_durable oneWindow "writer" [] []
    (closeThird "first") "first" reply _ (oneWindow.snapshot 0)
    (oneWindow.snapshot 0) _ _ rfl
    (Attempt.eq_of_fst_eq_ok (by decide +kernel))
    (Attempt.eq_of_fst_eq_ok returned) closeThird_unjoined
    (Attempt.eq_of_fst_eq_ok (by decide +kernel)) rfl
  exact ⟨record, _, asked.trans about, found, sent⟩

def launched : Method :=
  .create ⟨"first", ⟨"session", "eDP-1", 3⟩, .launch, none, "editor", "editor"⟩

/-- The variable is set to 0 before the daemon is started again. -/
def turnedOff : Surroundings :=
  { oneWindow with enabled := fun call => call < 7 }

/-- Closing the workspace again under another key succeeds and leaves no record,
and a create is refused under its own key once it is turned off. -/
theorem Service.receipts_lost :
    ((call oneWindow (closeThird "second")
        (State.after oneWindow "writer" [.call (closeThird "first")])).1.isOk =
          true ∧
      (call oneWindow (.get ⟨"session", "second"⟩)
        (State.after oneWindow "writer" [.call (closeThird "first"),
          .call (closeThird "second")])).1 =
            .error (.error "workspace operation not found")) ∧
      (call turnedOff launched (State.after turnedOff "writer" [])).1.isOk =
          true ∧
        (call turnedOff launched
          (State.after turnedOff "writer" [.call launched, .restart])).1 =
            .error (.error "temporary workspace creation disabled") := by
  decide +kernel

end Plain

end BarDaemon.Workspaces
