import BarDaemon.NotificationReadBack

/-!
# Ownership of stored rows

Every operation of the notification store leaves tables of some archive, or
none of its changes, or a fenced store.  Reading them can therefore not meet a
row without its owner.
-/

namespace BarDaemon.Notifications

open Attempt FallibleSteps RelationalRows Std

variable {lookups : Lookups} {icons : IconRegistry}

/-- A notification and the key it has been saved under. -/
structure Watch where
  key : Nat
  icons : IconRegistry
  item : ActiveNotification

/-- The tables of an archive in which no other notification has the key of
the watched one. -/
def Tracks (lookups : Lookups) (watch : Option Watch)
    (tables : NotificationTables) : Prop :=
  ∃ archive, Represents lookups archive tables ∧
    ∀ watched ∈ watch, watched.key ≤ tables.sequence ∧
      ∀ kept, archive watched.key = some kept →
        kept.icons = watched.icons ∧ kept.item = watched.item

/-- A notification of another session than the watched one. -/
def Spares (watch : Option Watch) (item : ActiveNotification) : Prop :=
  ∀ watched ∈ watch, item.id ≠ watched.item.id

namespace Tracks

variable {watch : Option Watch} {tables : NotificationTables}

theorem remember (tracks : Tracks lookups watch tables) (id : Nat) :
    Tracks lookups watch (tables.remembering id) := by
  obtain ⟨archive, represents, watched⟩ := tracks
  exact ⟨archive, represents.remember id, watched⟩

theorem delete (tracks : Tracks lookups watch tables)
    (predicate : NotificationTable → Nat → Row → Bool) :
    Tracks lookups watch (tables.deleted predicate) := by
  obtain ⟨archive, represents, watched⟩ := tracks
  refine ⟨_, represents.delete predicate, ?_⟩
  intro watch member
  obtain ⟨below, same⟩ := watched watch member
  refine ⟨below, ?_⟩
  intro kept found
  exact same kept (Archive.without_eq_some found).2

/-- A key is used again only for the session that has used it. -/
theorem save (tracks : Tracks lookups watch tables)
    {item : ActiveNotification} (spares : Spares watch item) {id : Nat}
    {row : Row} (saved : Saved lookups item tables id row) :
    Tracks lookups watch ((tables.withContent id row).withChildren lookups
      icons id item) := by
  obtain ⟨archive, represents, watched⟩ := tracks
  refine ⟨_, represents.save saved, ?_⟩
  intro watch member
  obtain ⟨below, same⟩ := watched watch member
  have different : watch.key ≠ id := by
    rintro rfl
    obtain ⟨old, listed, opened⟩ | ⟨-, fresh⟩ := saved.place
    · obtain ⟨kept, found, holds⟩ := represents.row listed
      apply spares watch member
      rw [← (same kept found).2]
      exact ((holds.isOpenFor_eq item.id).mp opened).1.symm
    · omega
  refine ⟨Nat.le_trans below (Nat.le_max_left ..), ?_⟩
  intro kept found
  rw [Archive.store_of_ne archive different] at found
  exact same kept found

variable {connection after : Connection}

theorem closeInner (tracks : Tracks lookups watch connection.tables)
    {session : Option Nat} {closed reason : Nat} {value : Unit}
    (done : closeInner session closed reason connection =
      (.ok value, after)) : Tracks lookups watch after.tables := by
  obtain ⟨archive, represents, watched⟩ := tracks
  obtain ⟨checked, tables⟩ := closeInner_ok done
  rw [tables]
  refine ⟨_, represents.close checked, ?_⟩
  intro watch member
  obtain ⟨below, same⟩ := watched watch member
  refine ⟨below, ?_⟩
  intro kept found
  obtain ⟨earlier, present, rfl⟩ := Option.map_eq_some_iff.mp found
  rw [KeptNotification.close_icons, KeptNotification.close_item]
  exact same earlier present

theorem saveInner (tracks : Tracks lookups watch connection.tables)
    {item : ActiveNotification} (spares : Spares watch item) {value : Unit}
    (done : saveInner lookups icons item connection = (.ok value, after)) :
    Tracks lookups watch after.tables := by
  have remembered := tracks.remember item.id
  obtain ⟨-, tables⟩ | ⟨-, id, row, saved, tables⟩ := saveInner_ok done
  · rw [tables]
    exact remembered.delete _
  · rw [tables]
    exact remembered.save spares saved

theorem pruneInner (tracks : Tracks lookups watch connection.tables)
    {now count : Nat}
    (done : pruneInner now connection = (.ok count, after)) :
    Tracks lookups watch after.tables := by
  obtain ⟨cutoff, tables⟩ := pruneInner_ok done
  rw [tables]
  exact tracks.delete _

theorem deletePositions {chunks : List (List Position)} {value : Unit}
    (tracks : Tracks lookups watch connection.tables)
    (done : deletePositions chunks connection = (.ok value, after)) :
    Tracks lookups watch after.tables := by
  induction chunks generalizing connection with
  | nil =>
      cases done
      exact tracks
  | cons chunk chunks ih =>
      obtain ⟨_, checked, lifted, rest⟩ := Attempt.bind_eq_ok_iff.mp done
      obtain ⟨_, deleted, first, rest⟩ := Attempt.bind_eq_ok_iff.mp rest
      obtain ⟨-, rfl⟩ := lift_ok lifted
      apply ih _ rest
      rw [deleteWhere_ok first]
      exact tracks.delete _

theorem sweepOnce (tracks : Tracks lookups watch connection.tables)
    {item : ActiveNotification} {now : Nat} {value : Unit}
    (done : sweepOnce item now connection = (.ok value, after)) :
    Tracks lookups watch after.tables := by
  unfold Notifications.sweepOnce at done
  rw [lift_bind_eq_ok_iff] at done
  obtain ⟨horizon, -, rest⟩ := done
  obtain ⟨_, second, swept, rest⟩ := Attempt.bind_eq_ok_iff.mp rest
  obtain ⟨_, last, pruned, rest⟩ := Attempt.bind_eq_ok_iff.mp rest
  cases rest
  have cleaned : Tracks lookups watch second.tables := by
    rw [update_ok swept]
    obtain ⟨archive, represents, watched⟩ := tracks
    exact ⟨archive, { represents with }, watched⟩
  exact cleaned.pruneInner pruned

theorem saveOnce (tracks : Tracks lookups watch connection.tables)
    {key : String} {item : ActiveNotification} (spares : Spares watch item)
    {now : Nat} {inserted : Bool}
    (done : saveOnce lookups icons key item now connection =
      (.ok inserted, after)) : Tracks lookups watch after.tables := by
  obtain ⟨created, first, lifted, rest⟩ := Attempt.bind_eq_ok_iff.mp done
  obtain ⟨fresh, second, noted, rest⟩ := Attempt.bind_eq_ok_iff.mp rest
  obtain ⟨-, rfl⟩ := lift_ok lifted
  have kept : Tracks lookups watch second.tables := by
    have tables := execute_ok noted
    simp only [Except.ok.injEq, Prod.mk.injEq] at tables
    rw [← tables.2]
    obtain ⟨archive, represents, watched⟩ := tracks
    exact ⟨archive, { represents with }, watched⟩
  split at rest
  · obtain ⟨_, third, saved, rest⟩ := Attempt.bind_eq_ok_iff.mp rest
    obtain ⟨_, fourth, swept, rest⟩ := Attempt.bind_eq_ok_iff.mp rest
    cases rest
    exact (kept.saveInner spares saved).sweepOnce swept
  · obtain ⟨_, third, swept, rest⟩ := Attempt.bind_eq_ok_iff.mp rest
    cases rest
    exact kept.sweepOnce swept

end Tracks

/-! ### Transactions -/

namespace NotificationDatabase

/-- What a transaction can end in. -/
inductive Transacted {Value : Type} (database : NotificationDatabase)
    (treatment : Treatment) (body : Attempt Connection String Value) :
    Except String Value × NotificationDatabase → Prop
  | refused (error : String) :
      Transacted database treatment body (.error error, database)
  | committed (value : Value) (connection : Connection)
      (open_ : database.blocked = false)
      (ran : body ⟨database.tables, treatment.faults⟩ =
        (.ok value, connection)) :
      Transacted database treatment body
        (.ok value, { database with durable := connection.tables })
  | fenced (value : Value) (connection : Connection)
      (open_ : database.blocked = false)
      (ran : body ⟨database.tables, treatment.faults⟩ =
        (.ok value, connection))
      (error : String) (after : NotificationDatabase)
      (durable : after.durable = connection.tables)
      (blocked : after.blocked = true) :
      Transacted database treatment body (.error error, after)
  | rolledBack (error : String) (after : NotificationDatabase)
      (durable : after.durable = database.durable)
      (ended : after.blocked = true ∨
        after = { database with working := none }) :
      Transacted database treatment body (.error error, after)

variable {database : NotificationDatabase} {treatment : Treatment}

theorem rollback_cases (database : NotificationDatabase)
    (treatment : Treatment) :
    (database.rollback treatment).durable = database.durable ∧
      ((database.rollback treatment).blocked = true ∨
        database.rollback treatment = { database with working := none }) := by
  unfold rollback
  split
  · exact ⟨rfl, .inr rfl⟩
  · exact ⟨rfl, .inl rfl⟩

theorem settle_error {Value : Type} (database : NotificationDatabase)
    (treatment : Treatment) (first : String) :
    ∃ error after,
      database.settle treatment (.error first : Except String Value) =
        (.error error, after) ∧
      after.durable = database.durable ∧
      (after.blocked = true ∨ after = database) := by
  unfold settle
  split
  · exact ⟨_, _, rfl, rfl, .inl rfl⟩
  · exact ⟨_, _, rfl, rfl, .inr rfl⟩

theorem transact_cases {Value : Type} (database : NotificationDatabase)
    (treatment : Treatment) (body : Attempt Connection String Value) :
    Transacted database treatment body (database.transact treatment body) := by
  unfold transact
  split
  · exact .refused _
  · rename_i running
    split
    · exact .refused _
    · cases outcome : body ⟨database.tables, treatment.faults⟩ with
      | mk result connection =>
          unfold finish
          cases result with
          | error first =>
              -- the body has failed
              obtain ⟨durable, ended⟩ := rollback_cases
                { database with working := some connection.tables } treatment
              obtain ⟨error, after, settled, same, fenced⟩ := @settle_error Value
                ({ database with
                  working := some connection.tables }.rollback treatment)
                treatment first
              have kept : after.durable = database.durable :=
                same.trans durable
              dsimp only
              rw [settled]
              apply Transacted.rolledBack error after kept
              rcases fenced with blocked | rfl
              · exact .inl blocked
              · exact ended
          | ok value =>
              dsimp only
              split
              · unfold settle
                split
                · exact .fenced value connection
                    (eq_false_of_ne_true running) outcome _ _ rfl rfl
                · exact .committed value connection
                    (eq_false_of_ne_true running) outcome
              · -- the commit is durable and has been reported as failed
                obtain ⟨error, after, settled, same, fenced⟩ := @settle_error Value
                  { database with
                    durable := connection.tables
                    blocked := true } treatment _
                rw [settled]
                apply Transacted.fenced value connection
                  (eq_false_of_ne_true running) outcome error after same
                rcases fenced with blocked | rfl
                · exact blocked
                · rfl
              · obtain ⟨durable, ended⟩ := rollback_cases
                  { database with
                    working := some connection.tables
                    blocked := true } treatment
                obtain ⟨error, after, settled, same, fenced⟩ := @settle_error Value
                  ({ database with
                    working := some connection.tables
                    blocked := true }.rollback treatment) treatment _
                have kept : after.durable = database.durable :=
                  same.trans durable
                rw [settled]
                apply Transacted.rolledBack error after kept
                rcases fenced with blocked | rfl
                · exact .inl blocked
                · rcases ended with blocked | equal
                  · exact .inl blocked
                  · rw [equal]
                    exact .inl rfl

/-- Nothing is pending in a store that is not fenced. -/
def Idle (database : NotificationDatabase) : Prop :=
  database.blocked = false → database.working = none

theorem Idle.tables (idle : Idle database)
    (running : database.blocked = false) :
    database.tables = database.durable := by
  unfold NotificationDatabase.tables
  rw [idle running, Option.getD_none]

/-- What a transaction whose body keeps a property of the tables leaves. -/
theorem transact_keeps {good : NotificationTables → Prop} {Value : Type}
    {body : Attempt Connection String Value} (idle : Idle database)
    (holds : good database.durable)
    (keeps : ∀ {value connection after}, good connection.tables →
      body connection = (.ok value, after) → good after.tables) :
    good (database.transact treatment body).2.durable ∧
      Idle (database.transact treatment body).2 := by
  have ends := transact_cases database treatment body
  generalize database.transact treatment body = outcome at ends ⊢
  cases ends with
  | refused error => exact ⟨holds, idle⟩
  | committed value connection open_ ran =>
      rw [idle.tables open_] at ran
      exact ⟨keeps holds ran, fun _ => idle open_⟩
  | fenced value connection open_ ran error after durable blocked =>
      rw [idle.tables open_] at ran
      refine ⟨durable ▸ keeps holds ran, ?_⟩
      intro running
      rw [blocked] at running
      cases running
  | rolledBack error after durable ended =>
      refine ⟨durable ▸ holds, ?_⟩
      intro running
      rcases ended with blocked | rfl
      · rw [blocked] at running
        cases running
      · rfl

/-- A transaction that fails changes nothing or leaves a fenced store. -/
theorem transact_error {Value : Type}
    {body : Attempt Connection String Value} {error : String}
    (idle : Idle database)
    (failed : (database.transact treatment body).1 = .error error) :
    (database.transact treatment body).2.blocked = true ∨
      (database.transact treatment body).2.tables = database.tables := by
  have ends := transact_cases database treatment body
  generalize database.transact treatment body = outcome at ends failed ⊢
  cases ends with
  | refused error => exact .inr rfl
  | committed value connection open_ ran => cases failed
  | fenced value connection open_ ran error after durable blocked =>
      exact .inl blocked
  | rolledBack error after durable ended =>
      rcases ended with blocked | rfl
      · exact .inl blocked
      · cases running : database.blocked with
        | true => exact .inl rfl
        | false => exact .inr (idle.tables running).symm

end NotificationDatabase

/-! ### Operations -/

/-- The notification that an operation saves. -/
def StoreOperation.saved : StoreOperation → Option ActiveNotification
  | .save item => some item
  | .saveOnce _ item _ => some item
  | _ => none

/-- An operation that saves nothing for the session of the watched
notification. -/
def StoreOperation.Spares (operation : StoreOperation)
    (watch : Option Watch) : Prop :=
  ∀ item ∈ operation.saved, Notifications.Spares watch item

/-- An operation, with the icons that are known then and what the engine does
with its transaction. -/
structure StoreRequest where
  icons : IconRegistry
  treatment : Treatment
  operation : StoreOperation

namespace NotificationDatabase

def step (lookups : Lookups) (database : NotificationDatabase)
    (request : StoreRequest) : NotificationDatabase :=
  (database.perform lookups request.icons request.treatment
    request.operation).2

/-- The store after some operations on an empty database. -/
def run (lookups : Lookups) (requests : List StoreRequest) : NotificationDatabase :=
  requests.foldl (step lookups) {}

/-- The durable tables are those of an archive. -/
structure Sound (lookups : Lookups) (watch : Option Watch)
    (database : NotificationDatabase) : Prop where
  durable : Tracks lookups watch database.durable
  idle : Idle database

variable {database : NotificationDatabase} {watch : Option Watch}

theorem Sound.transact (sound : Sound lookups watch database)
    {treatment : Treatment} {Value : Type}
    {body : Attempt Connection String Value}
    (keeps : ∀ {value connection after},
      Tracks lookups watch connection.tables →
      body connection = (.ok value, after) →
      Tracks lookups watch after.tables) :
    Sound lookups watch (database.transact treatment body).2 := by
  obtain ⟨durable, idle⟩ := transact_keeps sound.idle sound.durable keeps
  exact ⟨durable, idle⟩

theorem Sound.step (sound : Sound lookups watch database)
    {request : StoreRequest} (spares : request.operation.Spares watch) :
    Sound lookups watch (database.step lookups request) := by
  obtain ⟨icons, treatment, operation⟩ := request
  cases operation with
  | save item =>
      exact sound.transact fun tracks done => tracks.saveInner (spares item rfl) done
  | close session closed reason =>
      exact sound.transact fun tracks done => tracks.closeInner done
  | clear closed reason =>
      exact sound.transact fun tracks done => tracks.closeInner done
  | delete positions =>
      exact sound.transact fun tracks done => tracks.deletePositions done
  | prune now =>
      apply sound.transact
      intro value connection after tracks done
      obtain ⟨count, last, pruned, rest⟩ := Attempt.bind_eq_ok_iff.mp done
      cases rest
      exact tracks.pruneInner pruned
  | saveOnce key item now =>
      apply sound.transact
      intro value connection after tracks done
      obtain ⟨inserted, last, saved, rest⟩ := Attempt.bind_eq_ok_iff.mp done
      cases rest
      exact tracks.saveOnce (spares item rfl) saved
  | setHistoryDays days now =>
      apply sound.transact
      intro value connection after tracks done
      obtain ⟨_, middle, updated, rest⟩ := Attempt.bind_eq_ok_iff.mp done
      obtain ⟨count, last, pruned, rest⟩ := Attempt.bind_eq_ok_iff.mp rest
      cases rest
      apply Tracks.pruneInner _ pruned
      rw [update_ok updated]
      obtain ⟨archive, represents, watched⟩ := tracks
      exact ⟨archive, { represents with }, watched⟩
  | restart => exact ⟨sound.durable, fun _ => rfl⟩

theorem Sound.steps (sound : Sound lookups watch database)
    {requests : List StoreRequest}
    (spares : ∀ request ∈ requests, request.operation.Spares watch) :
    Sound lookups watch (requests.foldl (NotificationDatabase.step lookups)
      database) := by
  induction requests generalizing database with
  | nil => exact sound
  | cons request requests ih =>
      apply ih (sound.step (spares request (List.mem_cons_self ..)))
      intro other member
      exact spares other (List.mem_cons_of_mem _ member)

theorem sound_run (lookups : Lookups) (requests : List StoreRequest) :
    Sound lookups none (run lookups requests) := by
  apply Sound.steps
  · exact ⟨⟨_, .empty lookups, fun _ never => nomatch never⟩, fun _ => rfl⟩
  · exact fun _ _ _ _ _ never => nomatch never

theorem perform_error {icons : IconRegistry} {treatment : Treatment}
    {operation : StoreOperation} {error : String} (idle : Idle database)
    (failed : (database.perform lookups icons treatment operation).1 =
      .error error) :
    (database.perform lookups icons treatment operation).2.blocked = true ∨
      (database.perform lookups icons treatment operation).2.tables =
        database.tables := by
  cases operation with
  | restart => cases failed
  | _ => exact transact_error idle failed

end NotificationDatabase

/-! ### Owned rows -/

/-- Child rows and previews belong to notifications, which have all of them;
a session has one open row at most. -/
structure Owned (tables : NotificationTables) : Prop where
  actions : ∀ row ∈ tables.actions, row.owner ∈ tables.notifications
  contextActions : ∀ row ∈ tables.contextActions,
    row.owner ∈ tables.notifications
  /-- The preview table has one row for a key at most. -/
  previews : ∀ id, id ∈ tables.previews ↔ id ∈ tables.notifications
  actionNumbers : ChildRow.Numbered tables.actions
  contextNumbers : ChildRow.Numbered tables.contextActions
  alone : ∀ (session first second : Nat) (row other : Row),
    tables.notifications[first]? = some row →
    tables.notifications[second]? = some other →
    isOpenFor session row = true → isOpenFor session other = true →
    first = second

theorem Represents.owned {archive : Archive} {tables : NotificationTables}
    (represents : Represents lookups archive tables) : Owned tables where
  actions := by
    intro row member
    have own : row ∈ ChildRow.ofOwner tables.actions row.owner :=
      List.mem_filter.mpr ⟨member, decide_eq_true rfl⟩
    rw [represents.actions, Archive.actions] at own
    rw [represents.mem_iff]
    cases found : archive row.owner with
    | none =>
        rw [found] at own
        cases own
    | some kept => rfl
  contextActions := by
    intro row member
    have own : row ∈ ChildRow.ofOwner tables.contextActions row.owner :=
      List.mem_filter.mpr ⟨member, decide_eq_true rfl⟩
    rw [represents.contextActions, Archive.contextActions] at own
    rw [represents.mem_iff]
    cases found : archive row.owner with
    | none =>
        rw [found] at own
        cases own
    | some kept => rfl
  previews := by
    intro id
    rw [represents.mem_iff, ExtTreeMap.mem_iff_isSome_getElem?,
      represents.previews, Option.isSome_map]
  actionNumbers := fun owner => ⟨_, represents.actions owner⟩
  contextNumbers := fun owner => ⟨_, represents.contextActions owner⟩
  alone := by
    intro session first second row other left right leftOpen rightOpen
    obtain ⟨kept, leftKept, leftHolds⟩ := represents.row left
    obtain ⟨late, rightKept, rightHolds⟩ := represents.row right
    have leftSession := (leftHolds.isOpenFor_eq session).mp leftOpen
    have rightSession := (rightHolds.isOpenFor_eq session).mp rightOpen
    exact represents.alone first second kept late leftKept rightKept
      leftSession.2 rightSession.2 (leftSession.1.trans rightSession.1.symm)

namespace NotificationDatabase

variable {database : NotificationDatabase}

theorem Sound.candidates (sound : Sound lookups none database)
    (query : String) :
    database.candidates query ≠ .error previewMissing := by
  unfold NotificationDatabase.candidates
  split
  · intro same
    exact absurd (Except.error.inj same) (by decide)
  · rename_i running
    obtain ⟨archive, represents, -⟩ := sound.durable
    rw [sound.idle.tables (eq_false_of_ne_true running),
      represents.readCandidates]
    exact fun never => nomatch never

theorem Sound.records (sound : Sound lookups none database)
    (ids : List Nat) :
    database.records ids ≠ .error orphanAction ∧
      database.records ids ≠ .error orphanContextAction := by
  have allowed : ∀ error, database.records ids = .error error →
      error = NotificationStore.fenced ∨ error = notRetained ∨
        error = History.byteLimitError := by
    intro error refused
    unfold NotificationDatabase.records at refused
    split at refused
    · exact .inl (Except.error.inj refused).symm
    · rename_i running
      obtain ⟨archive, represents, -⟩ := sound.durable
      rw [sound.idle.tables (eq_false_of_ne_true running)] at refused
      exact .inr (represents.records_error refused)
  constructor
  · intro refused
    exact absurd (allowed _ refused) (by decide)
  · intro refused
    exact absurd (allowed _ refused) (by decide)

/-- After any operations on an empty database, whichever statements and
transactions fail, every child row has its notification and every notification
its preview and its numbered actions, one row of a session is open at most, an
operation that fails changes nothing or fences the store, and reading meets no
orphan and misses no preview. -/
theorem children_owned (lookups : Lookups) (requests : List StoreRequest) :
    Owned (run lookups requests).durable ∧
    ((run lookups requests).blocked = false →
      (run lookups requests).tables = (run lookups requests).durable) ∧
    (∀ (request : StoreRequest) (error : String),
      ((run lookups requests).perform lookups request.icons request.treatment
        request.operation).1 = .error error →
      (run lookups (requests ++ [request])).blocked = true ∨
        (run lookups (requests ++ [request])).tables =
          (run lookups requests).tables) ∧
    (∀ query, (run lookups requests).candidates query ≠
      .error previewMissing) ∧
    ∀ ids, (run lookups requests).records ids ≠ .error orphanAction ∧
      (run lookups requests).records ids ≠ .error orphanContextAction := by
  have sound := sound_run lookups requests
  obtain ⟨archive, represents, -⟩ := sound.durable
  refine ⟨represents.owned, sound.idle.tables, ?_, sound.candidates,
    sound.records⟩
  intro request error failed
  have next : run lookups (requests ++ [request]) =
      (run lookups requests).step lookups request :=
    List.foldl_append ..
  rw [next]
  exact perform_error sound.idle failed

end NotificationDatabase

end BarDaemon.Notifications
