import BarDaemon.AgendaCopies
import BarDaemon.TransitionRuns

/-!
# What the agenda service keeps

The copy of the service is what the store holds, or the store takes no more
changes and the copy lacks at most the last one.
-/

namespace BarDaemon.AgendaService

open Agendas Agendas.Store Attempt

/-! ## The invariant -/

/-- The store takes no changes until the process is started again. -/
def World.Stopped (world : World) : Prop :=
  world.service.worker = .closed ∨ world.disk.blocked = true

/-- The catalog is of the copy and the imports, or of earlier ones. -/
def CachedCatalog.Serves (lib : Libraries) (cached : CachedCatalog)
    (service : Service) : Prop :=
  ∃ snapshot, service.snapshot = some snapshot ∧
    cached.revision ≤ snapshot.catalogRevision ∧
      cached.importRevision ≤ service.importRevision ∧
        (cached.revision = snapshot.catalogRevision →
          cached.importRevision = service.importRevision →
            buildCatalog lib snapshot service.events cached.today
              cached.timezone = .ok (cached.catalog, cached.imports))

structure Coherent (lib : Libraries) (world : World) : Prop where
  ids : (world.disk.items.map ItemRow.id).Nodup
  requests : (world.disk.receipts.map Receipt.requestId).Nodup
  sound : world.service.worker ≠ .missing → world.disk.Sound lib.calendar
  readable : world.service.worker ≠ .missing → world.service.todoError = none
  copied : world.service.worker ≠ .missing → world.service.snapshot.isSome
  missing : world.service.worker = .missing → world.service.snapshot = none
  distinct : ∀ snapshot, world.service.snapshot = some snapshot →
    snapshot.Distinct
  copy : ∀ snapshot, world.service.snapshot = some snapshot →
    Current snapshot world.disk ∨
      (world.Stopped ∧ Behind snapshot world.disk)
  cached : ∀ cached, world.service.agendaCatalog = some cached →
    cached.Serves lib world.service

variable {lib : Libraries}

theorem Coherent.current {world : World} (coherent : Coherent lib world)
    (running : world.service.worker = .running)
    (unblocked : world.disk.blocked = false) {snapshot : Snapshot}
    (copied : world.service.snapshot = some snapshot) :
    Current snapshot world.disk := by
  rcases coherent.copy snapshot copied with current | ⟨stopped, _⟩
  · exact current
  · rcases stopped with closed | blocked
    · rw [running] at closed
      cases closed
    · rw [unblocked] at blocked
      cases blocked

theorem Coherent.behind {world : World} (coherent : Coherent lib world)
    {snapshot : Snapshot} (copied : world.service.snapshot = some snapshot) :
    Behind snapshot world.disk :=
  (coherent.copy snapshot copied).elim Current.behind And.right

/-- The rest of the service does not matter. -/
theorem Coherent.congr {world other : World} (coherent : Coherent lib world)
    (disk : other.disk = world.disk)
    (worker : other.service.worker = world.service.worker)
    (snapshot : other.service.snapshot = world.service.snapshot)
    (todoError : other.service.todoError = world.service.todoError)
    (events : other.service.eventsBySource = world.service.eventsBySource)
    (importRevision :
      other.service.importRevision = world.service.importRevision)
    (catalog : other.service.agendaCatalog = world.service.agendaCatalog) :
    Coherent lib other where
  ids := by rw [disk]; exact coherent.ids
  requests := by rw [disk]; exact coherent.requests
  sound := by rw [disk, worker]; exact coherent.sound
  readable := by rw [worker, todoError]; exact coherent.readable
  copied := by rw [worker, snapshot]; exact coherent.copied
  missing := by rw [worker, snapshot]; exact coherent.missing
  distinct := by rw [snapshot]; exact coherent.distinct
  copy := by
    rw [snapshot, disk, World.Stopped, worker, disk]
    exact coherent.copy
  cached := by
    rw [catalog]
    intro cached shown
    obtain ⟨copy, copied, earlier, before, serves⟩ :=
      coherent.cached cached shown
    refine ⟨copy, by rw [snapshot, copied], earlier, ?_, ?_⟩
    · rw [importRevision]
      exact before
    · rw [importRevision, Service.events, events]
      exact serves

/-- The worker ends, or the store is fenced. -/
theorem Coherent.stop {world : World} (coherent : Coherent lib world)
    {disk : Agendas.Store} (worker : Worker)
    (known : world.service.worker ≠ .missing) (stays : worker ≠ .missing)
    (sound : disk.Sound lib.calendar)
    (stopped : worker = .closed ∨ disk.blocked = true)
    (behind : ∀ snapshot, world.service.snapshot = some snapshot →
      Behind snapshot disk) :
    Coherent lib ((world.withDisk disk).withWorker worker) where
  ids := sound.ids
  requests := sound.requests
  sound _ := sound
  readable _ := coherent.readable known
  copied _ := coherent.copied known
  missing gone := absurd gone stays
  distinct := coherent.distinct
  copy snapshot copied := .inr ⟨stopped, behind snapshot copied⟩
  cached := coherent.cached

/-- Only the fence of the store changes, and it is not lifted. -/
theorem Coherent.fenced {world : World} (coherent : Coherent lib world)
    (known : world.service.worker ≠ .missing) {blocked : Bool}
    (kept : world.disk.blocked = true → blocked = true) :
    Coherent lib (world.withDisk { world.disk with blocked }) where
  ids := coherent.ids
  requests := coherent.requests
  sound _ := (coherent.sound known).fenced blocked world.disk.readOnly
  readable := coherent.readable
  copied := coherent.copied
  missing := coherent.missing
  distinct := coherent.distinct
  copy snapshot copied := by
    rcases coherent.copy snapshot copied with current | ⟨stopped, behind⟩
    · exact .inl ⟨current.revision, current.records⟩
    · exact .inr ⟨stopped.imp id kept, behind.revision, behind.records⟩
  cached := coherent.cached

/-- A later copy is accepted. -/
theorem Coherent.accept {world : World} (coherent : Coherent lib world)
    {disk : Agendas.Store} {snapshot : Snapshot} (service : Service)
    (known : world.service.worker ≠ .missing)
    (sound : disk.Sound lib.calendar) (current : Current snapshot disk)
    (distinct : snapshot.Distinct)
    (later : world.service.cachedRevision < snapshot.catalogRevision)
    (worker : service.worker = world.service.worker)
    (copied : service.snapshot = some snapshot)
    (todoError : service.todoError = world.service.todoError)
    (imports : world.service.importRevision ≤ service.importRevision)
    (catalog : service.agendaCatalog = world.service.agendaCatalog)
    (answers : List Answer) :
    Coherent lib ⟨service, disk, answers⟩ where
  ids := sound.ids
  requests := sound.requests
  sound _ := sound
  readable _ := todoError.trans (coherent.readable known)
  copied _ := by
    rw [copied]
    rfl
  missing gone := absurd (worker.symm.trans gone) known
  distinct := by
    rw [copied]
    rintro _ ⟨⟩
    exact distinct
  copy := by
    rw [copied]
    rintro _ ⟨⟩
    exact .inl current
  cached := by
    rw [catalog]
    intro cached shown
    obtain ⟨copy, present, earlier, before, _⟩ := coherent.cached cached shown
    rw [Service.cachedRevision, present] at later
    have older : cached.revision < snapshot.catalogRevision :=
      Nat.lt_of_le_of_lt earlier later
    exact ⟨snapshot, copied, older.le, before.trans imports,
      fun same => absurd same older.ne⟩

/-! ## States on the way -/

/-- The copy is kept, where there was one. -/
structure Holding (lib : Libraries) (saved : Option Snapshot)
    (world : World) : Prop where
  coherent : Coherent lib world
  kept : ∀ snapshot, saved = some snapshot →
    world.service.snapshot = some snapshot

/-- The store has been opened. -/
structure Opened (lib : Libraries) (saved : Option Snapshot)
    (world : World) : Prop extends Holding lib saved world where
  known : world.service.worker ≠ .missing

theorem Coherent.holding {world : World} (coherent : Coherent lib world) :
    Holding lib none world where
  coherent := coherent
  kept _ never := by cases never

theorem Coherent.held {world : World} (coherent : Coherent lib world) :
    Holding lib world.service.snapshot world where
  coherent := coherent
  kept _ same := same

/-- The answer is to be put into the copy, or has been in it before. -/
structure Answered (lib : Libraries) (saved : Option Snapshot)
    (result : MutationResult) (world : World) : Prop where
  running : world.service.worker = .running
  unblocked : world.disk.blocked = false
  told : (Opened lib saved world ∧
      result.catalogRevision ≤ world.disk.catalogRevision ∧
        ∃ receipt ∈ world.disk.receipts, receipt.payload = result) ∨
    ∃ before, Opened lib saved (world.withDisk before) ∧
      before.blocked = false ∧
        before.Grows lib.calendar result world.disk

/-- The copy is what the store holds, which has answered before. -/
structure Shown (lib : Libraries) (result : MutationResult)
    (world : World) : Prop where
  coherent : Coherent lib world
  current : ∃ snapshot, world.service.snapshot = some snapshot ∧
    Current snapshot world.disk
  recorded : ∃ receipt ∈ world.disk.receipts, receipt.payload = result
  revision : result.catalogRevision ≤ world.disk.catalogRevision

/-! ## Calls -/

/-- What a job does to the disk decides what the call does. -/
theorem meets_call {Value : Type}
    {operation :
      Answer → Agendas.Store → Except String Value × Agendas.Store}
    {before : World → Prop} {done : Value → World → Prop}
    {failed : String → World → Prop}
    (refused : ∀ world, before world → failed "agenda worker closed" world)
    (told : ∀ world answer, before world → world.service.worker = .running →
      ∀ outcome disk, operation answer world.disk = (outcome, disk) →
        match outcome with
        | .ok value => done value (world.answered.withDisk disk)
        | .error error => failed error (world.answered.withDisk disk))
    (lost : ∀ world answer, before world → world.service.worker = .running →
      ∀ error, failed error (world.answered.withWorker .closed) ∧
        ∀ outcome disk, operation answer world.disk = (outcome, disk) →
          failed error ((world.answered.withDisk disk).withWorker .closed)) :
    Meets before (call operation) done failed := by
  intro world holds
  cases worker : world.service.worker with
  | missing => simpa [call, worker] using refused world holds
  | closed => simpa [call, worker] using refused world holds
  | running =>
      rcases job : operation world.answer world.disk with ⟨outcome, disk⟩
      cases ending : world.answer.ending with
      | told =>
          have reached := told world world.answer holds worker outcome disk job
          cases outcome with
          | ok value => simpa [call, worker, job, ending] using reached
          | error error => simpa [call, worker, job, ending] using reached
      | failedBefore =>
          have reached := (lost world world.answer holds worker workerFailed).1
          simpa [call, worker, ending] using reached
      | failedAfter =>
          have reached := (lost world world.answer holds worker workerFailed).2
            outcome disk job
          simpa [call, worker, job, ending] using reached

variable {saved : Option Snapshot}

theorem Opened.answered {world : World} (opened : Opened lib saved world) :
    Opened lib saved world.answered where
  coherent := opened.coherent.congr rfl rfl rfl rfl rfl rfl rfl
  kept := opened.kept
  known := opened.known

theorem Opened.closed {world : World} (opened : Opened lib saved world) :
    Opened lib saved (world.withWorker .closed) where
  coherent := opened.coherent.stop .closed opened.known (by simp)
    (opened.coherent.sound opened.known) (.inl rfl)
    fun _ copied => opened.coherent.behind copied
  kept := opened.kept
  known := by simp [World.withWorker]

/-- A job that reads leaves all as it is. -/
theorem meets_reading {Value : Type}
    (query : Agendas.Store → Except String Value) (fact : World → Prop)
    (keeps : ∀ world, fact world → fact world.answered ∧
      fact (world.answered.withWorker .closed)) :
    Meets (fun world => Opened lib saved world ∧ fact world)
      (call (reading query))
      (fun value world => Opened lib saved world ∧ fact world ∧
        query world.disk = .ok value)
      (fun _ world => Opened lib saved world ∧ fact world) := by
  have same : ∀ answer disk,
      (reading query answer disk).2 = disk := by
    intro answer disk
    rw [reading]
    cases answer.failure <;> rfl
  apply meets_call
  · exact fun world holds => holds
  · intro world answer holds _ outcome disk job
    have unchanged := same answer world.disk
    rw [job] at unchanged
    obtain rfl : disk = world.disk := unchanged
    cases outcome with
    | error error => exact ⟨holds.1.answered, (keeps world holds.2).1⟩
    | ok value =>
        refine ⟨holds.1.answered, (keeps world holds.2).1, ?_⟩
        rw [reading] at job
        cases failure : answer.failure with
        | none =>
            rw [failure] at job
            exact congrArg Prod.fst job
        | some error =>
            rw [failure] at job
            cases congrArg Prod.fst job
  · intro world answer holds _ _
    refine ⟨⟨holds.1.answered.closed, (keeps world holds.2).2⟩, ?_⟩
    intro outcome disk job
    have unchanged := same answer world.disk
    rw [job] at unchanged
    obtain rfl : disk = world.disk := unchanged
    exact ⟨holds.1.answered.closed, (keeps world holds.2).2⟩

theorem meets_readService_bind {Value : Type} {before : World → Prop}
    {next : Service → Effect Value} {done : Value → World → Prop}
    {failed : String → World → Prop}
    (rest : ∀ service, Meets (fun world => world.service = service ∧
      before world) (next service) done failed) :
    Meets before (readService >>= next) done failed :=
  fun world holds => rest world.service world ⟨rfl, holds⟩

theorem meets_required {Value : Type} {before : World → Prop}
    (error : String) (value : Option Value) :
    Meets before (required error value)
      (fun found world => value = some found ∧ before world)
      (fun _ => before) := by
  cases value with
  | none => exact meets_fail fun _ holds => holds
  | some found => exact meets_pure fun _ holds => ⟨rfl, holds⟩

theorem meets_storeGet (id : String) :
    Meets (Opened lib saved) (storeGet lib id) (fun _ => Opened lib saved)
      (fun _ => Opened lib saved) := by
  rw [storeGet]
  refine meets_lift_bind (fun _ _ opened => opened) ?_
  intro _ _
  refine (@meets_reading lib saved _ _ (fun _ => True)
    fun _ _ => ⟨trivial, trivial⟩).weaken ?_ ?_ ?_
  · exact fun world opened => ⟨opened, trivial⟩
  · exact fun _ world opened => opened.1
  · exact fun _ world opened => opened.1

theorem revision_of_receipt {disk : Agendas.Store} {request hash : String}
    {result : MutationResult}
    (found : disk.receipt lib.calendar request = .ok (some (hash, result))) :
    result.catalogRevision ≤ disk.catalogRevision := by
  rw [Store.receipt, FallibleSteps.bind_eq_ok_iff] at found
  obtain ⟨_, _, found⟩ := found
  split at found
  · rw [FallibleSteps.bind_eq_ok_iff] at found
    obtain ⟨decoded, decodes, done⟩ := found
    cases Except.ok.inj done
    exact (decodeReceipt_eq_ok_iff.mp decodes).2.2.2.2.2.1
  · cases Except.ok.inj found

/-- The receipts that are found are of the catalog that there is. -/
theorem meets_storeReceipt (request : String) (fact : World → Prop)
    (keeps : ∀ world, fact world → fact world.answered ∧
      fact (world.answered.withWorker .closed)) :
    Meets (fun world => Opened lib saved world ∧ fact world)
      (storeReceipt lib request)
      (fun receipt world => Opened lib saved world ∧ fact world ∧
        ∀ result, receipt = some result →
          result.catalogRevision ≤ world.disk.catalogRevision)
      (fun _ world => Opened lib saved world ∧ fact world) := by
  rw [storeReceipt]
  refine meets_lift_bind (fun _ _ holds => holds) ?_
  intro _ _
  refine (meets_reading _ fact keeps).weaken (fun _ holds => holds) ?_
    (fun _ _ holds => holds)
  rintro receipt world ⟨opened, holds, read⟩
  refine ⟨opened, holds, ?_⟩
  rintro result rfl
  cases found : world.disk.receipt lib.calendar request with
  | error error =>
      rw [found] at read
      cases read
  | ok known =>
      rw [found] at read
      cases known with
      | none => cases Except.ok.inj read
      | some known =>
          cases Except.ok.inj read
          exact revision_of_receipt found

theorem Opened.withDisk {world : World} {disk : Agendas.Store}
    (opened : Opened lib saved world)
    (coherent : Coherent lib (world.withDisk disk)) :
    Opened lib saved (world.withDisk disk) where
  coherent := coherent
  kept := opened.kept
  known := opened.known

/-- A mutation is answered, or the copy is behind it from now on. -/
theorem meets_storeMutate
    (printed : ∀ text, IsFingerprint (lib.digest text) = true)
    (mutation : Mutation) :
    Meets (Opened lib saved) (storeMutate lib mutation)
      (fun result => Answered lib saved result)
      (fun _ => Opened lib saved) := by
  rw [storeMutate]
  refine meets_lift_bind (fun _ _ opened => opened) ?_
  intro _ _
  apply meets_call
  · exact fun world opened => opened
  · intro world answer opened running outcome disk job
    have coherent := opened.coherent
    have sound := coherent.sound opened.known
    rcases submit_spec printed sound ⟨mutation, answer.now, answer.outcome⟩ with
      ⟨error, blocked, submitted, kept⟩ |
      ⟨result, submitted, unblocked, bound, recorded⟩ |
      ⟨result, after, grows, unblocked, submitted | ⟨error, submitted⟩⟩
    · cases submitted.symm.trans job
      exact (opened.withDisk (coherent.fenced opened.known kept)).answered
    · cases submitted.symm.trans job
      exact ⟨running, unblocked, .inl ⟨opened.answered, bound, recorded⟩⟩
    · cases submitted.symm.trans job
      exact ⟨running, grows.unblocked.trans unblocked,
        .inr ⟨world.disk, opened.answered, unblocked, grows⟩⟩
    · cases submitted.symm.trans job
      have stopped := coherent.stop world.service.worker
        opened.known opened.known
        (grows.sound.fenced true after.readOnly) (.inr rfl) (by
          intro snapshot copied
          have behind := (coherent.current running unblocked copied).grown grows
          exact ⟨behind.revision, behind.records⟩)
      exact (opened.withDisk stopped).answered
  · intro world answer opened running error
    refine ⟨opened.answered.closed, ?_⟩
    intro outcome disk job
    have coherent := opened.coherent
    have sound := coherent.sound opened.known
    rcases submit_spec printed sound ⟨mutation, answer.now, answer.outcome⟩ with
      ⟨error, blocked, submitted, kept⟩ |
      ⟨result, submitted, unblocked, bound, recorded⟩ |
      ⟨result, after, grows, unblocked, submitted | ⟨error, submitted⟩⟩
    · cases submitted.symm.trans job
      exact (opened.withDisk (coherent.fenced opened.known kept)).answered.closed
    · cases submitted.symm.trans job
      exact opened.answered.closed
    · cases submitted.symm.trans job
      have stopped := coherent.stop .closed opened.known (by simp) grows.sound
        (.inl rfl) fun snapshot copied =>
          (coherent.current running unblocked copied).grown grows
      exact ⟨⟨stopped.congr rfl rfl rfl rfl rfl rfl rfl, opened.kept⟩, by
        simp [World.withWorker]⟩
    · cases submitted.symm.trans job
      have stopped := coherent.stop .closed opened.known (by simp)
        (grows.sound.fenced true after.readOnly) (.inl rfl) (by
          intro snapshot copied
          have behind := (coherent.current running unblocked copied).grown grows
          exact ⟨behind.revision, behind.records⟩)
      exact ⟨⟨stopped.congr rfl rfl rfl rfl rfl rfl rfl, opened.kept⟩, by
        simp [World.withWorker]⟩

/-! ## Answers -/

theorem acceptAgenda_eq {world : World} {snapshot : Snapshot}
    {result : MutationResult}
    (copied : world.service.snapshot = some snapshot)
    (near : result.catalogRevision ≤ snapshot.catalogRevision + 1) :
    acceptAgenda lib result world =
      (.ok result, { world with
        service :=
          if result.catalogRevision ≤ snapshot.catalogRevision then
            world.service
          else
            { world.service with snapshot := some (snapshot.apply result) } }) :=
  by
  have close : ¬ snapshot.catalogRevision + 1 < result.catalogRevision :=
    Nat.not_lt_of_le near
  by_cases earlier : result.catalogRevision ≤ snapshot.catalogRevision
  · simp [acceptAgenda, readService, changeService, Attempt.read,
      Attempt.change, Attempt.lift, bind_apply, Service.cachedRevision,
      Service.applyAgendaResult, copied, close, earlier]
  · simp [acceptAgenda, readService, changeService, Attempt.read,
      Attempt.change, Attempt.lift, bind_apply, Service.cachedRevision,
      Service.applyAgendaResult, copied, close, earlier]

/-- After an answer the copy is what the store holds. -/
theorem meets_acceptAgenda (result : MutationResult) :
    Meets (Answered lib saved result) (acceptAgenda lib result)
      (fun answer world => answer = result ∧ Shown lib result world)
      (fun _ _ => False) := by
  intro world answered
  rcases answered.told with ⟨opened, bound, recorded⟩ |
    ⟨before, opened, unblocked, grows⟩
  · obtain ⟨snapshot, copied⟩ :=
      Option.isSome_iff_exists.mp (opened.coherent.copied opened.known)
    have current := opened.coherent.current answered.running answered.unblocked
      copied
    have earlier : result.catalogRevision ≤ snapshot.catalogRevision := by
      rw [current.revision]
      exact bound
    rw [acceptAgenda_eq copied (earlier.trans (Nat.le_succ _)), if_pos earlier]
    exact ⟨rfl, opened.coherent, ⟨snapshot, copied, current⟩, recorded, bound⟩
  · obtain ⟨snapshot, copied⟩ :=
      Option.isSome_iff_exists.mp (opened.coherent.copied opened.known)
    have held : Coherent lib (world.withDisk before) := opened.coherent
    have current := held.current answered.running unblocked copied
    have shown : world.service.snapshot = some snapshot := copied
    have next : result.catalogRevision = snapshot.catalogRevision + 1 := by
      rw [grows.told, current.revision]
      rfl
    have later : ¬ result.catalogRevision ≤ snapshot.catalogRevision := by
      omega
    rw [acceptAgenda_eq shown next.le, if_neg later]
    have applied := current.apply grows
    have follows : world.service.cachedRevision <
        (snapshot.apply result).catalogRevision := by
      have told : (snapshot.apply result).catalogRevision =
          result.catalogRevision := rfl
      rw [told, next, Service.cachedRevision, shown]
      exact Nat.lt_succ_self _
    have coherent : Coherent lib (world.accepted (snapshot.apply result)) :=
      held.accept (world.accepted (snapshot.apply result)).service opened.known grows.sound applied
        ((held.distinct snapshot copied).apply result) follows rfl rfl rfl
        (Nat.le_refl _) rfl world.answers
    refine ⟨rfl, coherent, ⟨_, rfl, applied⟩, grows.known, ?_⟩
    rw [grows.told, grows.revision]

end BarDaemon.AgendaService
