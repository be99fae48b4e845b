import BarDaemon.AgendaServiceRules

/-!
# Requests to the agenda service

What each request does to the copy of the service, and what the copy is after
any requests.
-/

namespace BarDaemon.AgendaService

open Agendas Agendas.Store Attempt Calendars TransitionRuns

variable {lib : Libraries} {saved : Option Snapshot}

/-- It is enough to look at one state at a time. -/
theorem meets_of_states {Value : Type} {before : World → Prop}
    {attempt : Effect Value} {done : Value → World → Prop}
    {failed : String → World → Prop}
    (spec : ∀ world, before world →
      Meets (fun other => other = world) attempt done failed) :
    Meets before attempt done failed :=
  fun world holds => spec world holds world rfl

/-! ## Opening -/

/-- The service has no store. -/
structure Unopened (lib : Libraries) (saved : Option Snapshot)
    (world : World) : Prop extends Holding lib saved world where
  missing : world.service.worker = .missing

/-- The store has been opened and read. -/
structure Ready (lib : Libraries) (snapshot : Snapshot) (world : World) :
    Prop where
  running : world.service.worker = .running
  sound : world.disk.Sound lib.calendar
  current : Current snapshot world.disk
  distinct : snapshot.Distinct
  uncached : world.service.agendaCatalog = none

theorem storeSnapshot_cases {world : World}
    (running : world.service.worker = .running) :
    (∃ error after, storeSnapshot lib world = (.error error, after) ∧
        after.disk = world.disk ∧
          ∃ worker, after.service = { world.service with worker }) ∨
      ∃ snapshot, storeSnapshot lib world = (.ok snapshot, world.answered) ∧
        readSnapshot lib world.disk = .ok snapshot := by
  have same : (reading (readSnapshot lib) world.answer world.disk).2 =
      world.disk := by
    rw [reading]
    cases world.answer.failure <;> rfl
  cases ending : world.answer.ending with
  | failedBefore =>
      refine .inl ⟨workerFailed, world.answered.withWorker .closed, ?_, rfl,
        .closed, rfl⟩
      simp only [storeSnapshot, call, running, ending]
  | failedAfter =>
      refine .inl ⟨workerFailed, (world.answered.withDisk
        (reading (readSnapshot lib) world.answer world.disk).2).withWorker
          .closed, ?_, same, .closed, rfl⟩
      simp only [storeSnapshot, call, running, ending]
  | told =>
      cases failure : world.answer.failure with
      | some error =>
          exact .inl ⟨error, world.answered, by
            simp only [storeSnapshot, call, running, ending, reading, failure]
            rfl, rfl, _, rfl⟩
      | none =>
          cases read : readSnapshot lib world.disk with
          | error error =>
              exact .inl ⟨error, world.answered, by
                simp only [storeSnapshot, call, running, ending, reading,
                  failure, read]
                rfl, rfl, _, rfl⟩
          | ok snapshot =>
              refine .inr ⟨snapshot, ?_, rfl⟩
              simp only [storeSnapshot, call, running, ending, reading, failure,
                read]
              rfl

/-- Without a store there is nothing to keep but the keys of its tables. -/
theorem Coherent.unopened {world : World} (coherent : Coherent lib world)
    (disk : Agendas.Store) (service : Service)
    (items : disk.items = world.disk.items)
    (receipts : disk.receipts = world.disk.receipts)
    (missing : service.worker = .missing) (empty : service.snapshot = none)
    (uncached : service.agendaCatalog = none) (answers : List Answer) :
    Coherent lib ⟨service, disk, answers⟩ where
  ids := by
    rw [items]
    exact coherent.ids
  requests := by
    rw [receipts]
    exact coherent.requests
  sound known := absurd missing known
  readable known := absurd missing known
  copied known := absurd missing known
  missing _ := empty
  distinct := by
    rw [empty]
    rintro _ ⟨⟩
  copy := by
    rw [empty]
    rintro _ ⟨⟩
  cached := by
    rw [uncached]
    rintro _ ⟨⟩

theorem Unopened.empty {world : World} (unopened : Unopened lib saved world) :
    world.service.snapshot = none ∧ world.service.agendaCatalog = none ∧
      saved = none := by
  have empty := unopened.coherent.missing unopened.missing
  refine ⟨empty, ?_, ?_⟩
  · cases catalog : world.service.agendaCatalog with
    | none => rfl
    | some cached =>
        obtain ⟨snapshot, copied, _⟩ := unopened.coherent.cached cached catalog
        rw [empty] at copied
        cases copied
  · cases kept : saved with
    | none => rfl
    | some snapshot =>
        have copied := unopened.kept snapshot kept
        rw [empty] at copied
        cases copied

theorem meets_openAgenda :
    Meets (Unopened lib saved) (openAgenda lib)
      (fun snapshot world => saved = none ∧ Ready lib snapshot world)
      (fun _ => Unopened lib saved) := by
  intro world unopened
  obtain ⟨empty, uncached, rfl⟩ := unopened.empty
  have coherent := unopened.coherent
  rw [openAgenda, bind_apply]
  rw [openStore]
  cases opening : openDisk lib world.answer world.disk with
  | error error =>
      exact ⟨⟨coherent.congr rfl rfl rfl rfl rfl rfl rfl, unopened.kept⟩,
        unopened.missing⟩
  | ok disk =>
      have opens : world.disk.reopen lib.calendar false = .ok disk := by
        rw [openDisk] at opening
        cases failure : world.answer.failure with
        | none =>
            rw [failure] at opening
            exact opening
        | some error =>
            rw [failure] at opening
            cases opening
      have sound := sound_of_reopen coherent.ids coherent.requests opens
      have same := eq_of_reopen opens
      have fresh : disk.Sound lib.calendar := by
        rw [same]
        exact sound.fenced false false
      simp only [bind_apply, Attempt.catching]
      rcases @storeSnapshot_cases lib
          (World.withWorker .running (world.answered.withDisk disk)) rfl with
        ⟨error, after, failed, disks, worker, service⟩ |
        ⟨snapshot, answered, read⟩
      · rw [failed]
        have gone : Coherent lib (World.withWorker .missing after) := by
          refine coherent.unopened after.disk
            { after.service with worker := .missing } ?_ ?_ rfl ?_ ?_
            after.answers
          · rw [disks]
            change disk.items = world.disk.items
            rw [same]
          · rw [disks]
            change disk.receipts = world.disk.receipts
            rw [same]
          · rw [service]
            exact empty
          · rw [service]
            exact uncached
        exact ⟨⟨gone, fun _ never => by cases never⟩, rfl⟩
      · rw [answered]
        obtain ⟨_, current, distinct⟩ := readSnapshot_spec fresh read
        exact ⟨trivial, rfl, fresh, current, distinct, uncached⟩

theorem Ready.opened {snapshot : Snapshot} {world : World}
    (ready : Ready lib snapshot world) :
    Coherent lib { world with service := openedWith snapshot world.service }
    where
  ids := ready.sound.ids
  requests := ready.sound.requests
  sound _ := ready.sound
  readable _ := rfl
  copied _ := rfl
  missing gone := by
    have missing : world.service.worker = .missing := gone
    rw [ready.running] at missing
    cases missing
  distinct := by
    rintro _ ⟨⟩
    exact ready.distinct
  copy := by
    rintro _ ⟨⟩
    exact .inl ready.current
  cached := by
    intro cached shown
    have catalog : world.service.agendaCatalog = some cached := shown
    rw [ready.uncached] at catalog
    cases catalog

theorem meets_writableAgenda :
    Meets (Holding lib saved) (writableAgenda lib)
      (fun _ => Opened lib saved) (fun _ => Holding lib saved) := by
  rw [writableAgenda]
  apply meets_readService_bind
  intro service
  cases worker : service.worker with
  | running =>
      refine meets_pure ?_
      rintro world ⟨rfl, held⟩
      exact ⟨held, by simp [worker]⟩
  | closed =>
      refine meets_pure ?_
      rintro world ⟨rfl, held⟩
      exact ⟨held, by simp [worker]⟩
  | missing =>
      have opens : Meets (fun world => world.service = service ∧
          Holding lib saved world) ((openAgenda lib).catching some)
          (handled
            (fun snapshot world => saved = none ∧ Ready lib snapshot world)
            fun _ => Unopened lib saved) (fun _ => Holding lib saved) := by
        refine Meets.catching (meets_openAgenda.weaken ?_
          (fun _ _ ready => ready) (fun _ _ unopened => unopened))
        rintro world ⟨rfl, held⟩
        exact ⟨held, worker⟩
      refine Meets.bind opens ?_
      rintro (error | snapshot)
      · have noted : Meets (Unopened lib saved)
            (changeService fun service => { service with
              todoError := some (lib.unavailable error) })
            (fun _ => Holding lib saved) (fun _ => Holding lib saved) := ?_
        · exact Meets.bind noted fun _ => meets_fail fun _ held => held
        refine meets_change ?_
        intro world unopened
        have coherent := unopened.coherent.unopened world.disk
          { world.service with todoError := some (lib.unavailable error) } rfl
          rfl unopened.missing unopened.empty.1 unopened.empty.2.1 world.answers
        exact ⟨coherent, unopened.kept⟩
      · refine meets_change ?_
        rintro world ⟨rfl, ready⟩
        refine ⟨⟨ready.opened, fun _ never => by cases never⟩, ?_⟩
        have running : (openedWith snapshot world.service).worker = .running :=
          ready.running
        rw [running]
        simp

/-! ## Mutations -/

theorem meets_lift {Value : Type} {before : World → Prop}
    (outcome : Except String Value) :
    Meets before (Attempt.lift (fun error => error) outcome)
      (fun _ => before) (fun _ => before) :=
  Attempt.meets_lift (fun _ _ holds _ => holds) fun _ _ holds _ => holds

theorem meets_checkAgendaCapacity {before : World → Prop}
    (replacing : Option String) (extra : Nat) :
    Meets before (checkAgendaCapacity lib replacing extra)
      (fun _ => before) (fun _ => before) := by
  rw [checkAgendaCapacity]
  apply meets_readService_bind
  intro service
  exact (meets_lift _).weaken (fun _ holds => holds.2) (fun _ _ holds => holds)
    (fun _ _ holds => holds)

theorem meets_unlessKnown (request : String) {check : Effect Unit}
    (checks : Meets (Opened lib saved) check (fun _ => Opened lib saved)
      (fun _ => Opened lib saved)) :
    Meets (Opened lib saved) (unlessKnown lib request check)
      (fun _ => Opened lib saved) (fun _ => Opened lib saved) := by
  have found := @meets_storeReceipt lib saved request (fun _ => True)
    fun _ _ => ⟨trivial, trivial⟩
  have known : Meets (Opened lib saved) (storeReceipt lib request)
      (fun _ => Opened lib saved) (fun _ => Opened lib saved) :=
    found.weaken (fun _ opened => ⟨opened, trivial⟩)
      (fun _ _ holds => holds.1) (fun _ _ holds => holds.1)
  rw [unlessKnown]
  apply Meets.bind known
  intro receipt
  exact meets_ite (fun _ => checks) fun _ => meets_pure fun _ opened => opened

theorem meets_checkCandidate (id : String) (patch : ItemPatch) :
    Meets (Opened lib saved) (checkCandidate lib id patch)
      (fun _ => Opened lib saved) (fun _ => Opened lib saved) := by
  rw [checkCandidate]
  apply Meets.bind (meets_storeGet id)
  intro found
  apply Meets.bind (meets_required _ found)
  intro record
  exact (meets_checkAgendaCapacity _ _).weaken (fun _ holds => holds.2)
    (fun _ _ holds => holds) (fun _ _ holds => holds)

section Mutations

variable (printed : ∀ text, IsFingerprint (lib.digest text) = true)
include printed

theorem meets_answer (mutation : Mutation) :
    Meets (Opened lib saved)
      (storeMutate lib mutation >>= fun result => acceptAgenda lib result)
      (fun result world => Shown lib result world)
      (fun _ => Holding lib saved) := by
  have mutates : Meets (Opened lib saved) (storeMutate lib mutation)
      (fun result => Answered lib saved result) (fun _ => Holding lib saved) :=
    (meets_storeMutate printed mutation).weaken (fun _ opened => opened)
      (fun _ _ answered => answered) (fun _ _ opened => opened.toHolding)
  apply Meets.bind mutates
  intro result
  refine (meets_acceptAgenda result).weaken (fun _ answered => answered) ?_ ?_
  · rintro _ world ⟨rfl, shown⟩
    exact shown
  · intro _ _ never
    cases never

/-- What is asked of a mutation: its answer is in the copy, and a failure
leaves the copy as it is. -/
theorem meets_mutation {prepare : Effect Unit} (mutation : Mutation)
    (prepares : Meets (Opened lib saved) prepare (fun _ => Opened lib saved)
      (fun _ => Opened lib saved)) :
    Meets (Holding lib saved)
      (writableAgenda lib >>= fun _ => prepare >>= fun _ =>
        storeMutate lib mutation >>= fun result => acceptAgenda lib result)
      (fun result world => Shown lib result world)
      (fun _ => Holding lib saved) := by
  apply Meets.bind meets_writableAgenda
  intro _
  have ready : Meets (Opened lib saved) prepare (fun _ => Opened lib saved)
      (fun _ => Holding lib saved) :=
    prepares.weaken (fun _ opened => opened) (fun _ _ opened => opened)
      (fun _ _ opened => opened.toHolding)
  apply Meets.bind ready
  intro _
  exact meets_answer printed mutation

theorem meets_agendaCreate (requestId : String) (item : NewItem) :
    Meets (Holding lib saved) (agendaCreate lib requestId item)
      (fun result world => Shown lib result world)
      (fun _ => Holding lib saved) :=
  meets_mutation printed (.create requestId item)
    (meets_unlessKnown requestId (meets_checkAgendaCapacity none _))

theorem meets_agendaPatch (requestId id : String) (revision : U64)
    (patch : ItemPatch) :
    Meets (Holding lib saved) (agendaPatch lib requestId id revision patch)
      (fun result world => Shown lib result world)
      (fun _ => Holding lib saved) :=
  meets_mutation printed (.patch requestId id revision patch)
    (meets_unlessKnown requestId (meets_checkCandidate id patch))

theorem meets_agendaDelete (requestId id : String) (revision : U64) :
    Meets (Holding lib saved) (agendaDelete lib requestId id revision)
      (fun result world => Shown lib result world)
      (fun _ => Holding lib saved) := by
  rw [agendaDelete]
  apply Meets.bind meets_writableAgenda
  intro _
  exact meets_answer printed (.delete requestId id revision)

/-! ### Todos -/

omit printed in
theorem meets_legacyRequest (now : I64) {before : World → Prop}
    {failed : String → World → Prop}
    (keeps : ∀ world, before world → before { world with
      service := { world.service with
        todoSequence := world.service.todoSequence + 1 } }) :
    Meets before (legacyRequest now) (fun _ => before) failed :=
  fun world holds => keeps world holds

theorem meets_createTodo (title : String) (dueUnixMs : Option I64)
    (dueDate : Option String) (priority : UInt8) (context : Context)
    (now : I64) :
    Meets (Coherent lib)
      (createTodo lib title dueUnixMs dueDate priority context now)
      (fun _ => Coherent lib) (fun _ => Coherent lib) := by
  rw [createTodo]
  refine meets_ensure_bind (fun _ coherent => coherent) fun _ => ?_
  refine meets_ensure_bind (fun _ coherent => coherent) fun _ => ?_
  refine meets_ensure_bind (fun _ coherent => coherent) fun _ => ?_
  have schedules : Meets (Coherent lib) (todoSchedule dueUnixMs dueDate context)
      (fun _ => Coherent lib) (fun _ => Coherent lib) := by
    cases dueUnixMs with
    | none => exact meets_pure fun _ coherent => coherent
    | some due =>
        exact Meets.bind (meets_lift context) fun _ =>
          meets_pure fun _ coherent => coherent
  apply Meets.bind schedules
  intro schedule
  refine Meets.bind (meets_legacyRequest now fun _ coherent =>
    coherent.congr rfl rfl rfl rfl rfl rfl rfl) fun requestId => ?_
  have creates : Meets (Coherent lib)
      (agendaCreate lib requestId (newTodo title schedule priority))
      (fun _ => Coherent lib) (fun _ => Coherent lib) :=
    (meets_agendaCreate printed requestId _).weaken
      (fun _ coherent => coherent.holding)
      (fun _ _ shown => shown.coherent) (fun _ _ held => held.coherent)
  apply Meets.bind creates
  intro result
  refine Meets.bind ((meets_required _ result.item).weaken
    (fun _ coherent => coherent) (fun _ _ holds => holds.2)
    (fun _ _ coherent => coherent)) fun item => ?_
  exact (meets_required _ (todo item)).weaken (fun _ coherent => coherent)
    (fun _ _ holds => holds.2) (fun _ _ coherent => coherent)

omit printed in
theorem Opened.counted {world : World} (opened : Opened lib saved world) :
    Opened lib saved { world with
      service := { world.service with
        todoSequence := world.service.todoSequence + 1 } } where
  coherent := opened.coherent.congr rfl rfl rfl rfl rfl rfl rfl
  kept := opened.kept
  known := opened.known

omit printed in
/-- A record is read and changed. -/
theorem meets_changed {Value : Type} {next : Record → Effect Value}
    (id : String) (error : String)
    (rest : ∀ record, Meets (Opened lib none) (next record)
      (fun _ => Coherent lib) (fun _ => Coherent lib)) :
    Meets (Coherent lib)
      (writableAgenda lib >>= fun _ => storeGet lib id >>= fun found =>
        required error found >>= next)
      (fun _ => Coherent lib) (fun _ => Coherent lib) := by
  have opens : Meets (Coherent lib) (writableAgenda lib)
      (fun _ => Opened lib none) (fun _ => Coherent lib) :=
    meets_writableAgenda.weaken (fun _ coherent => coherent.holding)
      (fun _ _ opened => opened) (fun _ _ held => held.coherent)
  have reads : Meets (Opened lib none) (storeGet lib id)
      (fun _ => Opened lib none) (fun _ => Coherent lib) :=
    (meets_storeGet id).weaken (fun _ opened => opened)
      (fun _ _ opened => opened) (fun _ _ opened => opened.coherent)
  refine Meets.bind opens fun _ => Meets.bind reads fun found => ?_
  refine Meets.bind ((meets_required error found).weaken
    (fun _ opened => opened) (fun _ _ holds => holds.2)
    (fun _ _ opened => opened.coherent)) rest

theorem meets_answered {Value : Type} {next : MutationResult → Effect Value}
    (mutation : Mutation)
    (rest : ∀ result, Meets (Coherent lib) (next result)
      (fun _ => Coherent lib) (fun _ => Coherent lib)) :
    Meets (Opened lib none)
      (storeMutate lib mutation >>= fun result =>
        acceptAgenda lib result >>= next)
      (fun _ => Coherent lib) (fun _ => Coherent lib) := by
  have mutates : Meets (Opened lib none) (storeMutate lib mutation)
      (fun result => Answered lib none result) (fun _ => Coherent lib) :=
    (meets_storeMutate printed mutation).weaken (fun _ opened => opened)
      (fun _ _ answered => answered) (fun _ _ opened => opened.coherent)
  apply Meets.bind mutates
  intro result
  have accepts : Meets (Answered lib none result) (acceptAgenda lib result)
      (fun _ => Coherent lib) (fun _ => Coherent lib) :=
    (meets_acceptAgenda result).weaken (fun _ answered => answered)
      (fun _ _ shown => shown.2.coherent) fun _ _ never => never.elim
  exact Meets.bind accepts rest

theorem meets_completeTodo (id : String) (completed : Bool)
    (completedAt now : I64) :
    Meets (Coherent lib) (completeTodo lib id completed completedAt now)
      (fun _ => Coherent lib) (fun _ => Coherent lib) := by
  rw [completeTodo]
  apply meets_changed
  intro record
  refine Meets.bind ((meets_required _ record.task).weaken
    (fun _ opened => opened) (fun _ _ holds => holds.2)
    (fun _ _ opened => opened.coherent)) fun task => ?_
  refine Meets.bind (meets_legacyRequest now fun _ opened => opened.counted)
    fun requestId => ?_
  apply meets_answered printed
  intro result
  refine Meets.bind ((meets_required _ result.item).weaken
    (fun _ coherent => coherent) (fun _ _ holds => holds.2)
    (fun _ _ coherent => coherent)) fun item => ?_
  exact (meets_required _ (todo item)).weaken (fun _ coherent => coherent)
    (fun _ _ holds => holds.2) (fun _ _ coherent => coherent)

theorem meets_deleteTodo (id : String) (now : I64) :
    Meets (Coherent lib) (deleteTodo lib id now)
      (fun _ => Coherent lib) (fun _ => Coherent lib) := by
  rw [deleteTodo]
  apply meets_changed
  intro record
  refine meets_ensure_bind (fun _ opened => opened.coherent) fun _ => ?_
  refine Meets.bind (meets_legacyRequest now fun _ opened => opened.counted)
    fun requestId => ?_
  apply meets_answered printed
  intro result
  exact meets_pure fun _ coherent => coherent

end Mutations

/-! ## Receipts -/

/-- A copy that is beyond the cached revision is accepted. -/
theorem meets_reload {cached : Nat} :
    Meets (fun world => Opened lib none world ∧
        world.service.cachedRevision = cached ∧
          cached < world.disk.catalogRevision)
      (reloadAgendaSnapshot lib)
      (fun _ world => Coherent lib world ∧
        ∃ snapshot, world.service.snapshot = some snapshot ∧
          Current snapshot world.disk)
      (fun _ => Coherent lib) := by
  rw [reloadAgendaSnapshot]
  have reads := @meets_reading lib none _ (readSnapshot lib)
    (fun world => world.service.cachedRevision = cached ∧
      cached < world.disk.catalogRevision)
    fun _ holds => ⟨holds, holds⟩
  have reads := reads.weaken (fun _ holds => holds) (fun _ _ holds => holds)
    (fun _ _ holds => holds.1.coherent)
  apply Meets.bind reads
  intro snapshot
  refine meets_change ?_
  rintro world ⟨opened, ⟨before, later⟩, read⟩
  have sound := opened.coherent.sound opened.known
  obtain ⟨_, current, distinct⟩ := readSnapshot_spec sound read
  refine ⟨?_, snapshot, rfl, current⟩
  refine opened.coherent.accept (world.accepted snapshot).service opened.known
    sound current distinct ?_ rfl rfl rfl (Nat.le_refl _) rfl _
  rw [before, current.revision]
  exact later

/-- A receipt beyond the copy brings it up to date, and one that is not leaves
the copy as it is. -/
theorem meets_agendaReceipt (id : String) (cached : Nat) :
    Meets (fun world => Coherent lib world ∧
        world.service.cachedRevision = cached)
      (agendaReceipt lib id)
      (fun receipt world => Coherent lib world ∧
        ∀ result, receipt = some result →
          cached < result.catalogRevision →
            ∃ snapshot, world.service.snapshot = some snapshot ∧
              Current snapshot world.disk)
      (fun _ => Coherent lib) := by
  rw [agendaReceipt]
  refine meets_ensure_bind (fun _ holds => holds.1) fun _ => ?_
  apply meets_readService_bind
  intro service
  refine meets_lift_bind (fun _ _ holds => holds.2.1) fun _ _ => ?_
  refine meets_ensure_bind (fun _ holds => holds.2.1) fun known => ?_
  have finds := @meets_storeReceipt lib none id
    (fun world => world.service.cachedRevision = cached ∧
      service.cachedRevision = cached) fun _ holds => ⟨holds, holds⟩
  have searches : Meets (fun world => world.service = service ∧
        Coherent lib world ∧ world.service.cachedRevision = cached)
      (storeReceipt lib id)
      (fun receipt world => Opened lib none world ∧
        (world.service.cachedRevision = cached ∧
          service.cachedRevision = cached) ∧
        ∀ result, receipt = some result →
          result.catalogRevision ≤ world.disk.catalogRevision)
      (fun _ => Coherent lib) := by
    refine finds.weaken ?_ (fun _ _ holds => holds)
      (fun _ _ holds => holds.1.coherent)
    rintro world ⟨rfl, coherent, same⟩
    refine ⟨⟨coherent.holding, ?_⟩, same, same⟩
    simpa using known
  apply Meets.bind searches
  intro receipt
  have catches : Meets (fun world => Opened lib none world ∧
        (world.service.cachedRevision = cached ∧
          service.cachedRevision = cached) ∧
        ∀ result, receipt = some result →
          result.catalogRevision ≤ world.disk.catalogRevision)
      (catchUp lib service.cachedRevision receipt)
      (fun _ world => Coherent lib world ∧
        ∀ result, receipt = some result →
          cached < result.catalogRevision →
            ∃ snapshot, world.service.snapshot = some snapshot ∧
              Current snapshot world.disk)
      (fun _ => Coherent lib) := by
    rw [catchUp]
    refine meets_ite (fun beyond => ?_) (fun within => ?_)
    · refine (@meets_reload lib service.cachedRevision).weaken ?_ ?_
        (fun _ _ coherent => coherent)
      · rintro world ⟨opened, ⟨before, same⟩, bounded⟩
        refine ⟨opened, before.trans same.symm, ?_⟩
        cases receipt with
        | none => simp at beyond
        | some result =>
            have later : service.cachedRevision < result.catalogRevision := by
              simpa using beyond
            exact Nat.lt_of_lt_of_le later (bounded result rfl)
      · rintro _ world ⟨coherent, current⟩
        exact ⟨coherent, fun _ _ _ => current⟩
    · refine meets_pure ?_
      rintro world ⟨opened, ⟨before, same⟩, _⟩
      refine ⟨opened.coherent, ?_⟩
      rintro result rfl later
      rw [← same] at later
      simp [later] at within
  apply Meets.bind catches
  intro _
  exact meets_pure fun _ holds => holds

theorem meets_receipt (id : String) :
    Meets (Coherent lib) (agendaReceipt lib id) (fun _ => Coherent lib)
      (fun _ => Coherent lib) := by
  apply meets_of_states
  intro world coherent
  refine (meets_agendaReceipt id world.service.cachedRevision).weaken ?_
    (fun _ _ holds => holds.1) (fun _ _ coherent => coherent)
  rintro _ rfl
  exact ⟨coherent, rfl⟩

/-! ## Imports -/

/-- The store has moved to the next revision, which the copy is to follow. -/
structure Invalidated (lib : Libraries) (revision : Nat) (world : World) :
    Prop where
  running : world.service.worker = .running
  before : ∃ disk, Coherent lib (world.withDisk disk) ∧
    disk.blocked = false ∧ world.disk = disk.invalidated ∧
      revision = disk.catalogRevision + 1

theorem meets_invalidate :
    Meets (Opened lib none)
      (call fun answer disk => disk.invalidateCatalog answer.outcome)
      (Invalidated lib) (fun _ => Coherent lib) := by
  apply meets_call
  · exact fun world opened => opened.coherent
  · intro world answer opened running outcome disk job
    have coherent := opened.coherent
    rcases world.disk.invalidateCatalog_spec answer.outcome with
      ⟨error, blocked, settled, kept⟩ | ⟨unblocked, settled | ⟨error, settled⟩⟩
    · cases settled.symm.trans job
      exact (coherent.fenced opened.known kept).congr rfl rfl rfl rfl rfl rfl rfl
    · cases settled.symm.trans job
      exact ⟨running, world.disk, opened.answered.coherent, unblocked, rfl, rfl⟩
    · cases settled.symm.trans job
      have stopped := coherent.stop world.service.worker opened.known
        opened.known
        ((coherent.sound opened.known).invalidated.fenced true
          world.disk.readOnly) (.inr rfl) (by
          intro snapshot copied
          have behind :=
            (coherent.current running unblocked copied).invalidated
          exact ⟨behind.revision, behind.records⟩)
      exact stopped.congr rfl rfl rfl rfl rfl rfl rfl
  · intro world answer opened running error
    refine ⟨opened.answered.closed.coherent, ?_⟩
    intro outcome disk job
    have coherent := opened.coherent
    have sound := coherent.sound opened.known
    rcases world.disk.invalidateCatalog_spec answer.outcome with
      ⟨error, blocked, settled, kept⟩ | ⟨unblocked, settled | ⟨error, settled⟩⟩
    · cases settled.symm.trans job
      exact (opened.withDisk
        (coherent.fenced opened.known kept)).answered.closed.coherent
    · cases settled.symm.trans job
      have stopped := coherent.stop .closed opened.known (by simp)
        sound.invalidated (.inl rfl) fun snapshot copied =>
          (coherent.current running unblocked copied).invalidated
      exact stopped.congr rfl rfl rfl rfl rfl rfl rfl
    · cases settled.symm.trans job
      have stopped := coherent.stop .closed opened.known (by simp)
        (sound.invalidated.fenced true world.disk.readOnly) (.inl rfl) (by
          intro snapshot copied
          have behind :=
            (coherent.current running unblocked copied).invalidated
          exact ⟨behind.revision, behind.records⟩)
      exact stopped.congr rfl rfl rfl rfl rfl rfl rfl

/-- The imports and the revision of the copy change together. -/
theorem Invalidated.imported {world : World} {revision : Nat}
    (invalidated : Invalidated lib revision world) {snapshot : Snapshot}
    (copied : world.service.snapshot = some snapshot) (imports : Imports) :
    Coherent lib { world with
      service := importedInto revision imports snapshot world.service } := by
  obtain ⟨disk, coherent, unblocked, moved, rfl⟩ := invalidated.before
  have known : world.service.worker ≠ .missing := by
    rw [invalidated.running]
    simp
  have sound := coherent.sound known
  have current : Current snapshot disk :=
    coherent.current invalidated.running unblocked copied
  have following :
      Current ⟨snapshot.items, disk.catalogRevision + 1⟩ world.disk := by
    rw [moved]
    exact ⟨rfl, current.records⟩
  refine coherent.accept (importedInto (disk.catalogRevision + 1) imports
    snapshot world.service) known (moved ▸ sound.invalidated) following
    (coherent.distinct snapshot copied) ?_ rfl rfl rfl (Nat.le_succ _) rfl _
  · change world.service.cachedRevision < disk.catalogRevision + 1
    rw [Service.cachedRevision, copied, Option.map_some, Option.getD_some,
      current.revision]
    exact Nat.lt_succ_self _

theorem meets_acceptCalendarImports (imports : Imports) :
    Meets (Coherent lib) (acceptCalendarImports lib imports)
      (fun _ => Coherent lib) (fun _ => Coherent lib) := by
  rw [acceptCalendarImports]
  apply meets_readService_bind
  intro service
  refine meets_ite (fun _ => meets_pure fun _ holds => holds.2) fun _ => ?_
  refine Meets.bind ((meets_required _ service.snapshot).weaken
    (fun _ holds => holds.2) (fun _ _ holds => holds.2)
    (fun _ _ coherent => coherent)) fun snapshot => ?_
  refine Meets.bind (meets_lift _) fun _ => ?_
  refine Meets.bind (meets_writableAgenda.weaken
    (fun _ coherent => coherent.holding) (fun _ _ opened => opened)
    (fun _ _ held => held.coherent)) fun _ => ?_
  refine Meets.bind meets_invalidate fun revision => ?_
  apply meets_readService_bind
  intro service
  have finds : Meets (fun world => world.service = service ∧
        Invalidated lib revision world)
      (required "Agenda cache unavailable" service.snapshot)
      (fun snapshot world => world.service.snapshot = some snapshot ∧
        Invalidated lib revision world)
      (fun _ => Coherent lib) := by
    cases copied : service.snapshot with
    | none =>
        -- The store that has answered has been read before.
        refine meets_fail ?_
        rintro world ⟨rfl, invalidated⟩
        obtain ⟨disk, coherent, _⟩ := invalidated.before
        have known : world.service.worker ≠ .missing := by
          rw [invalidated.running]
          simp
        have present : world.service.snapshot.isSome := coherent.copied known
        rw [copied] at present
        cases present
    | some snapshot =>
        refine meets_pure ?_
        rintro world ⟨rfl, invalidated⟩
        exact ⟨copied, invalidated⟩
  apply Meets.bind finds
  intro snapshot
  refine meets_change ?_
  rintro world ⟨copied, invalidated⟩
  exact invalidated.imported copied imports

theorem meets_recoverStore :
    Meets (Coherent lib) (recoverStore lib) (fun _ => Coherent lib)
      (fun _ => Coherent lib) := by
  rw [recoverStore]
  apply meets_readService_bind
  intro service
  refine meets_ite (fun _ => ?_) fun _ => meets_pure fun _ holds => holds.2
  have tries : Meets (fun world => world.service = service ∧
        Coherent lib world) ((writableAgenda lib).catching some)
      (handled (fun _ => Coherent lib) fun _ => Coherent lib)
      (fun _ => Coherent lib) :=
    Meets.catching (meets_writableAgenda.weaken
      (fun _ holds => holds.2.holding) (fun _ _ opened => opened.coherent)
      (fun _ _ held => held.coherent))
  apply Meets.bind tries
  rintro (error | opened)
  · exact meets_pure fun _ coherent => coherent
  · exact meets_pure fun _ coherent => coherent

theorem meets_refresh
    (config : Except String (List CalendarSourceConfig))
    (load : CalendarSourceConfig → Except String (List ActivityEvent)) :
    Meets (Coherent lib) (refresh lib config load) (fun _ => Coherent lib)
      (fun _ => Coherent lib) := by
  rw [refresh.eq_def]
  refine Meets.bind meets_recoverStore fun _ => ?_
  cases config with
  | error error => exact meets_pure fun _ coherent => coherent
  | ok sources =>
      apply meets_readService_bind
      intro service
      have accepts : Meets (fun world => world.service = service ∧
            Coherent lib world)
          ((acceptCalendarImports lib
            (refreshSources service sources load).imports).catching some)
          (handled (fun _ => Coherent lib) fun _ => Coherent lib)
          (fun _ => Coherent lib) :=
        Meets.catching ((meets_acceptCalendarImports _).weaken
          (fun _ holds => holds.2) (fun _ _ coherent => coherent)
          (fun _ _ coherent => coherent))
      apply Meets.bind accepts
      rintro (error | accepted)
      · exact meets_change fun _ coherent =>
          Coherent.congr coherent rfl rfl rfl rfl rfl rfl rfl
      · exact meets_change fun _ coherent =>
          Coherent.congr coherent rfl rfl rfl rfl rfl rfl rfl

/-! ## The catalog -/

theorem snapshot_of_readable {service : Service} {snapshot : Snapshot}
    (readable : service.readableAgenda = .ok snapshot) :
    service.snapshot = some snapshot := by
  rw [Service.readableAgenda] at readable
  cases error : service.todoError with
  | some error =>
      rw [error] at readable
      cases readable
  | none =>
      rw [error] at readable
      cases copied : service.snapshot with
      | none =>
          rw [copied] at readable
          cases readable
      | some copy =>
          rw [copied] at readable
          cases Except.ok.inj readable
          rfl

/-- What is read is of the copy and of the imports that there are. -/
theorem meets_cachedCatalog (today : NaiveDate) (timezone : String)
    (service : Service) (disk : Agendas.Store) :
    Meets (fun world => Coherent lib world ∧ world.service = service ∧
        world.disk = disk) (cachedCatalog lib today timezone)
      (fun reading world => Coherent lib world ∧ world.disk = disk ∧
        ∃ snapshot, service.readableAgenda = .ok snapshot ∧
          reading.revision = snapshot.catalogRevision ∧
            buildCatalog lib snapshot service.events today timezone =
              .ok (reading.catalog, reading.imports))
      (fun _ => Coherent lib) := by
  rw [cachedCatalog]
  apply meets_readService_bind
  intro present
  refine meets_lift_bind (fun _ _ holds => holds.2.1) fun snapshot readable => ?_
  have copied := snapshot_of_readable readable
  cases kept : present.agendaCatalog.filter fun cached =>
      cached.isOf snapshot.catalogRevision present.importRevision today
        timezone with
  | some cached =>
      refine meets_pure ?_
      rintro world ⟨rfl, coherent, rfl, rfl⟩
      obtain ⟨shown, same⟩ := Option.filter_eq_some_iff.mp kept
      simp only [CachedCatalog.isOf, Bool.and_eq_true, beq_iff_eq] at same
      obtain ⟨⟨⟨revision, imports⟩, rfl⟩, rfl⟩ := same
      obtain ⟨copy, found, _, _, serves⟩ := coherent.cached cached shown
      rw [copied] at found
      cases found
      exact ⟨coherent, rfl, snapshot, readable, revision,
        serves revision imports⟩
  | none =>
      refine meets_lift_bind (fun _ _ holds => holds.2.1) fun built builds => ?_
      have notes : Meets (fun world => world.service = present ∧
            Coherent lib world ∧ world.service = service ∧ world.disk = disk)
          (changeService fun service =>
            { service with
              agendaCatalog := some
                { revision := snapshot.catalogRevision
                  importRevision := service.importRevision
                  today
                  timezone
                  imports := built.2
                  catalog := built.1 } })
          (fun _ world => Coherent lib world ∧ world.disk = disk ∧
            present = service) (fun _ => Coherent lib) := by
        refine meets_change ?_
        rintro world ⟨rfl, coherent, same, rfl⟩
        refine ⟨?_, rfl, same⟩
        exact
          { ids := coherent.ids
            requests := coherent.requests
            sound := coherent.sound
            readable := coherent.readable
            copied := coherent.copied
            missing := coherent.missing
            distinct := coherent.distinct
            copy := coherent.copy
            cached := by
              rintro _ ⟨⟩
              exact ⟨snapshot, copied, Nat.le_refl _, Nat.le_refl _,
                fun _ _ => builds⟩ }
      refine Meets.bind notes fun _ => meets_pure ?_
      rintro world ⟨coherent, same, rfl⟩
      exact ⟨coherent, same, snapshot, readable, rfl, builds⟩

theorem meets_catalog (today : NaiveDate) (timezone : String) :
    Meets (Coherent lib) (cachedCatalog lib today timezone)
      (fun _ => Coherent lib) (fun _ => Coherent lib) := by
  apply meets_of_states
  intro world coherent
  refine (meets_cachedCatalog today timezone world.service world.disk).weaken
    ?_ (fun _ _ holds => holds.1) (fun _ _ coherent => coherent)
  rintro _ rfl
  exact ⟨coherent, rfl, rfl⟩

theorem meets_agendaList (context : Context) (request : ListRequest) :
    Meets (Coherent lib) (agendaList lib context request)
      (fun _ => Coherent lib) (fun _ => Coherent lib) := by
  rw [agendaList]
  refine Meets.bind (meets_lift context) fun now => ?_
  refine Meets.bind (meets_catalog _ _) fun reading => ?_
  refine Meets.bind (meets_lift _) fun result => ?_
  exact meets_pure fun _ coherent => coherent

theorem meets_agendaMarkers (context : Context) (request : MarkersRequest) :
    Meets (Coherent lib) (agendaMarkers lib context request)
      (fun _ => Coherent lib) (fun _ => Coherent lib) := by
  rw [agendaMarkers]
  refine Meets.bind (meets_lift context) fun now => ?_
  refine Meets.bind (meets_catalog _ _) fun reading => ?_
  refine Meets.bind (meets_lift _) fun result => ?_
  exact meets_pure fun _ coherent => coherent

theorem meets_agendaGet (context : Context) (id : String) :
    Meets (Coherent lib) (agendaGet lib context id) (fun _ => Coherent lib)
      (fun _ => Coherent lib) := by
  rw [agendaGet]
  refine meets_ensure_bind (fun _ coherent => coherent) fun _ => ?_
  refine Meets.bind (meets_lift context) fun now => ?_
  refine Meets.bind (meets_catalog _ _) fun reading => ?_
  refine Meets.bind ((meets_required _ _).weaken (fun _ coherent => coherent)
    (fun _ _ holds => holds.2) (fun _ _ coherent => coherent)) fun item => ?_
  exact meets_pure fun _ coherent => coherent

end BarDaemon.AgendaService
