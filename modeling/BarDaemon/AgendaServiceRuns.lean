import BarDaemon.AgendaDayBounds
import BarDaemon.AgendaServiceRequests

/-!
# Runs of the agenda service

After any requests, whatever becomes of the database, the copy is what the
store holds or the store takes no more changes.
-/

namespace BarDaemon.AgendaService

open Agendas Agendas.Store Attempt Calendars TransitionRuns

variable {lib : Libraries}

/-! ## Starting and stopping -/

/-- A store that has stopped stays so. -/
def Halts (before after : World) : Prop :=
  before.Stopped → after.Stopped

instance : Std.Refl Halts where
  refl _ := id

instance : IsTrans World Halts where
  trans _ _ _ before after := after ∘ before

/-- Jobs do not open a store that is fenced. -/
theorem halts_call {Value : Type}
    {job : Answer → Agendas.Store → Except String Value × Agendas.Store}
    (fenced : ∀ answer disk, disk.blocked = true →
      (job answer disk).2.blocked = true) :
    Within Halts (call job) := by
  intro world stopped
  unfold call
  split
  · rename_i running
    have blocked : world.disk.blocked = true :=
      stopped.resolve_left (by simp [running])
    dsimp only
    split
    · exact .inr (fenced _ _ blocked)
    · exact .inl rfl
    · exact .inl rfl
  · exact stopped

/-- Nothing that the worker is asked to do starts a store that has stopped. -/
theorem stopped_stays (lib : Libraries) :
    (∀ {Value : Type} (query : Agendas.Store → Except String Value),
      Within Halts (call (reading query))) ∧
    (∀ mutation, Within Halts (storeMutate lib mutation)) ∧
    Within Halts (call fun answer disk =>
      disk.invalidateCatalog answer.outcome) := by
  refine ⟨fun query => halts_call ?_, fun mutation => ?_, halts_call ?_⟩
  · intro answer disk blocked
    unfold reading
    split <;> exact blocked
  · refine (within_lift _ _).bind fun _ => halts_call ?_
    intro answer disk blocked
    obtain ⟨error, same⟩ := submit_blocked blocked
      ⟨mutation, answer.now, answer.outcome⟩
    rw [same]
    exact blocked
  · intro answer disk blocked
    rcases disk.invalidateCatalog_spec answer.outcome with
      ⟨error, stays, same, kept⟩ | ⟨open_, -⟩
    · rw [same]
      exact kept blocked
    · rw [blocked] at open_
      cases open_

theorem meets_shutdown :
    Meets (Coherent lib) shutdown (fun _ => Coherent lib)
      (fun _ => Coherent lib) := by
  rw [shutdown]
  apply meets_readService_bind
  intro service
  cases worker : service.worker with
  | missing => exact meets_pure fun _ holds => holds.2
  | closed => exact meets_fail fun _ holds => holds.2
  | running =>
      refine meets_change ?_
      rintro world ⟨rfl, coherent⟩
      have known : world.service.worker ≠ .missing := by simp [worker]
      exact coherent.stop .closed known (by simp) (coherent.sound known)
        (.inl rfl) fun _ copied => coherent.behind copied

theorem meets_start :
    Meets (Coherent lib) (start lib) (fun _ => Coherent lib)
      (fun _ => Coherent lib) := by
  rw [start]
  have begun : Meets (Coherent lib) (changeService fun _ => .initial)
      (fun _ => Unopened lib none) (fun _ => Coherent lib) := by
    refine meets_change ?_
    intro world coherent
    have empty := coherent.unopened world.disk .initial rfl rfl rfl rfl rfl
      world.answers
    exact ⟨empty.holding, rfl⟩
  refine Meets.bind begun fun _ => ?_
  have opens : Meets (Unopened lib none) ((openAgenda lib).catching some)
      (handled (fun snapshot => Ready lib snapshot) fun _ => Unopened lib none)
      (fun _ => Coherent lib) :=
    Meets.catching (meets_openAgenda.weaken (fun _ unopened => unopened)
      (fun _ _ ready => ready.2) (fun _ _ unopened => unopened))
  apply Meets.bind opens
  rintro (error | snapshot)
  · refine meets_change ?_
    rintro world ⟨held, missing⟩
    have empty := (Unopened.mk held missing).empty
    exact held.coherent.unopened world.disk
      { world.service with todoError := some (lib.unavailable error) } rfl rfl
      missing empty.1 empty.2.1 world.answers
  · refine meets_change ?_
    intro world ready
    exact Ready.opened ready

theorem meets_forget {Value : Type} {attempt : Effect Value}
    (spec : Meets (Coherent lib) attempt (fun _ => Coherent lib)
      (fun _ => Coherent lib)) :
    Meets (Coherent lib) (forget attempt) (fun _ => Coherent lib)
      (fun _ => Coherent lib) :=
  Meets.bind spec fun _ => meets_pure fun _ coherent => coherent

theorem meets_asked {attempt : Effect MutationResult}
    (spec : Meets (Holding lib none) attempt
      (fun result world => Shown lib result world)
      (fun _ => Holding lib none)) :
    Meets (Coherent lib) (forget attempt) (fun _ => Coherent lib)
      (fun _ => Coherent lib) :=
  meets_forget (spec.weaken (fun _ coherent => coherent.holding)
    (fun _ _ shown => shown.coherent) (fun _ _ held => held.coherent))

/-! ## Runs -/

section Runs

variable (printed : ∀ text, IsFingerprint (lib.digest text) = true)
include printed

theorem meets_perform (request : Request) :
    Meets (Coherent lib) (perform lib request) (fun _ => Coherent lib)
      (fun _ => Coherent lib) := by
  cases request with
  | create requestId item =>
      rw [perform]
      exact meets_asked (meets_agendaCreate printed requestId item)
  | patch requestId id revision fields =>
      rw [perform]
      exact meets_asked (meets_agendaPatch printed requestId id revision fields)
  | delete requestId id revision =>
      rw [perform]
      exact meets_asked (meets_agendaDelete printed requestId id revision)
  | createTodo title dueUnixMs dueDate priority context now =>
      rw [perform]
      exact meets_forget
        (meets_createTodo printed title dueUnixMs dueDate priority context now)
  | completeTodo id completed completedAt now =>
      rw [perform]
      exact meets_forget
        (meets_completeTodo printed id completed completedAt now)
  | deleteTodo id now =>
      rw [perform]
      exact meets_deleteTodo printed id now
  | receipt requestId =>
      rw [perform]
      exact meets_forget (meets_receipt requestId)
  | list context request =>
      rw [perform]
      exact meets_forget (meets_agendaList context request)
  | markers context request =>
      rw [perform]
      exact meets_forget (meets_agendaMarkers context request)
  | get context id =>
      rw [perform]
      exact meets_forget (meets_agendaGet context id)
  | refresh config load =>
      rw [perform]
      exact meets_refresh config load
  | shutdown =>
      rw [perform]
      exact meets_shutdown
  | restart =>
      rw [perform]
      exact meets_start

theorem coherent_perform {world : World} (coherent : Coherent lib world)
    (request : Request) : Coherent lib (perform lib request world).2 := by
  have keeps := meets_perform printed request
  have reached := keeps.after coherent
  exact reached

theorem coherent_step {world : World} (coherent : Coherent lib world)
    (turn : Turn) : Coherent lib (step lib world turn) := by
  have ready : Coherent lib { world with answers := turn.answers } :=
    coherent.congr rfl rfl rfl rfl rfl rfl rfl
  exact coherent_perform printed ready turn.request

theorem coherent_run {world : World} (coherent : Coherent lib world)
    (turns : List Turn) : Coherent lib (run (step lib) world turns) := by
  have always : StepsMeet (step lib) (fun _ _ => True) world turns :=
    stepsMeet_of_forall (fun _ _ => trivial) world turns
  apply invariant_run _ coherent always
  exact fun _ turn coherent _ => coherent_step printed coherent turn

/-- The process has been started with some store, and asked for something. -/
def Reached (lib : Libraries) (world : World) : Prop :=
  ∃ disk answers turns, (disk.items.map ItemRow.id).Nodup ∧
    (disk.receipts.map Receipt.requestId).Nodup ∧
      world = run (step lib) ⟨.initial, disk, answers⟩ turns

omit printed in
theorem coherent_initial {disk : Agendas.Store}
    (ids : (disk.items.map ItemRow.id).Nodup)
    (requests : (disk.receipts.map Receipt.requestId).Nodup)
    (answers : List Answer) : Coherent lib ⟨.initial, disk, answers⟩ where
  ids
  requests
  sound known := absurd rfl known
  readable known := absurd rfl known
  copied known := absurd rfl known
  missing _ := rfl
  distinct := by rintro _ ⟨⟩
  copy := by rintro _ ⟨⟩
  cached := by rintro _ ⟨⟩

theorem Reached.coherent {world : World} (reached : Reached lib world) :
    Coherent lib world := by
  obtain ⟨disk, answers, turns, ids, requests, rfl⟩ := reached
  exact coherent_run printed (coherent_initial ids requests answers) turns

/-- The copy is what the store holds, unless the store has stopped; then what
the copy lacks has a receipt. -/
theorem copy_follows_store {world : World} (reached : Reached lib world) :
    (world.service.worker ≠ .missing → world.service.snapshot.isSome) ∧
      ∀ snapshot, world.service.snapshot = some snapshot →
        Current snapshot world.disk ∨
          (world.Stopped ∧ Behind snapshot world.disk) := by
  have coherent := reached.coherent printed
  exact ⟨coherent.copied, coherent.copy⟩

/-- A catalog that is read is the one that the copy and the imports give
now. -/
theorem catalog_is_fresh {world : World} (reached : Reached lib world)
    (today : NaiveDate) (timezone : String) :
    Meets (fun other => other = world) (cachedCatalog lib today timezone)
      (fun reading after => after.disk = world.disk ∧
        ∃ snapshot, world.service.snapshot = some snapshot ∧
          reading.revision = snapshot.catalogRevision ∧
            buildCatalog lib snapshot world.service.events today timezone =
                .ok (reading.catalog, reading.imports) ∧
              (Current snapshot world.disk ∨
                (world.Stopped ∧ Behind snapshot world.disk)))
      (fun _ => Coherent lib) := by
  have coherent := reached.coherent printed
  refine (meets_cachedCatalog today timezone world.service world.disk).weaken
    ?_ ?_ (fun _ _ kept => kept)
  · rintro _ rfl
    exact ⟨coherent, rfl, rfl⟩
  · rintro reading after ⟨_, same, snapshot, readable, revision, built⟩
    have copied := snapshot_of_readable readable
    exact ⟨same, snapshot, copied, revision, built,
      coherent.copy snapshot copied⟩

omit printed in
/-- `agenda_create`, `agenda_patch` or `agenda_delete` -/
def mutateAgenda (lib : Libraries) : Mutation → Effect MutationResult
  | .create requestId item => agendaCreate lib requestId item
  | .patch requestId id revision fields =>
      agendaPatch lib requestId id revision fields
  | .delete requestId id revision => agendaDelete lib requestId id revision

theorem meets_mutateAgenda {saved : Option Snapshot} (mutation : Mutation) :
    Meets (Holding lib saved) (mutateAgenda lib mutation)
      (fun result world => Shown lib result world)
      (fun _ => Holding lib saved) := by
  cases mutation with
  | create requestId item => exact meets_agendaCreate printed requestId item
  | patch requestId id revision fields =>
      exact meets_agendaPatch printed requestId id revision fields
  | delete requestId id revision =>
      exact meets_agendaDelete printed requestId id revision

/-- What has been answered is in the copy, and a failure leaves the copy as it
is. -/
theorem mutation_reaches_copy {world : World} (reached : Reached lib world)
    (mutation : Mutation) (answers : List Answer) :
    Meets (fun other => other = { world with answers })
      (mutateAgenda lib mutation)
      (fun result after =>
        ∃ snapshot, after.service.snapshot = some snapshot ∧
          Current snapshot after.disk ∧
            result.catalogRevision ≤ snapshot.catalogRevision ∧
              ∃ receipt ∈ after.disk.receipts, receipt.payload = result)
      (fun _ after => ∀ snapshot, world.service.snapshot = some snapshot →
        after.service.snapshot = some snapshot) := by
  have coherent := reached.coherent printed
  have ready : Coherent lib { world with answers } :=
    coherent.congr rfl rfl rfl rfl rfl rfl rfl
  refine (@meets_mutateAgenda lib printed world.service.snapshot
    mutation).weaken ?_ ?_ ?_
  · rintro _ rfl
    exact ready.held
  · rintro result after ⟨_, ⟨snapshot, copied, current⟩, recorded, bound⟩
    refine ⟨snapshot, copied, current, ?_, recorded⟩
    rw [current.revision]
    exact bound
  · exact fun _ after held => held.kept

/-- A receipt that is beyond the copy brings the copy up to date. -/
theorem receipt_updates_copy {world : World} (reached : Reached lib world)
    (id : String) (answers : List Answer) :
    Meets (fun other => other = { world with answers }) (agendaReceipt lib id)
      (fun receipt after => ∀ result, receipt = some result →
        world.service.cachedRevision < result.catalogRevision →
          ∃ snapshot, after.service.snapshot = some snapshot ∧
            Current snapshot after.disk)
      (fun _ => Coherent lib) := by
  have coherent := reached.coherent printed
  have ready : Coherent lib { world with answers } :=
    coherent.congr rfl rfl rfl rfl rfl rfl rfl
  refine (meets_agendaReceipt id world.service.cachedRevision).weaken ?_
    (fun _ _ holds => holds.2) (fun _ _ kept => kept)
  rintro _ rfl
  exact ⟨ready, rfl⟩

end Runs

/-! ## A run -/

def standUp : ActivityEvent where
  id := "work:standup-1:1767261600000".toList
  sourceId := "work".toList
  calendarName := "work".toList
  color := []
  title := "Stand-up".toList
  startUnixMs := 1767261600000
  endUnixMs := 1767265200000
  allDay := false
  startDate := none
  endDate := none
  timezone := none
  location := []
  url := []

/-- The imported events, as they are digested. -/
def standUpText : String :=
  "[\x7b\"id\":\"ics:8616a4904297a07c0fe1623eaef3d64cd32e5380a4447ccb6f813aafe4519ee9\"," ++
    "\"kind\":\"event\",\"source_id\":\"work\"," ++
    "\"source_uid\":\"standup-1\",\"revision\":1,\"title\":\"Stand-up\"," ++
    "\"notes\":\"\",\"links\":[],\"schedule\":\x7b\"mode\":\"timed\"," ++
    "\"start_date\":null,\"end_date\":null," ++
    "\"start_unix_ms\":1767261600000,\"end_unix_ms\":1767265200000," ++
    "\"timezone\":\"UTC\"\x7d,\"created_unix_ms\":0,\"modified_unix_ms\":0," ++
    "\"capabilities\":\x7b\"write\":false,\"delete\":false," ++
    "\"complete\":false\x7d,\"event\":\x7b\"location\":\"\",\"people\":[]," ++
    "\"status\":\"\"\x7d,\"task\":null\x7d]"

/-- The digests of two imported identities and of the imports. -/
def sampleDigest (text : String) : String :=
  if text = "[\"work\",\"standup-1\"]" then
    "8616a4904297a07c0fe1623eaef3d64cd32e5380a4447ccb6f813aafe4519ee9"
  else if text = "[\"home\",\"dentist-7\"]" then
    "45132aabbe3f23a4167d2dba128dcafec68514bef78f9cbd6dd970973a94b73f"
  else if text = standUpText then
    "2cbb2bdf3f23f077cf9f00740084972f7e87d8f4a35371565969b8277c1df41d"
  else sampleFingerprint text

theorem sampleDigest_printed (text : String) :
    IsFingerprint (sampleDigest text) = true := by
  unfold sampleDigest
  split_ifs
  · decide +kernel
  · decide +kernel
  · decide +kernel
  · exact sampleFingerprint_printed text

def utc : ZoneTable where
  initial := 0
  transitions := []
  sorted := List.Pairwise.nil
  bounded := by decide

def sampleLibraries : Libraries where
  calendar := sampleCalendar
  digest := sampleDigest
  lowercase := asciiLowercase
  readCursor _ := .error "invalid cursor"
  zone _ := tableZone utc
  chain error := [.other error]

/-- The store has been opened, and a commit has lasted without an answer. -/
def sampleTurns : List Turn :=
  [⟨.restart, []⟩,
    ⟨.create "r1" sampleItem,
      [.smooth, ⟨none, ⟨none, false, true, true, true⟩, ⟨1000, thousand_i64⟩,
        .told⟩]⟩]

def sampleWorld : World :=
  run (step sampleLibraries) ⟨.initial, sampleStore, []⟩ sampleTurns

theorem sampleWorld_reached : Reached sampleLibraries sampleWorld :=
  ⟨sampleStore, [], sampleTurns, by decide, by decide, rfl⟩

theorem copy_follows_store_sample :
    (sampleWorld.service.worker ≠ .missing →
        sampleWorld.service.snapshot.isSome) ∧
      sampleWorld.disk.blocked = true ∧
        sampleWorld.service.cachedRevision = 0 ∧
          sampleWorld.disk.catalogRevision = 1 :=
  ⟨(copy_follows_store sampleDigest_printed sampleWorld_reached).1,
    by decide +kernel⟩

theorem receipt_updates_copy_sample :
    Meets (fun other => other = { sampleWorld with answers := [] })
        (agendaReceipt sampleLibraries "r1")
        (fun receipt after => ∀ result, receipt = some result →
          sampleWorld.service.cachedRevision < result.catalogRevision →
            ∃ snapshot, after.service.snapshot = some snapshot ∧
              Current snapshot after.disk)
        (fun _ => Coherent sampleLibraries) ∧
      (agendaReceipt sampleLibraries "r1"
        { sampleWorld with answers := [] }).2.service.cachedRevision = 1 :=
  ⟨receipt_updates_copy sampleDigest_printed sampleWorld_reached "r1" [],
    by decide +kernel⟩

/-- Then the process is started again. -/
def restartedTurns : List Turn :=
  sampleTurns ++ [⟨.restart, []⟩]

def restartedWorld : World :=
  run (step sampleLibraries) ⟨.initial, sampleStore, []⟩ restartedTurns

theorem restartedWorld_reached : Reached sampleLibraries restartedWorld :=
  ⟨sampleStore, [], restartedTurns, by decide, by decide, rfl⟩

theorem mutation_reaches_copy_sample :
    Meets (fun other => other = { restartedWorld with answers := [] })
        (mutateAgenda sampleLibraries (.create "r1" sampleItem))
        (fun result after =>
          ∃ snapshot, after.service.snapshot = some snapshot ∧
            Current snapshot after.disk ∧
              result.catalogRevision ≤ snapshot.catalogRevision ∧
                ∃ receipt ∈ after.disk.receipts, receipt.payload = result)
        (fun _ after => ∀ snapshot,
          restartedWorld.service.snapshot = some snapshot →
            after.service.snapshot = some snapshot) ∧
      restartedWorld.service.cachedRevision = 1 :=
  ⟨mutation_reaches_copy sampleDigest_printed restartedWorld_reached
    (.create "r1" sampleItem) [], by decide +kernel⟩

theorem sampleDay_valid : 1 ≤ 1 ∧ 1 ≤ daysIn 2026 1 := by decide

def sampleToday : NaiveDate :=
  ⟨2026, 1, 1, NaiveDate.year_2026_valid, NaiveDate.january_valid,
    sampleDay_valid⟩

def sampleSources : List CalendarSourceConfig :=
  [⟨"work", "", "ics"⟩, ⟨"home", "", "ics"⟩]

/-- Only one of the files can be read. -/
def firstLoad (source : CalendarSourceConfig) :
    Except String (List ActivityEvent) :=
  if source.id = "work" then .ok [standUp] else .error "read iCalendar file"

/-- The calendars are refreshed, and their catalog is read. -/
def readTurns : List Turn :=
  [⟨.restart, []⟩, ⟨.refresh (.ok sampleSources) firstLoad, []⟩,
    ⟨.get (.ok (sampleToday, "UTC"))
      "ics:8616a4904297a07c0fe1623eaef3d64cd32e5380a4447ccb6f813aafe4519ee9", []⟩]

def readWorld : World :=
  run (step sampleLibraries) ⟨.initial, sampleStore, []⟩ readTurns

theorem readWorld_reached : Reached sampleLibraries readWorld :=
  ⟨sampleStore, [], readTurns, by decide, by decide, rfl⟩

/-- The catalog has been kept, and is read again. -/
theorem catalog_is_fresh_sample :
    readWorld.service.events = [standUp] ∧
      (readWorld.service.agendaCatalog.any fun cached =>
        cached.isOf 1 1 sampleToday "UTC") = true ∧
      (cachedCatalog sampleLibraries sampleToday "UTC" readWorld).1.map
          (fun reading => (reading.revision, reading.imports)) =
        .ok (1,
          "2cbb2bdf3f23f077cf9f00740084972f7e87d8f4a35371565969b8277c1df41d") ∧
      Meets (fun other => other = readWorld)
        (cachedCatalog sampleLibraries sampleToday "UTC")
        (fun reading after => after.disk = readWorld.disk ∧
          ∃ snapshot, readWorld.service.snapshot = some snapshot ∧
            reading.revision = snapshot.catalogRevision ∧
              buildCatalog sampleLibraries snapshot readWorld.service.events
                  sampleToday "UTC" =
                  .ok (reading.catalog, reading.imports) ∧
                (Current snapshot readWorld.disk ∨
                  (readWorld.Stopped ∧ Behind snapshot readWorld.disk)))
        (fun _ => Coherent sampleLibraries) :=
  ⟨by decide +kernel, by decide +kernel, by decide +kernel,
    catalog_is_fresh sampleDigest_printed readWorld_reached _ "UTC"⟩

end BarDaemon.AgendaService
