import BarDaemon.AgendaRecords

/-!
# Creating and patching agenda records

What a new item becomes, and what a patch makes of a stored record.
-/

namespace BarDaemon.Agendas

open CompactJson FallibleSteps

/-! ## Requests -/

structure NewItem where
  kind : ItemKind
  title : String
  notes : String
  links : List Link
  schedule : Schedule
  event : Option EventDetails
  task : Option TaskDetails
deriving DecidableEq, Repr

structure ItemPatch where
  title : Option String
  notes : Option String
  links : Option (List Link)
  schedule : Option Schedule
  event : Option EventDetails
  task : Option TaskDetails
deriving DecidableEq, Repr

/-- `Capabilities::local` -/
def Capabilities.ofLocal : Capabilities where
  write := true
  delete := true
  complete := true

/-- `EventDetails::default` -/
def EventDetails.default : EventDetails where
  location := ""
  people := []
  status := ""

/-- `TaskDetails::default` -/
def TaskDetails.default : TaskDetails where
  priority := ⟨0, zero_i64⟩
  status := ""
  completed := false
  completedUnixMs := none
  checklist := []

/-! ## Creation -/

/-- A completed task without a completion time was completed now. -/
def TaskDetails.stamped (task : TaskDetails) (now : I64) : TaskDetails :=
  if task.completed && task.completedUnixMs.isNone then
    { task with completedUnixMs := some now }
  else
    task

def createRecord (id : String) (item : NewItem) (now : I64) : Record where
  id := id
  kind := item.kind
  sourceId := "local"
  sourceUid := none
  revision := ⟨1, one_le_u64Max⟩
  title := item.title
  notes := item.notes
  links := item.links
  schedule := item.schedule
  createdUnixMs := now
  modifiedUnixMs := now
  capabilities := { Capabilities.ofLocal with complete := item.kind == .task }
  event :=
    match item.kind with
    | .event => some (item.event.getD .default)
    | .task => item.event
  task :=
    (match item.kind with
      | .event => item.task
      | .task => some (item.task.getD .default)).map
        fun task : TaskDetails => task.stamped now

/-! ## Patches -/

/-- The completion time of a patched task. -/
def completionTime (task old : TaskDetails) (now : I64) : Option I64 :=
  match task.completed, task.completedUnixMs, old.completed with
  | false, _, _ => none
  | true, some instant, _ => some instant
  | true, none, true => old.completedUnixMs
  | true, none, false => some now

def patchTask (record : Record) (task : TaskDetails) (now : I64) :
    Except String Record := do
  ensure (record.kind == .task) "task fields on event"
  match record.task with
  | none => .error "task details required"
  | some old => do
      ensure (task.completed == old.completed || record.capabilities.complete)
        "source cannot complete"
      let completedUnixMs := completionTime task old now
      return { record with task := some { task with completedUnixMs } }

/-- The task of a patch. -/
def patchTasks (record : Record) (patch : ItemPatch) (now : I64) :
    Except String Record :=
  match patch.task with
  | some task => patchTask record task now
  | none => .ok record

/-- `checked_add(1)` -/
def nextRevision (revision : U64) : Except String U64 :=
  if fits : revision.val + 1 ≤ u64Max then
    .ok ⟨revision.val + 1, fits⟩
  else
    .error "revision exhausted"

/-- The fields of a patch other than its task. -/
def ItemPatch.replace (patch : ItemPatch) (record : Record) : Record :=
  { record with
    title := patch.title.getD record.title
    notes := patch.notes.getD record.notes
    links := patch.links.getD record.links
    schedule := patch.schedule.getD record.schedule
    event := patch.event.or record.event }

def patchRecord (calendar : Calendar) (record : Record)
    (expectedRevision : U64) (patch : ItemPatch) (now : I64) :
    Except String Record := do
  ensure (record.revision == expectedRevision) "revision conflict"
  ensure record.capabilities.write "source is read-only"
  let tasked ← patchTasks record patch now
  let revision ← nextRevision tasked.revision
  let patched : Record :=
    { patch.replace tasked with
      revision := revision
      modifiedUnixMs := now }
  patched.validate calendar
  return patched

/-- What an accepted patch makes of a record: the patched fields are the ones
of the patch, the revision is the next one, and the other fields stay. -/
structure Patched (calendar : Calendar) (record : Record) (patch : ItemPatch)
    (now : I64) (patched : Record) : Prop where
  valid : patched.validate calendar = .ok ()
  revision : patched.revision.val = record.revision.val + 1
  modified : patched.modifiedUnixMs = now
  id : patched.id = record.id
  kind : patched.kind = record.kind
  source : patched.sourceId = record.sourceId
  uid : patched.sourceUid = record.sourceUid
  created : patched.createdUnixMs = record.createdUnixMs
  capabilities : patched.capabilities = record.capabilities
  title : patched.title = patch.title.getD record.title
  notes : patched.notes = patch.notes.getD record.notes
  links : patched.links = patch.links.getD record.links
  schedule : patched.schedule = patch.schedule.getD record.schedule
  event : patched.event = patch.event.or record.event
  /-- Only a patch of the task touches it, and of the details of that patch
  only the completion time can be another one. -/
  task :
    match patch.task with
    | none => patched.task = record.task
    | some task => ∃ old, record.task = some old ∧
        patched.task =
          some { task with completedUnixMs := completionTime task old now }
  /-- A completion time belongs to a completed task. -/
  completion : ∀ task, patched.task = some task →
    task.completedUnixMs.isSome → patched.kind = .task ∧ task.completed = true

/-- A completion time of a valid record belongs to a completed task. -/
theorem completed_of_validate {calendar : Calendar} {item : Record}
    (valid : item.validate calendar = .ok ()) {task : TaskDetails}
    (present : item.task = some task) (timed : task.completedUnixMs.isSome) :
    item.kind = .task ∧ task.completed = true := by
  rw [Record.validate] at valid
  simp only [bind_eq_ok_iff] at valid
  obtain ⟨_, _, _, _, _, _, _, _, _, _, _, _, _, _, _, _, _, _, _, _, _, details,
    _⟩ := valid
  rw [Record.validateDetails] at details
  cases kind : item.kind with
  | event =>
      simp only [kind, present, bind_eq_ok_iff, ensure_eq_ok_iff] at details
      obtain ⟨_, _, _, absent, _⟩ := details
      cases absent
  | task =>
      simp only [kind, present, bind_eq_ok_iff, ensure_eq_ok_iff] at details
      obtain ⟨_, _, checked⟩ := details
      simp only [TaskDetails.validate, bind_eq_ok_iff, ensure_eq_ok_iff]
        at checked
      obtain ⟨_, _, _, open_, _⟩ := checked
      cases completed : task.completed with
      | true => exact ⟨rfl, rfl⟩
      | false =>
          rw [completed, Bool.false_or, Option.isNone_iff_eq_none] at open_
          rw [open_] at timed
          cases timed

theorem patchTask_eq_ok {record tasked : Record} {task : TaskDetails}
    {now : I64} (succeeded : patchTask record task now = .ok tasked) :
    ∃ old, record.task = some old ∧
      tasked = { record with
        task := some
          { task with completedUnixMs := completionTime task old now } } := by
  rw [patchTask, ensure_then_eq_ok_iff] at succeeded
  obtain ⟨_, succeeded⟩ := succeeded
  cases present : record.task with
  | none =>
      rw [present] at succeeded
      cases succeeded
  | some old =>
      rw [present] at succeeded
      simp only [ensure_then_eq_ok_iff] at succeeded
      exact ⟨old, rfl, (Except.ok.inj succeeded.2).symm⟩

/-- Only the task details of the record are touched. -/
theorem patchTasks_eq_ok {record tasked : Record} {patch : ItemPatch}
    {now : I64} (succeeded : patchTasks record patch now = .ok tasked) :
    ∃ details, tasked = { record with task := details } ∧
      match patch.task with
      | none => details = record.task
      | some task => ∃ old, record.task = some old ∧
          details =
            some { task with
              completedUnixMs := completionTime task old now } := by
  rw [patchTasks] at succeeded
  cases requested : patch.task with
  | none =>
      rw [requested] at succeeded
      exact ⟨record.task, (Except.ok.inj succeeded).symm, rfl⟩
  | some task =>
      rw [requested] at succeeded
      obtain ⟨old, present, same⟩ := patchTask_eq_ok succeeded
      exact ⟨_, same, old, present, rfl⟩

theorem nextRevision_eq_ok {revision next : U64}
    (succeeded : nextRevision revision = .ok next) :
    next.val = revision.val + 1 := by
  rw [nextRevision] at succeeded
  split at succeeded
  · exact congrArg Subtype.val (Except.ok.inj succeeded).symm
  · cases succeeded

/-- Only a record that is at the revision is patched. -/
theorem patched_of_patchRecord {calendar : Calendar} {record patched : Record}
    {expectedRevision : U64} {patch : ItemPatch} {now : I64}
    (succeeded :
      patchRecord calendar record expectedRevision patch now = .ok patched) :
    record.revision = expectedRevision ∧
      Patched calendar record patch now patched := by
  rw [patchRecord, ensure_then_eq_ok_iff, ensure_then_eq_ok_iff] at succeeded
  obtain ⟨current, _, succeeded⟩ := succeeded
  simp only [bind_eq_ok_iff] at succeeded
  obtain ⟨tasked, tasks, revision, counted, _, valid, done⟩ := succeeded
  obtain ⟨details, rfl, task⟩ := patchTasks_eq_ok tasks
  obtain rfl := Except.ok.inj done
  have next := nextRevision_eq_ok counted
  constructor
  · exact beq_iff_eq.mp current
  · exact {
      valid := valid
      revision := next
      modified := rfl
      id := rfl
      kind := rfl
      source := rfl
      uid := rfl
      created := rfl
      capabilities := rfl
      title := rfl
      notes := rfl
      links := rfl
      schedule := rfl
      event := rfl
      task := task
      completion := fun _ => completed_of_validate valid }

end BarDaemon.Agendas
