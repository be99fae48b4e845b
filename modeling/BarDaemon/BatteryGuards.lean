import BarDaemon.BatteryRequests
import BarDaemon.Traces
import Mathlib.Data.List.Infix

/-!
# What the battery daemon keeps

A recorded debt is paid before its record goes, a fence stays until the
battery has answered, a file that cannot be read is not overwritten, and the
files account for every write.
-/

namespace BarDaemon.BatteryProtection

open Attempt Effect

/-! ### Debts and fences -/

/-- The record owes the battery the thresholds from before. -/
def Runtime.Owes (runtime : Runtime) (batteryId : String)
    (target : Thresholds) : Prop :=
  (runtime.chargeOnceActive = true ∧ runtime.chargeOnceBatteryId = batteryId ∧
    runtime.restoration = some target) ∨
  (runtime.calibrates batteryId = true ∧
    runtime.operationRestoration = some target)

/-- Two operations are not recorded at once. -/
def Runtime.Single (runtime : Runtime) : Prop :=
  runtime.chargeOnceActive = true → runtime.operation = .none

/-- What is read of the runtime record. -/
def Document.record (document : Document Runtime) : Option Runtime :=
  (document.load .default none).toOption

namespace World

def record (world : World) : Option Runtime :=
  world.runtime.record

def Owes (world : World) (batteryId : String) (target : Thresholds) : Prop :=
  ∃ runtime, world.record = some runtime ∧ runtime.Owes batteryId target

def Fenced (world : World) (batteryId : String) : Prop :=
  ∃ runtime, world.record = some runtime ∧
    batteryId ∈ runtime.authorizationUncertainBatteries

def Single (world : World) : Prop :=
  ∀ runtime, world.record = some runtime → runtime.Single

/-- What is new in the log. -/
def since (world origin : World) : List Mark :=
  world.log.drop origin.log.length

end World

/-- The configuration is read as this one. -/
def Document.Gives (document : Document Config) (config : Config) : Prop :=
  document.load .default none = .ok config ∧ config.validate = .ok ()

def Document.Loads (document : Document Config) : Prop :=
  ∃ config, document.Gives config

/-! ### Evidence -/

/-- The battery has these thresholds. -/
def Shown (batteryId : String) (target : Thresholds)
    (marks : List Mark) : Prop :=
  .confirmed batteryId target ∈ marks ∨ .found batteryId target ∈ marks

/-- The battery has answered. -/
def Known (batteryId : String) (marks : List Mark) : Prop :=
  .answered batteryId ∈ marks ∨ ∃ target, .found batteryId target ∈ marks

theorem Shown.mono {batteryId : String} {target : Thresholds}
    {marks more : List Mark} (shown : Shown batteryId target marks)
    (sub : marks ⊆ more) : Shown batteryId target more :=
  shown.imp (@sub _) (@sub _)

theorem Known.mono {batteryId : String} {marks more : List Mark}
    (known : Known batteryId marks) (sub : marks ⊆ more) :
    Known batteryId more :=
  known.imp (@sub _) (Exists.imp fun _ found => sub found)

/-! ### Accounts -/

/-- The configuration asks for these thresholds. -/
def Configures (document : Document Config) (batteryId : String)
    (target : Thresholds) : Prop :=
  ∃ config, document.Gives config ∧
    (config.device batteryId).manageThresholds = true ∧
    (config.device batteryId).desiredThresholds = target

/-- The thresholds from before are restored, or the configured ones where
none have been recorded. -/
def Restores (document : Document Config) (runtime : Runtime)
    (batteryId : String) (target : Thresholds) : Prop :=
  (runtime.chargeOnceTargets batteryId = true ∧
    (runtime.restoration = some target ∨
      runtime.restoration = none ∧
        Configures document batteryId target)) ∨
  (runtime.calibrates batteryId = true ∧
    runtime.operationRestoration = some target)

/-- The record says that the thresholds of the battery are lifted. -/
def Lifts (runtime : Runtime) (batteryId : String) : Prop :=
  runtime.chargeOnceTargets batteryId = true ∨
    runtime.calibrates batteryId = true

/-- The record accounts for a behaviour other than the usual. -/
def Accounts (runtime : Runtime) (batteryId behaviour : String) : Prop :=
  behaviour = "auto" ∨
    (behaviour = "force-discharge" ∧ runtime.calibrates batteryId = true) ∨
    (behaviour = "inhibit-charge" ∧ runtime.operation = .inhibit ∧
      runtime.operationBatteryId = batteryId)

/-- The files account for what the helper is asked. -/
def Mark.Accounted : Mark → Prop
  | .asked batteryId target config runtime =>
      Configures config batteryId target ∨
        ∃ record, runtime.record = some record ∧
          ((target = (0, 100) ∧ Lifts record batteryId) ∨
            Restores config record batteryId target)
  | .told batteryId behaviour runtime =>
      behaviour = "auto" ∨ ∃ record, runtime.record = some record ∧
        Accounts record batteryId behaviour
  | _ => True

/-- A battery that was fenced is left alone, apart from restoring it, until it
has answered.  A record that cannot be read fences nothing. -/
def Mark.Heeds (origin : World) (before : List Mark) : Mark → Prop
  | .asked batteryId target config runtime =>
      origin.Fenced batteryId →
        Known batteryId before ∨ .unread ∈ before ∨
          ∃ record, runtime.record = some record ∧
            Restores config record batteryId target
  | .told batteryId behaviour _ =>
      origin.Fenced batteryId →
        Known batteryId before ∨ .unread ∈ before ∨ behaviour = "auto"
  | _ => True

def Mark.Allowed (automatic : Bool) (origin : World) (before : List Mark)
    (mark : Mark) : Prop :=
  mark.Accounted ∧ (automatic = true → mark.Heeds origin before)

/-! ### Fences that are raised -/

/-- A record that is saved from the memory may be without them. -/
def Mark.fencing (fences : List String) : Mark → List String
  | .raised batteryId => batteryId :: fences
  | .recorded => []
  | _ => fences

/-- The batteries that have been fenced since a record was last saved. -/
def raisedFences (marks : List Mark) : List String :=
  marks.foldl Mark.fencing []

theorem raisedFences_recorded (marks : List Mark) :
    raisedFences (marks ++ [.recorded]) = [] := by
  simp [raisedFences, Mark.fencing]

theorem mem_raisedFences_append {marks more : List Mark} {batteryId : String}
    (member : batteryId ∈ raisedFences (marks ++ more)) :
    batteryId ∈ raisedFences marks ∨ .raised batteryId ∈ more := by
  rw [raisedFences, List.foldl_append, ← raisedFences] at member
  generalize raisedFences marks = fences at member ⊢
  induction more generalizing fences with
  | nil => exact .inl member
  | cons mark more ih =>
      rcases ih (mark.fencing fences) member with before | later
      · cases mark with
        | raised other =>
            rcases List.mem_cons.mp before with rfl | old
            · exact .inr List.mem_cons_self
            · exact .inl old
        | recorded => cases before
        | asked => exact .inl before
        | told => exact .inl before
        | answered => exact .inl before
        | confirmed => exact .inl before
        | found => exact .inl before
        | unread => exact .inl before
      · exact .inr (List.mem_cons_of_mem _ later)

/-! ### Guarded worlds -/

/-- What has become of the files and debts of a world. -/
structure Honours (origin world : World) : Prop where
  log : origin.log <+: world.log
  debts : ∀ batteryId target, batteryId ≠ "" →
    origin.Owes batteryId target →
    world.Owes batteryId target ∨
      Shown batteryId target (world.since origin)
  fences : ∀ batteryId, origin.Fenced batteryId →
    world.Fenced batteryId ∨ Known batteryId (world.since origin)
  runtime : origin.record = none → world.runtime = origin.runtime
  config : ¬ origin.config.Loads → world.config = origin.config
  loads : origin.config.Loads → world.config.Loads

/-- What has become of a world under the daemon. -/
structure Guarded (automatic : Bool) (origin world : World) : Prop
    extends Honours origin world where
  single : world.Single
  marks : Traces.Each (Mark.Allowed automatic origin) (world.since origin)
  raised : ∀ batteryId ∈ raisedFences (world.since origin),
    world.Fenced batteryId

/-! ### Changes that need no account -/

def Mark.Plain (world : World) : Mark → Prop
  | .asked .. => False
  | .told .. => False
  | .raised batteryId => world.Fenced batteryId
  | _ => True

theorem Mark.Plain.allowed {mark : Mark} {world : World}
    (plain : mark.Plain world) (automatic : Bool) (origin : World) (before : List Mark) :
    mark.Allowed automatic origin before := by
  cases mark with
  | asked batteryId target config runtime => exact plain.elim
  | told batteryId behaviour runtime => exact plain.elim
  | answered batteryId => exact ⟨trivial, fun _ => trivial⟩
  | confirmed batteryId target => exact ⟨trivial, fun _ => trivial⟩
  | found batteryId target => exact ⟨trivial, fun _ => trivial⟩
  | unread => exact ⟨trivial, fun _ => trivial⟩
  | recorded => exact ⟨trivial, fun _ => trivial⟩
  | raised batteryId => exact ⟨trivial, fun _ => trivial⟩

/-- Nothing but fences has changed in the files. -/
structure Quiet (world after : World) : Prop where
  log : world.log <+: after.log
  config : after.config = world.config
  unread : world.record = none → after.runtime = world.runtime
  record : ∀ runtime, world.record = some runtime → ∃ fences,
    after.record =
      some { runtime with authorizationUncertainBatteries := fences } ∧
    runtime.authorizationUncertainBatteries ⊆ fences

theorem Quiet.of_files {world after : World} (log : world.log <+: after.log)
    (config : after.config = world.config)
    (runtime : after.runtime = world.runtime) : Quiet world after where
  log := log
  config := config
  unread _ := runtime
  record recorded found := by
    refine ⟨recorded.authorizationUncertainBatteries, ?_, List.Subset.refl _⟩
    rw [World.record, runtime]
    exact found

theorem Quiet.fenced {world after : World} (quiet : Quiet world after)
    {batteryId : String} (fenced : world.Fenced batteryId) :
    after.Fenced batteryId := by
  obtain ⟨runtime, found, member⟩ := fenced
  obtain ⟨fences, recorded, more⟩ := quiet.record runtime found
  exact ⟨_, recorded, more member⟩

theorem Mark.Plain.mono {mark : Mark} {world after : World}
    (plain : mark.Plain world) (quiet : Quiet world after) :
    mark.Plain after := by
  cases mark with
  | raised batteryId => exact quiet.fenced plain
  | asked => exact plain
  | told => exact plain
  | answered => exact trivial
  | confirmed => exact trivial
  | found => exact trivial
  | unread => exact trivial
  | recorded => exact trivial

instance : Std.Refl Quiet where
  refl _ := .of_files List.prefix_rfl rfl rfl

instance : IsTrans World Quiet where
  trans first second third quiet later := by
    constructor
    · exact quiet.log.trans later.log
    · rw [later.config, quiet.config]
    · intro absent
      have same := quiet.unread absent
      rw [later.unread (by rw [World.record, same]; exact absent), same]
    · intro runtime found
      obtain ⟨fences, recorded, more⟩ := quiet.record runtime found
      obtain ⟨others, last, further⟩ := later.record _ recorded
      exact ⟨others, last, List.Subset.trans more further⟩

/-- No mark needs an account either. -/
def Plainly (world after : World) : Prop :=
  Quiet world after ∧ ∃ marks, after.log = world.log ++ marks ∧
    ∀ mark ∈ marks, mark.Plain after

theorem Plainly.quiet {world after : World} (plainly : Plainly world after) :
    Quiet world after :=
  plainly.1

instance : Std.Refl Plainly where
  refl world := ⟨refl_of Quiet world, [], by simp⟩

instance : IsTrans World Plainly where
  trans first second third := by
    rintro ⟨quiet, marks, log, plain⟩ ⟨later, others, last, further⟩
    refine ⟨trans_of Quiet quiet later, marks ++ others, ?_, ?_⟩
    · rw [last, log, List.append_assoc]
    · intro mark member
      exact (List.mem_append.mp member).elim
        (fun early => (plain mark early).mono later) (further mark)

theorem plainly_answers (world : World) (answers : List Answer) :
    Plainly world { world with answers := answers } :=
  ⟨.of_files List.prefix_rfl rfl rfl, [], by simp⟩

theorem plainly_noted {world : World} {mark : Mark}
    (plain : mark.Plain world) :
    Plainly world { world with log := world.log ++ [mark] } := by
  have quiet : Quiet world { world with log := world.log ++ [mark] } :=
    .of_files (List.prefix_append _ _) rfl rfl
  exact ⟨quiet, [mark], rfl, by simpa using plain.mono quiet⟩

theorem plainly_fenced {world : World} {runtime : Runtime}
    (found : world.record = some runtime) (batteryId : String) :
    Plainly world
      { world with runtime := .holds (runtime.fence batteryId) } := by
  refine ⟨⟨List.prefix_rfl, rfl, ?_, ?_⟩, [], by simp⟩
  · intro absent
    rw [found] at absent
    cases absent
  · intro other same
    obtain rfl : runtime = other := Option.some.inj (found.symm.trans same)
    by_cases fenced : batteryId ∈ runtime.authorizationUncertainBatteries
    · refine ⟨runtime.authorizationUncertainBatteries, ?_,
        List.Subset.refl _⟩
      simp [World.record, Document.record, Document.load, Except.toOption,
        Runtime.fence, fenced]
    · refine ⟨runtime.authorizationUncertainBatteries ++ [batteryId], ?_,
        List.subset_append_left _ _⟩
      simp [World.record, Document.record, Document.load, Except.toOption,
        Runtime.fence, fenced]

/-! ### What is new in the log -/

namespace World

variable {origin world after : World}

theorem since_append {marks : List Mark} (log : origin.log <+: world.log)
    (later : after.log = world.log ++ marks) :
    after.since origin = world.since origin ++ marks := by
  rw [since, later, List.drop_append_of_le_length log.length_le]
  rfl

theorem since_subset (later : world.log <+: after.log) :
    world.since origin ⊆ after.since origin :=
  (later.drop _).subset

end World

/-! ### Guarded worlds stay guarded -/

namespace Guarded

variable {automatic : Bool} {origin world after : World}

theorem begin (single : origin.Single) : Guarded automatic origin origin where
  log := List.prefix_rfl
  debts _ _ _ owed := .inl owed
  fences _ fenced := .inl fenced
  runtime _ := rfl
  config _ := rfl
  loads := id
  single := single
  marks := by
    rw [World.since, List.drop_length]
    exact Traces.each_nil
  raised := by
    rw [World.since, List.drop_length]
    exact fun _ => nofun

/-- The files have changed by fences only, so everything but the marks is
kept. -/
theorem quiet (guarded : Guarded automatic origin world)
    (quiet : Quiet world after)
    (marks : Traces.Each (Mark.Allowed automatic origin)
      (after.since origin))
    (raised : ∀ batteryId ∈ raisedFences (after.since origin),
      after.Fenced batteryId) :
    Guarded automatic origin after where
  log := guarded.log.trans quiet.log
  debts batteryId target named owed := by
    rcases guarded.debts batteryId target named owed with
      ⟨runtime, found, owes⟩ | shown
    · obtain ⟨fences, recorded, _⟩ := quiet.record runtime found
      exact .inl ⟨_, recorded, owes⟩
    · exact .inr (shown.mono (World.since_subset quiet.log))
  fences batteryId fenced := by
    exact (guarded.fences batteryId fenced).imp quiet.fenced
      (·.mono (World.since_subset quiet.log))
  runtime absent := by
    have same := guarded.runtime absent
    rw [quiet.unread (by rw [World.record, same]; exact absent), same]
  config unloaded := by rw [quiet.config, guarded.config unloaded]
  loads loads := by
    rw [quiet.config]
    exact guarded.loads loads
  single := by
    intro runtime found
    cases before : world.record with
    | none =>
        rw [World.record, quiet.unread before] at found
        exact guarded.single runtime found
    | some recorded =>
        obtain ⟨fences, after, _⟩ := quiet.record recorded before
        obtain rfl := Option.some.inj (after.symm.trans found)
        exact guarded.single recorded before
  marks := marks
  raised := raised

theorem plainly (guarded : Guarded automatic origin world)
    (plainly : Plainly world after) : Guarded automatic origin after := by
  obtain ⟨quiet, marks, log, plain⟩ := plainly
  apply guarded.quiet quiet
  · rw [World.since_append guarded.log log]
    exact guarded.marks.append fun mark member before _ =>
      (plain mark member).allowed automatic origin before
  · rw [World.since_append guarded.log log]
    intro batteryId member
    rcases mem_raisedFences_append member with before | later
    · exact quiet.fenced (guarded.raised batteryId before)
    · exact plain _ later

theorem noted (guarded : Guarded automatic origin world) {mark : Mark}
    (other : ∀ batteryId, mark ≠ .raised batteryId)
    (allowed : mark.Allowed automatic origin (world.since origin)) :
    Guarded automatic origin
      { world with log := world.log ++ [mark] } := by
  have quiet : Quiet world { world with log := world.log ++ [mark] } :=
    .of_files (List.prefix_append _ _) rfl rfl
  apply guarded.quiet quiet
  · rw [World.since_append guarded.log rfl, Traces.each_concat_iff]
    exact ⟨guarded.marks, allowed⟩
  · rw [World.since_append guarded.log rfl]
    intro batteryId member
    rcases mem_raisedFences_append member with before | later
    · exact quiet.fenced (guarded.raised batteryId before)
    · exact absurd (List.mem_singleton.mp later).symm (other batteryId)

end Guarded

/-! ### A record that may be saved -/

/-- The record holds every debt and every fence that is left. -/
structure Carries (origin : World) (runtime : Runtime) (world : World) :
    Prop where
  readable : origin.record ≠ none
  debts : ∀ batteryId target, batteryId ≠ "" →
    origin.Owes batteryId target →
    runtime.Owes batteryId target ∨
      Shown batteryId target (world.since origin)
  fences : ∀ batteryId, origin.Fenced batteryId →
    batteryId ∈ runtime.authorizationUncertainBatteries ∨
      Known batteryId (world.since origin)
  single : runtime.Single

theorem Carries.mono {origin world after : World} {runtime : Runtime}
    (carries : Carries origin runtime world)
    (later : world.log <+: after.log) : Carries origin runtime after where
  readable := carries.readable
  debts batteryId target named owed :=
    (carries.debts batteryId target named owed).imp_right
      (·.mono (World.since_subset later))
  fences batteryId fenced :=
    (carries.fences batteryId fenced).imp_right
      (·.mono (World.since_subset later))
  single := carries.single

theorem Guarded.carries {automatic : Bool} {origin world : World}
    (guarded : Guarded automatic origin world) {runtime : Runtime}
    (found : world.record = some runtime) :
    Carries origin runtime world where
  readable := by
    intro absent
    have same := guarded.runtime absent
    rw [World.record, same, ← World.record, absent] at found
    cases found
  debts batteryId target named owed := by
    rcases guarded.debts batteryId target named owed with
      ⟨recorded, same, owes⟩ | shown
    · obtain rfl := Option.some.inj (same.symm.trans found)
      exact .inl owes
    · exact .inr shown
  fences batteryId fenced := by
    rcases guarded.fences batteryId fenced with
      ⟨recorded, same, member⟩ | known
    · obtain rfl := Option.some.inj (same.symm.trans found)
      exact .inl member
    · exact .inr known
  single := guarded.single runtime found

theorem Guarded.saved {automatic : Bool} {origin world : World}
    (guarded : Guarded automatic origin world) {runtime : Runtime}
    (carries : Carries origin runtime world)
    (last : raisedFences (world.since origin) = []) :
    Guarded automatic origin { world with runtime := .holds runtime } where
  log := guarded.log
  debts batteryId target named owed :=
    (carries.debts batteryId target named owed).imp_left
      fun owes => ⟨runtime, rfl, owes⟩
  fences batteryId fenced :=
    (carries.fences batteryId fenced).imp_left
      fun member => ⟨runtime, rfl, member⟩
  runtime absent := absurd absent carries.readable
  config := guarded.config
  loads := guarded.loads
  single := by
    intro recorded found
    obtain rfl := Option.some.inj found
    exact carries.single
  marks := guarded.marks
  raised batteryId member := by
    rw [show World.since { world with runtime := .holds runtime } origin =
      world.since origin from rfl, last] at member
    cases member

theorem Guarded.configured {automatic : Bool} {origin world : World}
    (guarded : Guarded automatic origin world) {config : Config}
    (loads : origin.config.Loads) (valid : config.validate = .ok ()) :
    Guarded automatic origin { world with config := .holds config } where
  log := guarded.log
  debts := guarded.debts
  fences := guarded.fences
  runtime := guarded.runtime
  config unloaded := absurd loads unloaded
  loads _ := ⟨config, rfl, valid⟩
  single := guarded.single
  marks := guarded.marks
  raised := guarded.raised

end BarDaemon.BatteryProtection
