import BarDaemon.BatteryRequestGuards
import BarDaemon.FallibleSteps
import BarDaemon.TransitionRuns

/-!
# Runs of the battery protection

Passes and requests come one after another, each under the lock of the
effects, and the process may die in any of them.
-/

namespace BarDaemon.BatteryProtection

open TransitionRuns

variable {origin middle world : World}

/-! ### One step -/

theorem Honours.refl (world : World) : Honours world world where
  log := List.prefix_rfl
  debts _ _ _ owed := .inl owed
  fences _ fenced := .inl fenced
  runtime _ := rfl
  config _ := rfl
  loads := id

theorem World.since_trans (first : origin.log <+: middle.log)
    (second : middle.log <+: world.log) :
    world.since origin = middle.since origin ++ world.since middle := by
  obtain ⟨marks, later⟩ := second
  rw [World.since_append first later.symm]
  simp [World.since, ← later]

theorem Honours.trans (first : Honours origin middle)
    (second : Honours middle world) : Honours origin world where
  log := first.log.trans second.log
  debts batteryId target named owed := by
    rw [World.since_trans first.log second.log]
    rcases first.debts batteryId target named owed with owes | shown
    · exact (second.debts batteryId target named owes).imp_right
        (·.mono (List.subset_append_right _ _))
    · exact .inr (shown.mono (List.subset_append_left _ _))
  fences batteryId fenced := by
    rw [World.since_trans first.log second.log]
    rcases first.fences batteryId fenced with fenced | known
    · exact (second.fences batteryId fenced).imp_right
        (·.mono (List.subset_append_right _ _))
    · exact .inr (known.mono (List.subset_append_left _ _))
  runtime absent := by
    have same := first.runtime absent
    rw [second.runtime (by rw [World.record, same]; exact absent), same]
  config unloaded := by
    have same := first.config unloaded
    rw [second.config (by rw [same]; exact unloaded), same]
  loads loads := second.loads (first.loads loads)

/-- The answers to come are no part of what is kept. -/
theorem Guarded.of_answers {automatic : Bool} {answers : List Answer}
    (guarded : Guarded automatic { origin with answers := answers } world) :
    Guarded automatic origin world where
  log := guarded.log
  debts := guarded.debts
  fences := guarded.fences
  runtime := guarded.runtime
  config := guarded.config
  loads := guarded.loads
  single := guarded.single
  marks := guarded.marks
  raised := guarded.raised

def Event.automatic : Event → Bool
  | .pass .. => true
  | .request .. => false

theorem guarded_step (single : world.Single) (event : Event) :
    Guarded event.automatic world (world.step event) := by
  cases event with
  | pass state answers =>
      have start : World.Single { world with answers := answers } := single
      exact ((Pass.meets_reconcileAndDecorate state).after
        (Guarded.begin start)).of_answers
  | request published request answers =>
      have start : World.Single { world with answers := answers } := single
      exact ((Requests.meets_dispatch request).after
        (Guarded.begin start)).of_answers

/-! ### Whole runs -/

/-- The thresholds of a battery have been lifted to charge it once. -/
def lifted : World :=
  ⟨.missing, .holds (.startChargeOnce 0 "BAT0" (75, 80)), [], []⟩

/-- It has been unplugged. -/
def unplugged : State where
  available := true
  nativePath := "BAT0"
  percentage := 60
  state := "discharging"
  charging := false
  plugged := false
  warning := false
  critical := false
  policy := Config.default.policy
  operation := ⟨"", "", "", 0, 0⟩
  protection := .default
  devices := [⟨"BAT0", 60,
    { ProtectionState.default with
      supportsStart := true
      supportsEnd := true }⟩]

/-- The helper restores the thresholds from before. -/
def restoring : Answer :=
  ⟨1, none, .kept, fun _ => .done (75, 80), fun _ => .done "auto",
    .ok unplugged⟩

/-- The process dies in one pass, and the next one restores the battery. -/
def recovery : List Event :=
  [.pass unplugged [⟨1, none, .kept, fun _ => .unknown, fun _ => .unknown,
      .ok unplugged⟩],
    .pass unplugged (List.replicate 5 restoring)]

theorem single_lifted : lifted.Single := by
  rintro runtime found _
  obtain rfl := Option.some.inj found
  rfl

theorem owes_lifted : lifted.Owes "BAT0" (75, 80) :=
  ⟨_, rfl, .inl ⟨rfl, rfl, rfl⟩⟩

theorem single_run (single : world.Single) (events : List Event) :
    (run World.step world events).Single := by
  induction events generalizing world with
  | nil => exact single
  | cons event events ih => exact ih (guarded_step single event).single

theorem honours_run (single : world.Single) (events : List Event) :
    Honours world (run World.step world events) :=
  relation_run Honours.refl Honours.trans
    (fun _ event single _ => (guarded_step single event).single)
    (fun _ event single _ => (guarded_step single event).toHonours)
    single (stepsMeet_of_forall (fun _ _ => trivial) world events)

/-- Thresholds that are owed to a battery are owed until they have been read
back, whatever fails and wherever the process dies. -/
theorem owed_until_back (world : World) (single : world.Single)
    (events : List Event) (batteryId : String) (target : Thresholds)
    (named : batteryId ≠ "") (owed : world.Owes batteryId target) :
    (run World.step world events).Owes batteryId target ∨
      Shown batteryId target ((run World.step world events).since world) :=
  (honours_run single events).debts batteryId target named owed

theorem owed_until_back_crash :
    (run World.step lifted recovery).record = some .default ∧
      Shown "BAT0" (75, 80) ((run World.step lifted recovery).since lifted) := by
  have saved : (run World.step lifted recovery).record = some .default := by
    decide +kernel
  refine ⟨saved, (owed_until_back lifted single_lifted recovery "BAT0"
    (75, 80) (by decide) owes_lifted).resolve_left ?_⟩
  rintro ⟨runtime, found, owes⟩
  obtain rfl := Option.some.inj (saved.symm.trans found)
  simp [Runtime.Owes, Runtime.default, Runtime.calibrates] at owes

/-- A fence that stands before a step stays until the battery has answered,
one that is raised in a step stands after it unless a record is saved in
between, and a pass only restores a battery that it has found fenced. -/
theorem fenced_until_answered (world : World) (single : world.Single)
    (events : List Event) :
    (∀ batteryId, world.Fenced batteryId →
      (run World.step world events).Fenced batteryId ∨
        Known batteryId ((run World.step world events).since world)) ∧
    (∀ event, ∀ batteryId ∈ raisedFences
      (((run World.step world events).step event).since
        (run World.step world events)),
      ((run World.step world events).step event).Fenced batteryId) ∧
    ∀ state answers, Traces.Each
      (Mark.Heeds (run World.step world events))
      (((run World.step world events).step (.pass state answers)).since
        (run World.step world events)) := by
  have reached := single_run single events
  refine ⟨(honours_run single events).fences,
    fun event => (guarded_step reached event).raised, fun state answers => ?_⟩
  have guarded := guarded_step reached (.pass state answers)
  exact fun before mark prior => (guarded.marks before mark prior).2 rfl

/-- Two batteries, and the first is to be restored. -/
def unpluggedPair : State :=
  { unplugged with
    devices := unplugged.devices ++
      unplugged.devices.map ({ · with id := "BAT1" }) }

/-- The second is fenced. -/
def fencedPair : World :=
  ⟨.holds { Config.default with manageThresholds := true },
    .holds { Runtime.startChargeOnce 0 "BAT0" (75, 80) with
      authorizationUncertainBatteries := ["BAT1"] }, [], []⟩

/-- A write ends without an answer. -/
def unanswered : List Answer :=
  List.replicate 6 { restoring with thresholds := fun _ => .unknown }

theorem fenced_until_answered_unanswered :
    (fencedPair.Fenced "BAT1" ∧
      raisedFences ((fencedPair.step (.pass unpluggedPair unanswered)).since
        fencedPair) = ["BAT0"] ∧
      (fencedPair.step (.pass unpluggedPair unanswered)).Fenced "BAT0") ∧
    ∀ batteryId, fencedPair.Fenced batteryId →
      (run World.step fencedPair [.pass unpluggedPair unanswered]).Fenced
        batteryId ∨
      Known batteryId ((run World.step fencedPair
        [.pass unpluggedPair unanswered]).since fencedPair) := by
  have single : fencedPair.Single := by
    rintro runtime found _
    obtain rfl := Option.some.inj found
    rfl
  have raised : raisedFences ((fencedPair.step
      (.pass unpluggedPair unanswered)).since fencedPair) = ["BAT0"] := by
    decide +kernel
  refine ⟨⟨⟨_, rfl, List.mem_singleton_self _⟩, raised, ?_⟩, ?_⟩
  · apply (fenced_until_answered fencedPair single []).2.1
    rw [run_nil, raised]
    exact List.mem_singleton_self _
  · exact (fenced_until_answered fencedPair single _).1

/-- Only the first is restored. -/
def halfAnswered : Answer :=
  { restoring with
    thresholds := fun batteryId =>
      if batteryId = "BAT0" then .done (75, 80) else .unknown }

/-- A pass that saves its record afterwards forgets the fence of the second. -/
example :
    (World.step { fencedPair with runtime := lifted.runtime }
      (.pass unpluggedPair (List.replicate 9 halfAnswered))).record =
        some .default := by decide +kernel

/-- A file that cannot be used is left as it is, and a usable configuration
stays usable. -/
theorem unusable_files_stay (world : World) (single : world.Single)
    (events : List Event) :
    (world.record = none →
      (run World.step world events).runtime = world.runtime) ∧
    (¬ world.config.Loads →
      (run World.step world events).config = world.config) ∧
    (world.config.Loads → (run World.step world events).config.Loads) := by
  have honours := honours_run single events
  exact ⟨honours.runtime, honours.config, honours.loads⟩

/-- The configuration that manages a battery. -/
def managing : Config :=
  { Config.default with manageThresholds := true, protectionEnabled := true }

/-- The record, or the configuration, cannot be read. -/
def cutRecord : World :=
  ⟨.holds managing, .unreadable "cut", [], []⟩

def cutConfig : World :=
  { lifted with config := .unreadable "cut" }

/-- A pass goes on without the file, and saves the other one. -/
def goingOn : List Event :=
  [.pass unplugged (List.replicate 6 restoring)]

theorem unusable_files_stay_crash :
    ((run World.step cutRecord goingOn).runtime = .unreadable "cut" ∧
      (run World.step cutRecord goingOn).config.Loads ∧
      ((run World.step cutRecord goingOn).config.load .default
        none).toOption.map (fun config =>
          (config.device "BAT0").acceptedReportedEndPercent) =
        some (some 80)) ∧
    (run World.step cutConfig goingOn).config = .unreadable "cut" ∧
      (run World.step cutConfig goingOn).record = some .default := by
  have usable : cutRecord.config.Loads := ⟨managing, rfl, by decide +kernel⟩
  have unusable : ¬ cutConfig.config.Loads := by
    rintro ⟨config, loaded, _⟩
    cases loaded
  have first := unusable_files_stay cutRecord
    (fun _ found => by cases found) goingOn
  have second := unusable_files_stay cutConfig single_lifted goingOn
  exact ⟨⟨first.1 rfl, first.2.2 usable, by decide +kernel⟩,
    second.2.1 unusable, by decide +kernel⟩

/-! ### What is asked of the helper -/

theorem forM_eq_ok {Item : Type} {check : Item → Except String Unit}
    {items : List Item} (checked : items.forM check = .ok ()) {item : Item}
    (member : item ∈ items) : check item = .ok () := by
  induction items with
  | nil => simp at member
  | cons first items ih =>
      change (check first >>= fun _ => items.forM check) = .ok () at checked
      rw [FallibleSteps.bind_eq_ok_iff] at checked
      obtain ⟨_, here, rest⟩ := checked
      rcases List.mem_cons.mp member with rfl | among
      · exact here
      · exact ih rest among

theorem DeviceConfig.valid_of_validate {device : DeviceConfig}
    (validated : device.validate = .ok ()) :
    validThresholds device.protectedStartPercent
      device.protectedEndPercent = true := by
  rw [DeviceConfig.validate] at validated
  split_ifs at validated with invalid
  simpa using invalid

/-- The configuration asks for valid thresholds only. -/
theorem Configures.valid {document : Document Config} {batteryId : String}
    {target : Thresholds}
    (configures : Configures document batteryId target) :
    validThresholds target.1 target.2 = true := by
  obtain ⟨config, ⟨_, validated⟩, _, rfl⟩ := configures
  rw [Config.validate] at validated
  split_ifs at validated with _ invalid
  have device : validThresholds
      (config.device batteryId).protectedStartPercent
      (config.device batteryId).protectedEndPercent = true := by
    rw [Config.device]
    cases found : config.devices[batteryId]? with
    | none => simpa [Config.inherited] using invalid
    | some device =>
        have member : (batteryId, device) ∈ config.devices.toList :=
          Std.ExtTreeMap.mem_toList_iff_getElem?_eq_some.mpr found
        have checked := forM_eq_ok validated member
        rw [FallibleSteps.bind_eq_ok_iff] at checked
        obtain ⟨_, _, valid⟩ := checked
        exact DeviceConfig.valid_of_validate valid
  rw [DeviceConfig.desiredThresholds]
  split_ifs
  · exact device
  · rfl

theorem accounted_step (single : world.Single) (event : Event) :
    ∀ mark ∈ (world.step event).since world, mark.Accounted := by
  intro mark member
  obtain ⟨before, _, allowed⟩ := (guarded_step single event).marks.of_mem
    member
  exact allowed.1

theorem accounted_run (single : world.Single) (events : List Event) :
    ∀ mark ∈ (run World.step world events).since world,
      mark.Accounted := by
  induction events generalizing world with
  | nil => simp [World.since]
  | cons event events ih =>
      have guarded := guarded_step single event
      have later := honours_run guarded.single events
      intro mark member
      rw [run_cons, World.since_trans guarded.log later.log,
        List.mem_append] at member
      exact member.elim (accounted_step single event mark)
        (ih guarded.single mark)

/-- When the helper is asked for thresholds, the files that are on the disk
say why: a valid policy, a battery whose thresholds are lifted, or thresholds
to restore.  A battery is discharged or inhibited only where the record says
so. -/
theorem writes_accounted (world : World) (single : world.Single)
    (events : List Event) :
    (∀ batteryId target config runtime,
      .asked batteryId target config runtime ∈
        (run World.step world events).since world →
      (Configures config batteryId target ∧
        validThresholds target.1 target.2 = true) ∨
      ∃ record, runtime.record = some record ∧
        ((target = (0, 100) ∧ Lifts record batteryId) ∨
          Restores config record batteryId target)) ∧
    (∀ batteryId behaviour runtime,
      .told batteryId behaviour runtime ∈
        (run World.step world events).since world →
      behaviour = "auto" ∨ ∃ record, runtime.record = some record ∧
        Accounts record batteryId behaviour) ∧
    (run World.step world events).Single := by
  have accounted := accounted_run single events
  refine ⟨?_, ?_, single_run single events⟩
  · intro batteryId target config runtime member
    rcases accounted _ member with configures | recorded
    · exact .inl ⟨configures, configures.valid⟩
    · exact .inr recorded
  · exact fun batteryId behaviour runtime member => accounted _ member

/-- What the helper is asked. -/
def Mark.call : Mark → Option (String × (Thresholds ⊕ String))
  | .asked batteryId target _ _ => some (batteryId, .inl target)
  | .told batteryId behaviour _ => some (batteryId, .inr behaviour)
  | _ => none

/-- The battery is at the mains, and can be discharged. -/
def plugged : State :=
  { unplugged with
    plugged := true
    devices := [⟨"BAT0", 60,
      { ProtectionState.default with
        startPercent := some 75
        endPercent := some 80
        supportsStart := true
        supportsEnd := true
        availableBehaviours := ["force-discharge"] }⟩] }

/-- A calibration is begun, and ends when the battery is unplugged. -/
def calibration : List Event :=
  [.request ⟨plugged, none⟩ (.startCalibration none)
      (List.replicate 10 { restoring with
        thresholds := fun _ => .done (0, 100)
        behaviour := fun _ => .done "force-discharge" }),
    .pass unplugged (List.replicate 10 restoring)]

def idle : World :=
  ⟨.holds managing, .missing, [], []⟩

theorem writes_accounted_crash :
    ((run World.step idle calibration).since idle).filterMap Mark.call =
      [("BAT0", .inl (0, 100)), ("BAT0", .inr "force-discharge"),
        ("BAT0", .inr "auto"), ("BAT0", .inl (75, 80))] ∧
    (∀ batteryId target config runtime,
      .asked batteryId target config runtime ∈
        (run World.step idle calibration).since idle →
      (Configures config batteryId target ∧
        validThresholds target.1 target.2 = true) ∨
      ∃ record, runtime.record = some record ∧
        ((target = (0, 100) ∧ Lifts record batteryId) ∨
          Restores config record batteryId target)) ∧
    (∀ batteryId behaviour runtime,
      .told batteryId behaviour runtime ∈
        (run World.step idle calibration).since idle →
      behaviour = "auto" ∨ ∃ record, runtime.record = some record ∧
        Accounts record batteryId behaviour) ∧
    (run World.step idle calibration).Single := by
  have single : idle.Single := by
    rintro runtime found _
    obtain rfl := Option.some.inj found
    rfl
  exact ⟨by decide +kernel, writes_accounted idle single calibration⟩

end BarDaemon.BatteryProtection
