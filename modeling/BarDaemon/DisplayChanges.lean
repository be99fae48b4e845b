import BarDaemon.DisplayBackend

/-!
# Display changes

Applying a layout output by output, previewing, confirming and reverting one,
replaying the saved one, and the docking reconciliation.
-/

namespace BarDaemon.Displays

/-- The conditions under which a setting may be sent. -/
def Setting.permit (setting : Setting) (outputs : List Output) :
    Except String Unit :=
  if (!setting.enabled || setting.mirrorOf != "") &&
      Output.mirroredBy outputs setting.name then
    .error "Detach mirrors before changing their source"
  else if setting.enabled && setting.mirrorOf != "" &&
      !outputs.any (fun output =>
        output.name == setting.mirrorOf && output.usable) then
    .error "Mirror source is not usable; keeping the current display"
  else if !setting.enabled && !outputs.any (fun output =>
      output.name != setting.name && output.usable) then
    .error "No replacement display is usable; keeping fallback"
  else
    .ok ()

def previewSeconds : Nat :=
  20

namespace Service

variable (world : Surroundings) [Decimals]

/-! ### Applying a layout -/

def applySetting (purpose : Purpose) (generation : Nat)
    (setting : Setting) : Service Unit := do
  eligible world
  let interrupted ← sleepInterrupted world generation
  ensure (!interrupted) "Sleep interrupted display changes"
  let outputs ← outputs world
  match outputs.find? fun output => output.name == setting.name with
  | none => pure ()
  | some output =>
      if setting.matchesOutput output outputs then
        pure ()
      else do
        checked (setting.permit outputs)
        configure world purpose setting

/-- The setting that makes a mirror independent before its source changes. -/
def detached (output : Output) (current : List Output) : Setting :=
  { Setting.observed output current with mirrorOf := "" }

/-- Whether a layout takes a mirror away from its present source. -/
def detaches (layout : Layout) (current : List Output)
    (output : Output) : Bool :=
  (layout.outputs.find? fun setting => setting.name == output.name).any
    fun setting =>
      !setting.enabled ||
        (output.mirrorSource current).map Output.name !=
          some setting.mirrorOf

def detach (purpose : Purpose) (generation : Nat) (layout : Layout)
    (current : List Output) (output : Output) : Service Unit :=
  if detaches layout current output then
    applySetting world purpose generation (detached output current)
  else
    pure ()

def apply (purpose : Purpose) (layout : Layout) : Service Unit := do
  let (_, generation) ← sleepState world
  let current ← outputs world
  Attempt.forEach (detach world purpose generation layout current)
    (current.filter fun output => output.active && output.mirrored)
  Attempt.forEach (applySetting world purpose generation) layout.ordered

/-! ### Previews -/

/-- Note a saved trial in memory. -/
def arm (trial : Trial) (outputs : List Output) : Service Unit := do
  let instant ← instant world
  let deadline := instant + previewSeconds * 1000000000
  let (_, resume) ← sleepState world
  Attempt.change fun session => { session with
    runtime := { session.runtime with
      trial := some trial.id
      deadline := some deadline
      topology := topology outputs
      applied := true
      error := none
      resume := resume }
    armed := session.armed ++ [⟨trial, outputs, deadline, resume⟩] }

/-- The checks of a preview: the present document, the outputs that were seen
and the trial. -/
def draft (baseline : String) (settings : List Setting) :
    Service (Document × List Output × Trial) := do
  eligible world
  ensureDockingSettled world
  let (preparing, _) ← sleepState world
  ensure (!preparing) "Cannot preview displays during sleep preparation"
  let document ← load world
  ensure document.trial.isNone "Confirm or revert the previous layout first"
  let outputs ← outputs world
  let policy ← reading world.policy
  ensure (baseline == world.baseline outputs policy)
    "Display baseline is stale; reload the layout"
  let proposed : Layout := ⟨settings⟩
  checked (proposed.validate outputs true)
  let previous := Layout.observed outputs
  checked (previous.validate outputs true)
  checked (proposed.validateArrangement previous)
  let clock ← reading world.clock
  ensure clock.isSome "second time provided was later than self"
  let seconds ← now world
  return (document, outputs,
    ⟨toString (clock.getD 0), seconds + previewSeconds, proposed, previous⟩)

/-- Try a saved trial.  If that fails, the periodic pass will undo it. -/
def attempt (trial : Trial) : Service Unit := do
  match ← caught (apply world (.trial trial) trial.proposed) with
  | .ok _ => pure ()
  | .error text => do
      Attempt.change fun session => { session with
        runtime := { session.runtime with trial := none } }
      raise text

def preview (baseline : String) (settings : List Setting) :
    Service Document := do
  let (document, outputs, trial) ← draft world baseline settings
  let document := { document with trial := some trial }
  save world document
  arm world trial outputs
  attempt world trial
  return document

/-- The document that a confirmation saves. -/
def confirmed (document : Document) (trial : Trial) : Service Document := do
  let runtime := (← Attempt.read).runtime
  let seconds ← now world
  let instant ← instant world
  ensure (runtime.trial == some trial.id && seconds < trial.expiresAt &&
    runtime.deadline.any fun deadline => instant < deadline)
    "Layout confirmation expired"
  let interrupted ← sleepInterrupted world runtime.resume
  ensure (!interrupted) "Sleep interrupted the preview"
  let outputs ← outputs world
  ensure (topology outputs == runtime.topology)
    "Display topology changed during the preview"
  checked (trial.proposed.validate outputs true)
  ensure (trial.proposed.outputs.all fun setting =>
    (outputs.find? fun output => output.name == setting.name).any
      fun output => setting.matchesOutput output outputs)
    "Compositor has not applied the requested layout"
  return {
    manualEnablement := document.manualEnablement || trial.changesEnablement
    saved := trial.proposed
    trial := none }

/-- Put the previous layout back, as far as its outputs are connected. -/
def rollback (trial : Trial) : Service Unit := do
  let outputs ← outputs world
  apply world (.rollback trial) (trial.previous.connected outputs)

/-- How a trial ends, by the user's choice. -/
def conclude (document : Document) (trial : Trial) (confirm : Bool) :
    Service Document :=
  if confirm then
    confirmed world document trial
  else do
    rollback world trial
    return { document with trial := none }

def finish (id : String) (confirm : Bool) : Service Document := do
  let document ← load world
  match document.trial with
  | none => raise "No layout preview is pending"
  | some trial => do
      ensure (trial.id == id) "This layout preview is stale"
      eligible world
      let finished ← conclude world document trial confirm
      save world finished
      Attempt.change fun session => { session with
        runtime := { session.runtime with
          trial := none, applied := true, error := none } }
      return finished

/-! ### The periodic pass -/

/-- Whether a pending trial may go on. -/
def standing (trial : Trial) (generation seconds instant : Nat) :
    Service Bool := do
  let runtime := (← Attempt.read).runtime
  if runtime.trial == some trial.id && seconds < trial.expiresAt &&
      (runtime.deadline.any fun deadline => instant < deadline) &&
      runtime.resume == generation then do
    let outputs ← outputs world
    return topology outputs == runtime.topology
  else
    return false

/-- One attempt to replay the saved layout. -/
def replay (document : Document) (outputs : List Output) : Service Unit := do
  Attempt.change fun session => { session with
    runtime := { session.runtime with applied := true } }
  let present := document.restoration outputs
  if present.outputs.any Setting.enabled then do
    let result ← caught do
      checked (present.validate outputs false)
      apply world (.restore document) present
    let error := match result with
      | .ok _ => none
      | .error text => some ("Saved layout was not applied: " ++ text ++
          ". Preview a corrected layout to retry.")
    Attempt.change fun session => { session with
      runtime := { session.runtime with error := error } }
  else
    pure ()

/-- What is left of an earlier attempt: its error, or permission to dock. -/
def verdict : Service Bool := do
  match (← Attempt.read).runtime.error with
  | some error => raise error
  | none => return false

def applySaved (document : Document) (outputs : List Output)
    (instant : Nat) : Service Bool := do
  let runtime := (← Attempt.read).runtime
  if !runtime.applied && !document.saved.outputs.isEmpty then
    if runtime.since.any fun since => instant - since < settle then
      return true
    else do
      replay world document outputs
      verdict
  else
    verdict

/-- Start over after a change of the hardware or a resume. -/
def notice (outputs : List Output) (generation instant : Nat) :
    Service Unit :=
  Attempt.change fun session =>
    if topology outputs ≠ session.runtime.topology ∨
        session.runtime.resume ≠ generation then
      { session with
        runtime := { session.runtime with
          topology := topology outputs
          resume := generation
          since := some instant
          applied := false
          error := none } }
    else session

def tickAt (seconds instant : Nat) : Service (Document × Bool) := do
  let document ← load world
  let (preparing, generation) ← sleepState world
  if preparing then do
    Attempt.change fun session => { session with
      runtime := { session.runtime with trial := none } }
    return (document, true)
  else
    match document.trial with
    | some trial => do
        let goesOn ← standing world trial generation seconds instant
        if goesOn then
          return (document, true)
        else do
          rollback world trial
          let ended := { document with trial := none }
          save world ended
          Attempt.change fun session => { session with
            runtime := { session.runtime with
              trial := none, applied := true } }
          return (ended, false)
    | none => do
        let outputs ← outputs world
        notice outputs generation instant
        let paused ← applySaved world document outputs instant
        return (document, paused)

def tick : Service (Document × Bool) := do
  let seconds ← now world
  let instant ← instant world
  tickAt world seconds instant

/-! ### Docking -/

def planning (preferExternal : Bool) (outputs : List Output) (now : Nat) :
    Service Plan := fun session =>
  let (plan, planner) := session.planner.plan preferExternal outputs now
  (.ok plan, { session.traced (.planned outputs now) with planner := planner })

def resetPlanner : Service Unit :=
  Attempt.change fun session => { session with planner := .reset }

/-- The saved geometry of a panel that docking turns on again. -/
def savedInternal (name : String) : Service (Option Setting) := do
  let document ← load world
  return (document.saved.outputs.find? fun setting =>
    setting.name == name).map fun setting =>
      { setting with enabled := true, mirrorOf := "" }

/-- Turn a panel on with its saved geometry, if that works. -/
def restorePanel (target : Output) : Service Bool := do
  match ← caught (savedInternal world target.name) with
  | .ok (some setting) => do
      let result ← caught (configure world (.fallback target) setting)
      return result.isOk
  | _ => return false

/-- Send an automatic docking command. -/
def sendDocking (target : Output) (disable : Bool) : Service Unit := do
  checked (target.command disable)
  perform world "docking command refused" fun index session =>
    { session.traced (.docked target disable) with
      topology := world.docked index target disable session.topology }

/-- `Backend::apply`. -/
def dock (target : Output) (disable : Bool) : Service Unit :=
  if disable then
    sendDocking world target true
  else do
    let restored ← restorePanel world target
    if restored then pure () else sendDocking world target false

/-- Never disable the fallback based on the snapshot that selected the plan. -/
def revalidate (plan : Plan) (target : Output) : Service Unit := do
  eligible world
  let current ← outputs world
  checked (plan.validateDisable target current)

def uninterrupted (generation : Nat) : Service Unit := do
  let interrupted ← sleepInterrupted world generation
  ensure (!interrupted)
    "sleep transition interrupted display reconciliation"

def dockTarget (plan : Plan) (generation : Nat) (target : Output) :
    Service Unit := do
  if plan.disableInternal then revalidate world plan target else pure ()
  uninterrupted world generation
  dock world target plan.disableInternal

def reconcile (preferExternal preserveEnablement : Bool) (now : Nat) :
    Service String := do
  let (preparing, generation) ← sleepState world
  if preparing then do
    resetPlanner
    return "sleeping"
  else do
    eligible world
    let current ← outputs world
    if preserveEnablement && current.any Output.usable then do
      resetPlanner
      return "layout"
    else do
      let plan ← planning preferExternal current now
      Attempt.forEach (dockTarget world plan generation) plan.targets
      let observed ← outputs world
      uninterrupted world generation
      return if plan.observed observed then plan.status else "pending"

/-- `set`: release a manual enablement and keep the new preference. -/
def setPolicy (preferExternal : Bool) : Service Unit := do
  ensureDockingSettled world
  let document ← load world
  ensure document.trial.isNone
    "Confirm or revert the display layout before changing docking policy"
  savePolicy world preferExternal
  let document ← load world
  if document.manualEnablement then
    save world { document with manualEnablement := false }
  else
    pure ()

/-- A failed layout pass pauses docking, too. -/
def paused : Except String (Document × Bool) → Bool
  | .ok (_, paused) => paused
  | .error _ => true

/-- Whether a layout pass leaves enablement to the user. -/
def kept : Except String (Document × Bool) → Bool
  | .ok (document, _) => document.trial.isSome || document.manualEnablement
  | .error _ => false

/-- A failed reconciliation is followed by a fresh read. -/
def observeAfter (result : Except String String) : Service Unit :=
  match result with
  | .ok _ => pure ()
  | .error _ => do
      let _ ← caught (outputs world)

/-- The error of the layout pass goes before that of the reconciliation. -/
def conclusion (ticked : Except String (Document × Bool))
    (result : Except String String) : Service String :=
  match ticked, result with
  | .error text, _ => raise text
  | .ok _, .error text => raise text
  | .ok (_, paused), .ok status =>
      return if paused && status != "sleeping" then "layout-preview"
        else status

/-- The layout pass and the docking decision of one monitor pass. -/
def refresh (docking : DockingState) : Service String := do
  let preferExternal ← loadPolicy world
  let ticked ← caught (tick world)
  let instant ← instant world
  let result ← caught (reconcile world (preferExternal && !paused ticked)
    (kept ticked || docking == .failed) instant)
  observeAfter world result
  conclusion ticked result

end Service

end BarDaemon.Displays
