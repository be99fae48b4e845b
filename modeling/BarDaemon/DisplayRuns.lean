import BarDaemon.DisplayChanges

/-!
# Runs of the display service

The requests that the service handles one at a time, and what a crash leaves.
-/

namespace BarDaemon.Displays

inductive Request
  | monitor
  | preview (baseline : String) (settings : List Setting)
  | finish (id : String) (confirm : Bool)
  | setPolicy (preferExternal : Bool)
  | restart

namespace Session

variable (world : Surroundings)

/-- A service without any history. -/
def initial (topology : List Output) (disk : Document)
    (preferExternal : Bool) : Session where
  calls := 0
  topology := topology
  disk := disk
  preferExternal := preferExternal
  runtime := .initial
  planner := .reset
  lastResume := 0
  armed := []
  trace := []

/-- A restart forgets everything in memory. -/
def restarted (session : Session) : Session :=
  { session with
    runtime := .initial
    planner := .reset
    lastResume := 0 }

/-- A failed monitor pass forgets the settling candidate. -/
def unsettled (session : Session) : Session :=
  { session with planner := .reset }

/-- A resume forgets the settling candidate, too. -/
def noticed (session : Session) (resume : Nat) : Session :=
  if resume ≠ session.lastResume then
    { session with planner := .reset, lastResume := resume }
  else session

/-- What a request leaves.  A crash is followed by a restart. -/
def settled {Value : Type} (result : Except Failure Value × Session) :
    Session :=
  match result with
  | (.error .crashed, after) => after.restarted
  | (_, after) => after

/-- What a monitor pass leaves. -/
def refreshed (result : Except Failure String × Session) : Session :=
  match result with
  | (.ok _, after) => after
  | (.error .crashed, after) => after.restarted
  | (.error _, after) => after.unsettled

/-- The start of a monitor pass, which looks for a resume. -/
def begun (session : Session) : Session :=
  let noticed := session.noticed (world.sleep session.calls).2
  { noticed with calls := session.calls + 1 }

variable [Decimals]

/-- One pass of the monitor. -/
def monitored (session : Session) : Session :=
  refreshed (Service.refresh world (world.docking session.calls)
    (session.begun world))

def step (session : Session) : Request → Session
  | .monitor => session.monitored world
  | .preview baseline settings =>
      settled (Service.preview world baseline settings session)
  | .finish id confirm => settled (Service.finish world id confirm session)
  | .setPolicy preferExternal =>
      settled (Service.setPolicy world preferExternal session)
  | .restart => session.restarted

end Session

end BarDaemon.Displays
