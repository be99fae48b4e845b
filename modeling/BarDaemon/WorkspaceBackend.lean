import BarDaemon.Attempts
import BarDaemon.WorkspaceJournal

/-!
# The workspace service and what surrounds it

The state of the service, the compositor and the journal files that it calls,
and the trace of what it has done.  The surroundings settle every call by its
number.
-/

namespace BarDaemon.Workspaces

open Std

/-- How a call ends.  A failed call may still have had its effect, and the
daemon may end during a call. -/
inductive Fate
  | answered
  | failed
  | crashed
deriving DecidableEq, Repr

/-- How the atomic replacement of a file ends.  A failure may come after the
new file is in place. -/
inductive Writing
  | written
  | failed (written : Bool)
  | crashed (written : Bool)
deriving DecidableEq, Repr

inductive Failure
  | error (text : String)
  | crashed
deriving DecidableEq, Repr

/-- The text of a failure that the daemon can handle. -/
def Failure.text? : Failure → Option String
  | .error text => some text
  | .crashed => none

/-- What the compositor is told to do. -/
inductive Expression
  | releasePrefix (pinPrefix : String)
  | selectLocal (monitor : String) (active id : Int) (move materialize : Bool)
  | focusLocal (monitor : String) (active id : Int) (explicit : Bool)
  /-- Move the window of a lease, and pin it. -/
  | moveLocal (lease : Lease) (window : WindowIdentity) (monitor : String)
      (pin : Option String)
  | followWindow (window : WindowIdentity) (id : Int) (monitor : String)
      (active : Int)
  | pinWorkspace (monitor : String) (id : Int) (pinPrefix : String)
  | closePinned (token : String) (window : WindowIdentity)
  | releaseWindow (token : String)
  | replacePinned (token address : String) (candidate : Window) (id : Int)
      (monitor : String)
deriving DecidableEq, Repr

inductive PinnedState
  | present
  | moved
  | lost
  | gone
deriving DecidableEq, Repr

structure Surroundings where
  fate : Nat → Fate
  writing : Nat → Writing
  snapshot : Nat → Snapshot
  pinned : Nat → PinnedState
  /-- The icon of a window class. -/
  icons : Nat → String → String → Option String
  /-- When a process started, if it runs. -/
  processStart : Nat → Nat → Option Nat
  /-- A fresh publication epoch. -/
  epoch : Nat → String
  instant : Nat → Nat
  /-- Whether an expression can be encoded. -/
  encodable : Expression → Bool
  /-- Whether `SHELLLIST_TEMPORARY_WORKSPACES` allows temporary workspaces, as
  it is read at a call. -/
  enabled : Nat → Bool

/-- What the service has done, in order. -/
inductive Event
  | started
  | reserved (lease : Lease)
  | released (lease : Lease)
  | closeAdmitted (session : String) (request : Close)
  | allocated (session : String) (id : Int) (live entries : List Int)
  | saved (journal : Journal)
  | executed (expression : Expression)
  /-- An entry is removed, judged on a snapshot and the journal. -/
  | retired (id : Int) (snapshot : Snapshot) (journal : Journal)

structure HandoffEvents where
  moved : List (String × Option Int)
  lost : Bool
deriving DecidableEq, Repr

def HandoffEvents.none : HandoffEvents :=
  ⟨[], false⟩

structure Loaded where
  journal : Journal
  poisoned : Bool
  pinsCleaned : Bool
  emptySince : ExtTreeMap Int Nat

structure State where
  calls : Nat
  /-- The journal files of the compositor sessions. -/
  files : String → Option Journal
  loaded : Option Loaded
  writer : String
  handoffEvents : HandoffEvents
  /-- The keys that are observed until their windows have closed, and how
  often they have been looked at. -/
  observers : List (String × Nat)
  /-- For the statements only. -/
  trace : List Event

/-- A computation of the workspace service. -/
abbrev Service (Value : Type) : Type :=
  Attempt State Failure Value

namespace State

def called (state : State) : State :=
  { state with calls := state.calls + 1 }

def traced (state : State) (event : Event) : State :=
  { state with trace := state.trace ++ [event] }

def withLoaded (state : State) (update : Loaded → Loaded) : State :=
  { state with loaded := state.loaded.map update }

def withJournal (state : State) (update : Journal → Journal) : State :=
  state.withLoaded fun loaded =>
    { loaded with journal := update loaded.journal }

/-- The file of the session is replaced. -/
def wrote (state : State) (journal : Journal) : State :=
  { state with
    files := fun session =>
      if session = journal.session then some journal.serialized
      else state.files session
    trace := state.trace ++ [.saved journal.serialized] }

/-- The journal in memory is not to be used until a restart. -/
def poisoned (state : State) (journal : Journal) (written : Bool) : State :=
  (if written then state.wrote journal else state).withLoaded fun loaded =>
    { loaded with poisoned := true }

end State

namespace Service

variable (world : Surroundings)

/-- One call to the outside. -/
def perform (refusal : String) : Service Unit := fun state =>
  match world.fate state.calls with
  | .answered => (.ok (), state.called)
  | .failed => (.error (.error refusal), state.called)
  | .crashed => (.error .crashed, state.called)

/-- Read something that cannot fail. -/
def reading {Value : Type} (value : Nat → Value) : Service Value :=
  fun state => (.ok (value state.calls), state.called)

/-- `enabled`. -/
def enabled : Service Bool := fun state =>
  (.ok (world.enabled state.calls), state)

def raise {Value : Type} (text : String) : Service Value :=
  Attempt.fail (.error text)

def ensure (condition : Bool) (text : String) : Service Unit :=
  Attempt.ensure condition (.error text)

def checked {Value : Type} (outcome : Except String Value) : Service Value :=
  Attempt.lift Failure.error outcome

/-- `Option::context`. -/
def required {Value : Type} (value : Option Value) (text : String) :
    Service Value :=
  match value with
  | some value => pure value
  | none => raise text

/-- Handle the errors of a computation. -/
def caught {Value : Type} (service : Service Value) :
    Service (Except String Value) :=
  service.catching Failure.text?

def note (event : Event) : Service Unit :=
  Attempt.change fun state => state.traced event

/-- `compositor::snapshot`. -/
def snapshot : Service Snapshot := do
  perform world "compositor snapshot failed"
  reading world.snapshot

def encode (expression : Expression) : Service Unit :=
  ensure (world.encodable expression) "expression cannot be encoded"

/-- `compositor::execute`.  The command counts as sent, whatever the reply. -/
def dispatch (expression : Expression) : Service Unit := do
  note (.executed expression)
  perform world "compositor command failed"

/-- Encode an expression and let the compositor execute it. -/
def execute (expression : Expression) : Service Unit := do
  encode world expression
  dispatch world expression

/-- `compositor::pinned_snapshot`: pin the windows of a workspace and read
them. -/
def pinnedSnapshot (monitor : String) (id : Int) (pinPrefix : String) :
    Service Snapshot := do
  execute world (.pinWorkspace monitor id pinPrefix)
  reading world.snapshot

/-- `compositor::pinned_state`. -/
def pinnedState : Service PinnedState := do
  perform world "compositor state failed"
  reading world.pinned

def epoch : Service String :=
  reading world.epoch

def instant : Service Nat :=
  reading world.instant

/-! ### The journal in memory -/

variable [Wire]

/-- The journal, which every method has loaded before. -/
def journal : Service Journal := fun state =>
  (.ok ((state.loaded.map Loaded.journal).getD (.empty "")), state)

def edit (update : Journal → Journal) : Service Unit :=
  Attempt.change fun state => state.withJournal update

omit [Wire] in
/-- `Loaded::save`.  A failure poisons the journal until a restart; what the
end of the daemon leaves in memory is lost anyway. -/
def save : Service Unit := fun state =>
  match state.loaded with
  | none => (.error (.error "workspace journal unavailable"), state)
  | some loaded =>
      if loaded.poisoned then
        (.error (.error
          "workspace journal requires restart after persistence failure"),
          state)
      else
        let called := state.called
        match world.writing state.calls with
        | .written => (.ok (), called.wrote loaded.journal)
        | .failed written =>
            (.error (.error "persist workspace journal"),
              called.poisoned loaded.journal written)
        | .crashed written =>
            (.error .crashed, called.poisoned loaded.journal written)

end Service

end BarDaemon.Workspaces
