import BarDaemon.OrderedMaps
import BarDaemon.TransitionRuns

/-!
# Interactive battery operations

A caller starts an operation, asks for its status and cancels it.  The work of
an operation runs in a task of its own, which settles after the caller has
gone or the budget is spent as well.
-/

namespace BarDaemon.BatteryOperations

open Std TransitionRuns OrderedMaps

/-- `RETENTION`, in milliseconds. -/
def retention : Nat :=
  300000

/-- `OPERATION_BUDGET`, in milliseconds. -/
def operationBudget : Nat :=
  300000

def capacity : Nat :=
  64

def methods : List String :=
  ["battery.setThresholds", "battery.setProtection", "battery.chargeOnce",
    "battery.setChargingInhibited", "battery.startCalibration",
    "battery.cancelCalibration"]

/-- The transport owner of a call. -/
structure Owner where
  name : String
  nameSpace : String
deriving DecidableEq, Repr

structure Start (Params : Type) where
  method : String
  params : Params
deriving DecidableEq, Repr

/-- The parameters of a call, as they are read for its two kinds of
requests. -/
structure CallParams (Params : Type) where
  start : Except String (Start Params)
  lookup : Except String String

/-- The answer that the work of an operation has given. -/
inductive Response (Value : Type)
  | dispatched (value : Value)
  | error (code message : String)
deriving DecidableEq, Repr

/-- The work has panicked. -/
def Response.unknown {Value : Type} : Response Value :=
  .error "outcome-unknown" "battery operation task failed; reconcile state"

structure OperationStatus (Value : Type) where
  id : String
  state : String
  cancellationRequested : Bool
  response : Option (Response Value)
  retentionMs : Nat
deriving DecidableEq, Repr

inductive Reply (Value : Type)
  | error (code message : String)
  | status (operation : OperationStatus Value)
deriving DecidableEq, Repr

def status {Value : Type} (id : String) (response : Option (Response Value))
    (cancellationRequested : Bool) : Reply Value :=
  .status ⟨id, if response.isSome then "finished" else "running",
    cancellationRequested, response, retention⟩

def started {Value : Type} (id : String) : Reply Value :=
  status id none false

structure Entry (Value : Type) where
  owner : String
  cancel : Bool
  response : Option (Response Value)
  finished : Option Nat

def Entry.admitted {Value : Type} (owner : Owner) : Entry Value :=
  ⟨owner.name, false, none, none⟩

/-- How far the task of an operation is. -/
inductive Stage
  /-- It asks whether its owner exists. -/
  | checking
  | running (since : Nat)
  /-- It has cancelled its work, and waits for it. -/
  | cancelling (ownerLost : Bool)
deriving DecidableEq, Repr

/-- A task holds the work of its operation until that has settled. -/
structure Task where
  id : String
  stage : Stage
deriving DecidableEq, Repr

inductive Cause
  | requested (caller : Owner)
  | ownerLost
  | deadline
deriving DecidableEq, Repr

/-- What has happened, in order. -/
inductive Mark (Params Value : Type)
  | admitted (id : String) (owner : Owner) (work : Start Params)
  /-- The work is polled for the first time. -/
  | began (id : String)
  | settled (id : String) (response : Response Value)
  /-- The work has been dropped before it began. -/
  | dropped (id : String)
  | cancelled (id : String) (cause : Cause)
  | replied (caller : Owner) (reply : Reply Value)

structure Operations (Params Value : Type) where
  /-- A counter of 64 bits, which no run of fewer events exhausts. -/
  next : Nat
  entries : ExtTreeMap String (Entry Value)
  tasks : List Task
  /-- The monotonic clock, in milliseconds. -/
  now : Nat
  /-- For the statements only. -/
  trace : List (Mark Params Value)

inductive Event (Params Value : Type)
  | call (method : String) (params : CallParams Params) (owner : Owner)
  /-- Whether the owner of a task exists. -/
  | answered (index : Nat) (answer : Bool)
  /-- The work of a task answers, or it panics. -/
  | settle (index : Nat) (outcome : Option Value)
  | close (index : Nat)
  | timeOut (index : Nat)
  | elapse (duration : Nat)

def operationId (nameSpace : String) (number : Nat) : String :=
  "battery-operation-" ++ nameSpace ++ "-" ++ toString number

namespace Operations

variable {Params Value : Type}

def mark (operations : Operations Params Value) (mark : Mark Params Value) :
    Operations Params Value :=
  { operations with trace := operations.trace ++ [mark] }

/-- An entry that is finished is kept for a while. -/
def retained (now : Nat) (entry : Entry Value) : Bool :=
  entry.finished.all fun time => now - time < retention

def prune (operations : Operations Params Value) : Operations Params Value :=
  { operations with
    entries := operations.entries.filter fun _ entry =>
      retained operations.now entry }

def start (operations : Operations Params Value) (owner : Owner)
    (work : Start Params) : Reply Value × Operations Params Value :=
  let pruned := operations.prune
  if capacity ≤ pruned.entries.size ∨
      pruned.entries.values.any (·.response.isNone) then
    (.error "operation-active"
      "battery operation capacity exceeded; request was not dispatched",
        pruned)
  else
    let id := operationId owner.nameSpace (pruned.next + 1)
    (started id, { pruned with
      next := pruned.next + 1
      entries := pruned.entries.insert id (.admitted owner)
      tasks := pruned.tasks ++ [(⟨id, .checking⟩ : Task)] }.mark
        (.admitted id owner work))

/-- `cancel.send_replace(true)` -/
def cancel (operations : Operations Params Value) (id : String)
    (cause : Cause) : Operations Params Value :=
  { operations with
    entries := operations.entries.modify id fun entry =>
      { entry with cancel := true } }.mark (.cancelled id cause)

def lookup (operations : Operations Params Value) (method : String)
    (request : Except String String) (owner : Owner) :
    Reply Value × Operations Params Value :=
  match request with
  | .error text => (.error "validation-error" text, operations)
  | .ok id =>
      match operations.entries[id]?.filter fun entry =>
          entry.owner == owner.name && retained operations.now entry with
      | none => (.error "operation-not-found"
          "operation expired or belongs to another owner; reconcile state",
            operations)
      | some entry =>
          if method = "battery.operation.cancel" then
            (status id entry.response true,
              operations.cancel id (.requested owner))
          else (status id entry.response entry.cancel, operations)

def call (operations : Operations Params Value) (method : String)
    (params : CallParams Params) (owner : Owner) :
    Reply Value × Operations Params Value :=
  if method = "battery.operation.start" then
    match params.start with
    | .error text => (.error "validation-error" text, operations)
    | .ok work =>
        if work.method ∈ methods then operations.start owner work
        else (.error "validation-error"
          "method is not an interactive battery operation", operations)
  else operations.lookup method params.lookup owner

/-! ### The task of an operation -/

def advance (operations : Operations Params Value) (index : Nat)
    (task : Task) : Operations Params Value :=
  { operations with tasks := operations.tasks.set index task }

/-- A task has ended. -/
def release (operations : Operations Params Value) (index : Nat) :
    Operations Params Value :=
  { operations with tasks := operations.tasks.eraseIdx index }

def forget (operations : Operations Params Value) (id : String) :
    Operations Params Value :=
  { operations with entries := operations.entries.erase id }

def finish (operations : Operations Params Value) (id : String)
    (response : Response Value) : Operations Params Value :=
  { operations with
    entries := operations.entries.modify id fun entry =>
      { entry with
        response := some response
        finished := some operations.now } }

def checked (operations : Operations Params Value) (index : Nat)
    (task : Task) (answer : Bool) : Operations Params Value :=
  if answer then
    (operations.advance index
      { task with stage := .running operations.now }).mark (.began task.id)
  else ((operations.forget task.id).release index).mark (.dropped task.id)

/-- The work of a task has settled. -/
def settled (operations : Operations Params Value) (index : Nat)
    (task : Task) (response : Response Value) (ownerLost : Bool) :
    Operations Params Value :=
  if ownerLost then
    ((operations.forget task.id).release index).mark
      (.settled task.id response)
  else ((operations.finish task.id response).release index).mark
    (.settled task.id response)

def step (operations : Operations Params Value) :
    Event Params Value → Operations Params Value
  | .call method params owner =>
      let answer := operations.call method params owner
      answer.2.mark (.replied owner answer.1)
  | .answered index answer =>
      match operations.tasks[index]? with
      | some ⟨id, .checking⟩ =>
          operations.checked index ⟨id, .checking⟩ answer
      | _ => operations
  | .settle index outcome =>
      let response := (outcome.map .dispatched).getD .unknown
      match operations.tasks[index]? with
      | some ⟨id, .running since⟩ =>
          operations.settled index ⟨id, .running since⟩ response false
      | some ⟨id, .cancelling ownerLost⟩ =>
          operations.settled index ⟨id, .cancelling ownerLost⟩ response
            ownerLost
      | _ => operations
  | .close index =>
      match operations.tasks[index]? with
      | some ⟨id, .running _⟩ =>
          (operations.advance index ⟨id, .cancelling true⟩).cancel id
            .ownerLost
      | _ => operations
  | .timeOut index =>
      match operations.tasks[index]? with
      | some ⟨id, .running since⟩ =>
          if since + operationBudget ≤ operations.now then
            (operations.advance index ⟨id, .cancelling false⟩).cancel id
              .deadline
          else operations
      | _ => operations
  | .elapse duration =>
      { operations with now := operations.now + duration }

def initial : Operations Params Value :=
  ⟨0, ∅, [], 0, []⟩

def after (events : List (Event Params Value)) : Operations Params Value :=
  run step initial events

end Operations

/-! ### Operation ids -/

theorem toDigits_reverse_takeWhile (number : Nat) (rest : List Char) :
    ((Nat.toDigits 10 number).reverse ++ '-' :: rest).takeWhile (· ≠ '-') =
      (Nat.toDigits 10 number).reverse := by
  have digits : ∀ char ∈ (Nat.toDigits 10 number).reverse,
      decide (char ≠ '-') = true := by
    intro char member
    have digit := Nat.isDigit_of_mem_toDigits (by decide) (by decide)
      (List.mem_reverse.mp member)
    rw [decide_eq_true_eq]
    rintro rfl
    nomatch digit
  rw [List.takeWhile_append_of_pos digits]
  simp

theorem toList_operationId_reverse (nameSpace : String) (number : Nat) :
    ∃ rest, (operationId nameSpace number).toList.reverse =
      (Nat.toDigits 10 number).reverse ++ '-' :: rest := by
  have dash : "-".toList = ['-'] := by simp
  unfold operationId
  generalize "battery-operation-" ++ nameSpace = stem
  refine ⟨stem.toList.reverse, ?_⟩
  rw [String.toList_append, String.toList_append, dash,
    Nat.toString_eq_ofList_toDigits, String.toList_ofList]
  simp

/-- The number of an operation id can be read off its end. -/
theorem operationId_number {first second : String} {number other : Nat}
    (same : operationId first number = operationId second other) :
    number = other := by
  obtain ⟨rest, reads⟩ := toList_operationId_reverse first number
  obtain ⟨others, readsOther⟩ := toList_operationId_reverse second other
  have digits : (Nat.toDigits 10 number).reverse =
      (Nat.toDigits 10 other).reverse := by
    rw [← toDigits_reverse_takeWhile number rest, ← reads, same, readsOther,
      toDigits_reverse_takeWhile]
  calc
    number = Nat.ofDigitChars 10 (Nat.toDigits 10 number) 0 :=
      Nat.ofDigitChars_ten_toDigits.symm
    _ = Nat.ofDigitChars 10 (Nat.toDigits 10 other) 0 := by
      rw [List.reverse_inj.mp digits]
    _ = other := Nat.ofDigitChars_ten_toDigits

end BarDaemon.BatteryOperations
