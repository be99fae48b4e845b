import BarDaemon.MachineIntegers
import Mathlib.Data.List.Basic
import Mathlib.Logic.Function.Basic

/-!
# The state store

Every domain of the desktop is one stream.  A commit gives the stream the next
revision and sends its payload, and a reader who holds the lock sees the payload
with the same revision.  A monitor that has failed leaves its streams marked
unavailable, over whatever is stored.
-/

namespace BarDaemon.Publications

/-! ### Streams -/

inductive Stream
  | theme
  | activity
  | workspaces
  | workarea
  | compositor
  | media
  | audio
  | brightness
  | battery
  | powerProfile
  | powerSleep
  | sleepPolicy
  | displayPolicy
  | osdHardware
  | notifications
  | notificationActive
  | updates
  | timezone
deriving DecidableEq, Repr

namespace Stream

/-- Streams that keep a bounded history, instead of the last state only. -/
def ordered : Stream → Bool
  | .powerSleep => true
  | .battery => true
  | .notificationActive => true
  | .osdHardware => true
  | _ => false

def all : List Stream :=
  [.theme, .activity, .workspaces, .workarea, .compositor, .media, .audio,
    .brightness, .battery, .powerProfile, .powerSleep, .sleepPolicy,
    .displayPolicy, .osdHardware, .notifications, .notificationActive,
    .updates, .timezone]

theorem mem_all (stream : Stream) : stream ∈ all := by
  cases stream <;> decide

end Stream

/-! ### Publications -/

/-- 2^53 - 1, the largest integer that a double keeps apart from the next. -/
def maxRevision : Nat :=
  9007199254740991

structure Publication where
  epoch : String
  revision : Nat
  previousEpoch : Option String
deriving DecidableEq, Repr

namespace Publication

def new (epoch : String) : Publication :=
  ⟨epoch, 1, none⟩

/-- An epoch is drawn only when the last one is exhausted. -/
def advance (publication : Publication) (epoch : String) : Publication :=
  if publication.revision = maxRevision then
    ⟨epoch, 1, some publication.epoch⟩
  else { publication with revision := publication.revision + 1 }

def draws (publication : Publication) : Nat :=
  if publication.revision = maxRevision then 1 else 0

end Publication

/-! ### Domains -/

/-- The members of a JSON object that matter here, by name. -/
inductive Member
  | boolean (value : Bool)
  | text (value : String)
  | other (json : String)
deriving DecidableEq, Repr

abbrev Fields : Type :=
  List (String × Member)

/-- `data[name] = value` -/
def put (name : String) (value : Member) : Fields → Fields
  | [] => [(name, value)]
  | (key, held) :: fields =>
      if key = name then (key, value) :: fields
      else (key, held) :: put name value fields

/-- A stream of a failed monitor. -/
def unhealthy (reason : Option String) (data : Fields) : Fields :=
  match reason with
  | none => data
  | some reason => put "error" (.text reason)
      (put "available" (.boolean false) data)

/-- A part of a state that is written on its own. -/
structure Part (State : Type) where
  Value : Type
  get : State → Value
  put : Value → State → State
  /-- `==` of the source. -/
  same : Value → Value → Bool

/-- A part that counts. -/
structure Counter (State : Type) where
  get : State → Nat
  put : Nat → State → State

/-- The states of the streams, and what the serializer makes of them. -/
structure Domains where
  State : Stream → Type
  default : ∀ stream, State stream
  /-- `==` of the source. -/
  same : ∀ stream, State stream → State stream → Bool
  /-- `to_value` -/
  encode : ∀ stream, State stream → Fields
  /-- `from_value` -/
  decode : ∀ stream, Fields → Option (State stream)
  workAreaRevision : Counter (State .workarea)
  compositorRevision : Counter (State .compositor)
  lid : Part (State .sleepPolicy)
  criticalBattery : Part (State .sleepPolicy)
  resumeGeneration : Counter (State .powerSleep)
  operation : Part (State .powerSleep)
  preparingForSleep : Bool → State .powerSleep → State .powerSleep

namespace Domains

/-- What is encoded again after it has been decoded comes out the same, also
when a failure has been written into it. -/
def Reencodes (domains : Domains) : Prop :=
  ∀ stream state reason healthy,
    domains.decode stream (unhealthy reason (domains.encode stream state)) =
        some healthy →
      domains.encode stream healthy =
        unhealthy reason (domains.encode stream state)

variable (domains : Domains)

/-! ### Writers

What a writer makes of the current state; without a state nothing has changed.
-/

def update {stream : Stream} (value current : domains.State stream) :
    Option (domains.State stream) :=
  if domains.same stream current value then none else some value

/-- The revision counts the changes of the rest. -/
def revise {stream : Stream} (revision : Counter (domains.State stream))
    (value current : domains.State stream) : Option (domains.State stream) :=
  let value := revision.put (revision.get current) value
  if domains.same stream value current then none
  else some (revision.put (saturatingAdd (revision.get value) 1) value)

def updateWorkArea (value current : domains.State .workarea) :
    Option (domains.State .workarea) :=
  domains.revise domains.workAreaRevision value current

def updateCompositor (value current : domains.State .compositor) :
    Option (domains.State .compositor) :=
  domains.revise domains.compositorRevision value current

/-- The lid and the critical battery are observed by others. -/
def updateSleepPolicy (value current : domains.State .sleepPolicy) :
    Option (domains.State .sleepPolicy) :=
  let value := domains.lid.put (domains.lid.get current) value
  let value := domains.criticalBattery.put
    (domains.criticalBattery.get current) value
  if !domains.same .sleepPolicy current value then some value else none

def updatePart {stream : Stream} (part : Part (domains.State stream))
    (value : part.Value) (current : domains.State stream) :
    Option (domains.State stream) :=
  if !part.same (part.get current) value then some (part.put value current)
  else none

def updateCriticalBattery (value : domains.criticalBattery.Value)
    (current : domains.State .sleepPolicy) :
    Option (domains.State .sleepPolicy) :=
  domains.updatePart domains.criticalBattery value current

def updateLid (value : domains.lid.Value)
    (current : domains.State .sleepPolicy) :
    Option (domains.State .sleepPolicy) :=
  domains.updatePart domains.lid value current

def recordSleepOperation (value : domains.operation.Value)
    (current : domains.State .powerSleep) :
    Option (domains.State .powerSleep) :=
  if domains.operation.same (domains.operation.get current) value then none
  else some (domains.operation.put value current)

def commitPowerSleep (value : Option (domains.State .powerSleep))
    (resumed : Bool) (preparing : Option Bool)
    (expected : Option (domains.State .powerSleep))
    (current : domains.State .powerSleep) :
    Option (domains.State .powerSleep) :=
  if expected.any fun expected => !domains.same .powerSleep expected current
  then none
  else
    let next := value.getD current
    let next := domains.resumeGeneration.put
      (saturatingAdd (domains.resumeGeneration.get current) resumed.toNat) next
    let next := domains.operation.put (domains.operation.get current) next
    let next := preparing.elim next fun preparing =>
      domains.preparingForSleep preparing next
    if domains.same .powerSleep current next then none else some next

end Domains

/-! ### The store -/

structure Payload where
  publication : Publication
  data : Fields
deriving DecidableEq, Repr

/-- What a receiver hands out. -/
inductive Seen
  | state (payload : Payload)
  | lagged (count : Nat)
deriving DecidableEq, Repr

/-- The worker of a subscription for one of its streams. -/
structure Subscriber where
  stream : Stream
  /-- How much of what has been sent is behind the receiver. -/
  position : Nat
  /-- The initial state, and what came after it. -/
  seen : List Seen
deriving Repr

structure Store (domains : Domains) where
  /-- How many epochs have been drawn. -/
  drawn : Nat
  snapshot : ∀ stream, domains.State stream
  publications : Stream → Publication
  failedMonitors : Stream → Option String
  /-- What has been sent to the receivers of a stream. -/
  sent : Stream → List Payload
  subscribers : List Subscriber
  /-- For the statements only: what the readers of a snapshot have seen. -/
  observed : List (Stream × Payload)

/-- The values that a broadcast channel keeps. -/
def capacity : Nat :=
  128

/-- A broadcast receiver that has fallen behind is told how much it has missed;
a watch receiver only sees the last value. -/
def receive (stream : Stream) (sent : List Payload) (position : Nat) :
    Option (Seen × Nat) :=
  if stream.ordered then
    if position + capacity < sent.length then
      some (.lagged (sent.length - capacity - position),
        sent.length - capacity)
    else sent[position]?.map fun payload => (.state payload, position + 1)
  else if position < sent.length then
    sent.getLast?.map fun payload => (.state payload, sent.length)
  else none

/-- The empty store, with the first epochs. -/
def Store.initial (domains : Domains) (epochs : Nat → String) :
    Store domains where
  drawn := Stream.all.length
  snapshot := domains.default
  publications stream := .new (epochs (Stream.all.idxOf stream))
  failedMonitors _ := none
  sent _ := []
  subscribers := []
  observed := []

namespace Store

variable {domains : Domains} (epochs : Nat → String)

def publish (store : Store domains) (stream : Stream) : Store domains :=
  let publication := store.publications stream
  let next := publication.advance (epochs store.drawn)
  { store with
    drawn := store.drawn + publication.draws
    publications := Function.update store.publications stream next
    sent := Function.update store.sent stream (store.sent stream ++
      [⟨next, unhealthy (store.failedMonitors stream)
        (domains.encode stream (store.snapshot stream))⟩]) }

/-- Keep what a writer has made of the state, and publish it. -/
def commit (store : Store domains) {stream : Stream}
    (writer : domains.State stream → Option (domains.State stream)) :
    Store domains :=
  match writer (store.snapshot stream) with
  | none => store
  | some next =>
      publish epochs { store with
        snapshot := Function.update store.snapshot stream next } stream

/-- The failure of a monitor stays until the daemon is restarted. -/
def monitorFailed (store : Store domains) (name : String)
    (streams : List Stream) (reason : String) : Store domains :=
  streams.foldl (publish epochs) { store with
    failedMonitors := fun stream =>
      if stream ∈ streams then
        some (name ++ " monitor " ++ reason ++ "; restart daemon to recover")
      else store.failedMonitors stream }

/-- `healthy_snapshot`, unless it panics. -/
def healthySnapshot (store : Store domains) :
    Option (∀ stream, domains.State stream) :=
  if ∀ stream ∈ Stream.all, store.failedMonitors stream = none then
    some store.snapshot
  else
    let overlaid := fun stream => domains.decode stream
      (unhealthy (store.failedMonitors stream)
        (domains.encode stream (store.snapshot stream)))
    if decoded : ∀ stream ∈ Stream.all, (overlaid stream).isSome then
      some fun stream => (overlaid stream).get (decoded stream stream.mem_all)
    else none

/-- `project`, of a snapshot that carries the publications of the store. -/
def project (store : Store domains)
    (healthy : ∀ stream, domains.State stream) (stream : Stream) : Payload :=
  ⟨store.publications stream, domains.encode stream (healthy stream)⟩

/-- A reader takes some streams from the snapshot. -/
def read (store : Store domains) (streams : List Stream) : Store domains :=
  match store.healthySnapshot with
  | none => store
  | some healthy =>
      { store with
        observed := store.observed ++
          streams.map fun stream => (stream, store.project healthy stream) }

/-- `snapshot_and_subscribe_domains`, and the start of the workers. -/
def subscribe (store : Store domains) (streams : List Stream) :
    Store domains :=
  match store.healthySnapshot with
  | none => store
  | some healthy =>
      { store with
        subscribers := store.subscribers ++ streams.map fun stream =>
          ⟨stream, (store.sent stream).length,
            [.state (store.project healthy stream)]⟩ }

/-- A worker takes the next item from its receiver. -/
def forward (store : Store domains) (index : Nat) : Store domains :=
  { store with
    subscribers := store.subscribers.modify index fun subscriber =>
      match receive subscriber.stream (store.sent subscriber.stream)
          subscriber.position with
      | none => subscriber
      | some (seen, position) =>
          { subscriber with
            position := position
            seen := subscriber.seen ++ [seen] } }

end Store

/-! ### Runs -/

inductive Event (domains : Domains)
  | update (stream : Stream) (value : domains.State stream)
  | updateWorkArea (value : domains.State .workarea)
  | updateCompositor (value : domains.State .compositor)
  | updateSleepPolicy (value : domains.State .sleepPolicy)
  | updateCriticalBattery (value : domains.criticalBattery.Value)
  | updateLid (value : domains.lid.Value)
  | commitPowerSleep (value : Option (domains.State .powerSleep))
      (resumed : Bool) (preparing : Option Bool)
      (expected : Option (domains.State .powerSleep))
  | recordSleepOperation (value : domains.operation.Value)
  | invalidateUpdateHistory
  | monitorFailed (name : String) (streams : List Stream) (reason : String)
  | read (streams : List Stream)
  | subscribe (streams : List Stream)
  | forward (index : Nat)

def Store.step {domains : Domains} (epochs : Nat → String)
    (store : Store domains) : Event domains → Store domains
  | .update _ value => store.commit epochs (domains.update value)
  | .updateWorkArea value => store.commit epochs (domains.updateWorkArea value)
  | .updateCompositor value =>
      store.commit epochs (domains.updateCompositor value)
  | .updateSleepPolicy value =>
      store.commit epochs (domains.updateSleepPolicy value)
  | .updateCriticalBattery value =>
      store.commit epochs (domains.updateCriticalBattery value)
  | .updateLid value => store.commit epochs (domains.updateLid value)
  | .commitPowerSleep value resumed preparing expected =>
      store.commit epochs
        (domains.commitPowerSleep value resumed preparing expected)
  | .recordSleepOperation value =>
      store.commit epochs (domains.recordSleepOperation value)
  | .invalidateUpdateHistory => store.publish epochs .updates
  | .monitorFailed name streams reason =>
      store.monitorFailed epochs name streams reason
  | .read streams => store.read streams
  | .subscribe streams => store.subscribe streams
  | .forward index => store.forward index

end BarDaemon.Publications
