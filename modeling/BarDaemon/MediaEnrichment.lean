import BarDaemon.MediaPlayers
import BarDaemon.TransitionRuns

/-!
# Enrichment of media players

Lookups of videos run as tasks of their own.  What they find is bound to the
session of the player that asked for it, and cached.
-/

namespace BarDaemon.Media

open Std TransitionRuns

def maxRequests : Nat :=
  4

def maxCache : Nat :=
  32

/-- Ten seconds. -/
def windowNs : Nat :=
  10 * 1000000000

/-- Six hours. -/
def successTtl : Nat :=
  6 * 60 * 60 * 1000000000

/-- Five minutes. -/
def failureTtl : Nat :=
  5 * 60 * 1000000000

/-- The order in which hash maps are gone over. -/
structure Iteration where
  arrange : {Item : Type} → List Item → List Item
  perm : ∀ {Item : Type} (items : List Item), (arrange items).Perm items

/-- The players of one reading, one for each bus name. -/
structure Players where
  list : List MediaPlayer
  distinct : (list.map MediaPlayer.id).Nodup

/-! ## State -/

structure Session where
  observed : MediaPlayer
  generation : Nat
  metadata : Option Metadata

/-- `Session::default` -/
def Session.default : Session :=
  ⟨.default, 0, none⟩

/-- A player with the metadata of its session. -/
def Session.fill (session : Session) (player : MediaPlayer) : MediaPlayer :=
  match session.metadata with
  | some metadata => applyMetadata metadata player
  | none => player

structure Ticket where
  player : String
  generation : Nat
deriving DecidableEq, Repr

structure Completed where
  video : String
  tickets : List Ticket
  metadata : Option Metadata
deriving DecidableEq, Repr

structure Cached where
  metadata : Option Metadata
  expires : Nat
  used : Nat
deriving DecidableEq, Repr

inductive Progress
  | running
  | finished (metadata : Option Metadata)
  | panicked
  | cancelled
deriving DecidableEq, Repr

/-- A task that has not been joined. -/
structure Task where
  video : String
  tickets : List Ticket
  progress : Progress
  /-- `abort` has been called; the task may still finish before it takes
  effect. -/
  aborted : Bool
deriving DecidableEq, Repr

/-- A running task ends. -/
def Task.ends (progress : Progress) (task : Task) : Task :=
  if task.progress = .running then { task with progress } else task

/-- What the coordinator has seen of the players, in order. -/
inductive Mark
  /-- The players are read: these are there. -/
  | read (ids : List String)
  | observed (id : String) (content : Content)
  /-- The player gets the video from the cache, or a ticket for it. -/
  | asked (id : String) (content : Content) (video : String)

structure Enrichment where
  /-- Whether there is a fetcher. -/
  enabled : Bool
  sessions : ExtTreeMap String Session
  generation : Nat
  cache : ExtTreeMap String Cached
  pending : List String
  requestWindow : Option Nat
  requestsStarted : Nat
  tasks : List Task
  -- For the statements only: what has been fetched, what has been seen of the
  -- players, and the windows that lookups started in.
  fetched : List (String × Metadata)
  history : List Mark
  starts : List Nat

namespace Enrichment

def initial (enabled : Bool) : Enrichment where
  enabled := enabled
  sessions := ∅
  generation := 0
  cache := ∅
  pending := []
  requestWindow := none
  requestsStarted := 0
  tasks := []
  fetched := []
  history := []
  starts := []

def marked (state : Enrichment) (mark : Mark) : Enrichment :=
  { state with history := state.history ++ [mark] }

/-! ## The cache -/

/-- `min_by_key`: the first of the entries that have been used least
recently. -/
def leastUsed (entries : List (String × Cached)) : Option (String × Cached) :=
  entries.foldl (fun least entry =>
    match least with
    | none => some entry
    | some kept => some (if entry.2.used < kept.2.used then entry else kept))
    none

def cacheResult (order : Iteration) (cache : ExtTreeMap String Cached)
    (video : String) (metadata : Option Metadata) (now ttl : Nat) :
    ExtTreeMap String Cached :=
  let room :=
    if maxCache ≤ cache.size then
      match leastUsed (order.arrange cache.toList) with
      | some oldest => cache.erase oldest.1
      | none => cache
    else cache
  room.insert video ⟨metadata, now + ttl, now⟩

/-! ## Refreshing -/

section Refresh

variable (videoOf : String → Option String) (order : Iteration)

/-- The session of a player, begun anew where its content has changed. -/
def observe (state : Enrichment) (player : MediaPlayer) :
    Enrichment × Session :=
  let state := state.marked (.observed player.id (contentKey player))
  let session := (state.sessions[player.id]?).getD .default
  if session.generation = 0 ∨
      contentKey session.observed ≠ contentKey player then
    let fresh : Session := ⟨player, state.generation + 1, none⟩
    ({ state with
        generation := state.generation + 1
        sessions := state.sessions.insert player.id fresh }, fresh)
  else (state, session)

/-- What a player that is looked up gets: the metadata of its session, and a
request where the video is neither cached nor pending. -/
def lookup (state : Enrichment) (now : Nat) (player : MediaPlayer)
    (session : Session) (video : String) :
    Enrichment × Session × Option (String × Ticket) :=
  let asked := state.marked (.asked player.id (contentKey player) video)
  match state.cache[video]? with
  | some entry =>
      let session := { session with
        metadata := entry.metadata.or session.metadata }
      ({ asked with
          cache := state.cache.insert video { entry with used := now }
          sessions := state.sessions.insert player.id session }, session, none)
  | none =>
      if state.pending.contains video then (state, session, none)
      else (asked, session, some (video, ⟨player.id, session.generation⟩))

def preparePlayer (state : Enrichment) (now : Nat) (player : MediaPlayer) :
    Enrichment × MediaPlayer × Option (String × Ticket) :=
  let (state, session) := state.observe player
  let (state, session, request) :=
    match lookupVideo videoOf player with
    | some video => state.lookup now player session video
    | none => (state, session, none)
  (state, session.fill player, request)

/-- The tickets by video. -/
abbrev Requests : Type :=
  ExtTreeMap String (List Ticket)

def addRequest (requests : Requests) (request : Option (String × Ticket)) :
    Requests :=
  match request with
  | some (video, ticket) =>
      requests.insert video ((requests[video]?).getD [] ++ [ticket])
  | none => requests

def preparePlayers (now : Nat) : Enrichment → Requests → List MediaPlayer →
    Enrichment × Requests × List MediaPlayer
  | state, requests, [] => (state, requests, [])
  | state, requests, player :: players =>
      let (state, shown, request) := state.preparePlayer videoOf now player
      let (state, requests, rest) :=
        preparePlayers now state (addRequest requests request) players
      (state, requests, shown :: rest)

def spawn (state : Enrichment) (video : String) (tickets : List Ticket) :
    Enrichment :=
  { state with
    requestsStarted := state.requestsStarted + 1
    pending :=
      if state.pending.contains video then state.pending
      else state.pending ++ [video]
    tasks := state.tasks ++ [⟨video, tickets, .running, false⟩]
    starts := state.starts ++ [state.requestWindow.getD 0] }

/-- Start lookups while there is room for them. -/
def start : Enrichment → List (String × List Ticket) → Enrichment
  | state, [] => state
  | state, (video, tickets) :: requests =>
      if maxRequests ≤ state.pending.length ∨
          maxRequests ≤ state.requestsStarted then state
      else start (state.spawn video tickets) requests

/-- Begin a request window, and drop what is out of date. -/
def renew (state : Enrichment) (now : Nat) (players : Players) : Enrichment :=
  let state :=
    if state.requestWindow.all fun start => windowNs ≤ now - start then
      { state with
        requestWindow := some now
        requestsStarted := 0 }
    else state
  { state with
    cache := state.cache.filter fun _ entry => now < entry.expires
    sessions := state.sessions.filter fun id _ =>
      players.list.any fun player => player.id == id
    history := state.history ++ [.read (players.list.map MediaPlayer.id)] }

def prepare (state : Enrichment) (now : Nat) (players : Players) :
    Enrichment × List MediaPlayer :=
  if state.enabled then
    let (state, requests, shown) :=
      preparePlayers videoOf now (state.renew now players) ∅ players.list
    (state.start (order.arrange requests.toList), shown)
  else (state, players.list)

/-! ## Completion -/

/-- Put metadata on the first player with an identity. -/
def putOn (id : String) (metadata : Metadata) : List MediaPlayer →
    List MediaPlayer
  | [] => []
  | player :: players =>
      if player.id = id then applyMetadata metadata player :: players
      else player :: putOn id metadata players

/-- Redeem a ticket whose session has not ended. -/
def redeem (metadata : Metadata) (result : Enrichment × List MediaPlayer)
    (ticket : Ticket) : Enrichment × List MediaPlayer :=
  let (state, players) := result
  match state.sessions[ticket.player]? with
  | some session =>
      if session.generation = ticket.generation ∧
          players.any fun player => player.id == ticket.player then
        ({ state with
            sessions := state.sessions.insert ticket.player
              { session with metadata := some metadata } },
          putOn ticket.player metadata players)
      else result
  | none => result

def ttlOf (metadata : Option Metadata) : Nat :=
  if metadata.any fun metadata => metadata.artwork.isSome then successTtl
  else failureTtl

/-- The part of `complete` before the result is cached. -/
def deliver (state : Enrichment) (result : Completed)
    (players : List MediaPlayer) : Enrichment × List MediaPlayer :=
  let state := { state with pending := state.pending.erase result.video }
  match result.metadata with
  | some metadata => result.tickets.foldl (redeem metadata) (state, players)
  | none => (state, players)

def complete (state : Enrichment) (now : Nat) (result : Completed)
    (players : List MediaPlayer) : Enrichment × List MediaPlayer :=
  let (state, players) := state.deliver result players
  ({ state with
      cache := cacheResult order state.cache result.video result.metadata now
        (ttlOf result.metadata) }, players)

/-- `task_failed` -/
def taskFailed (state : Enrichment) (now : Nat) : Enrichment :=
  { state with
    tasks := state.tasks.map fun task => { task with aborted := true }
    cache := (order.arrange state.pending).foldl (fun cache video =>
      cacheResult order cache video none now failureTtl) state.cache
    pending := [] }

/-- `refresh_players`: what is published, too. -/
def refreshPlayers (state : Enrichment) (now later : Nat) (players : Players)
    (completed : Option Completed) : Enrichment × List MediaPlayer :=
  let (state, shown) := state.prepare videoOf order now players
  match completed with
  | some completed => state.complete order later completed shown
  | none => (state, shown)

end Refresh

/-! ## Steps -/

/-- What a task does between two looks of the monitor. -/
def withTask (state : Enrichment) (index : Nat) (change : Task → Task) :
    Enrichment :=
  { state with tasks := state.tasks.modify index change }

end Enrichment

open Enrichment

inductive Happening
  /-- A signal of the bus: the players are read again. -/
  | refreshed (now : Nat) (players : Players)
  /-- A lookup ends. -/
  | resolved (index : Nat) (metadata : Option Metadata)
  | panicked (index : Nat)
  /-- The abort of a task takes effect. -/
  | cancelled (index : Nat)
  /-- A task that has ended is joined, and the players are read again. -/
  | joined (index : Nat) (now later : Nat) (players : Players)

/-- A happening, and the order of the hash maps in it. -/
structure Event where
  order : Iteration
  happening : Happening

namespace Enrichment

variable (videoOf : String → Option String)

/-- A lookup ends with what it has fetched. -/
def resolve (state : Enrichment) (index : Nat) (metadata : Option Metadata) :
    Enrichment :=
  match state.tasks[index]?, metadata with
  | some task, some metadata =>
      if task.progress = .running then
        { state.withTask index (·.ends (.finished (some metadata))) with
          fetched := state.fetched ++ [(task.video, metadata)] }
      else state
  | _, _ => state.withTask index (·.ends (.finished none))

/-- What `join_next` gives. -/
def join (state : Enrichment) (order : Iteration) (index now later : Nat)
    (players : Players) : Enrichment × Option (List MediaPlayer) :=
  match state.tasks[index]? with
  | none => (state, none)
  | some task =>
      let joined := { state with tasks := state.tasks.eraseIdx index }
      match task.progress with
      | .running => (state, none)
      | .finished metadata =>
          let (state, shown) := joined.refreshPlayers videoOf order now later
            players (some ⟨task.video, task.tickets, metadata⟩)
          (state, some shown)
      | _ => (joined.taskFailed order now, none)

/-- One happening; the players are shown where they have been read. -/
def act (state : Enrichment) (event : Event) :
    Enrichment × Option (List MediaPlayer) :=
  match event.happening with
  | .refreshed now players =>
      let (state, shown) :=
        state.refreshPlayers videoOf event.order now now players none
      (state, some shown)
  | .resolved index metadata => (state.resolve index metadata, none)
  | .panicked index => (state.withTask index (·.ends .panicked), none)
  | .cancelled index =>
      (state.withTask index fun task =>
        if task.aborted then task.ends .cancelled else task, none)
  | .joined index now later players =>
      state.join videoOf event.order index now later players

def step (state : Enrichment) (event : Event) : Enrichment :=
  (state.act videoOf event).1

/-- The lookups that have neither ended nor been cancelled. -/
def inFlight (state : Enrichment) : List Task :=
  state.tasks.filter fun task => task.progress == .running && !task.aborted

end Enrichment

end BarDaemon.Media
