import BarDaemon.MachineIntegers
import BarDaemon.MediaEnrichment

/-!
# Which player is active

Pins, the order in which players have started, and control modes are kept by
the identity of a player, and only as long as it is observed.
-/

namespace BarDaemon.Media

open Std

/-- `max_by_key`: the last of the items with the largest key. -/
def maxByKey {Item : Type} (key : Item → Nat) : List Item → Option Item
  | [] => none
  | item :: items =>
      match maxByKey key items with
      | some other => if key item ≤ key other then some other else some item
      | none => some item

structure MediaState where
  available : Bool
  activePlayer : Option String
  pinnedPlayer : Option String
  players : List MediaPlayer
  error : Option String

/-- `MediaState::default` -/
def MediaState.default : MediaState :=
  ⟨false, none, none, [], none⟩

def MediaPlayer.playing (player : MediaPlayer) : Bool :=
  player.playbackStatus == "playing"

/-- `eq_ignore_ascii_case` with a name in lower case. -/
def named (value name : String) : Bool :=
  value.toLower == name

structure MediaSelection where
  pinned : Option String
  previous : ExtTreeMap String Bool
  started : ExtTreeMap String Nat
  modes : ExtTreeMap String MediaControlMode
  sequence : Nat
  initialized : Bool

/-- `MediaSelection::default` -/
def MediaSelection.default : MediaSelection :=
  ⟨none, ∅, ∅, ∅, 0, false⟩

def nextPlayerId (players : List MediaPlayer) (current : Option String) :
    Option String :=
  if players.length < 2 then none
  else
    let next :=
      match players.findIdx? fun player => some player.id == current with
      | some index => (index + 1) % players.length
      | none => 0
    players[next]?.map MediaPlayer.id

def selectActivePlayer (players : List MediaPlayer) : Option MediaPlayer :=
  (players.find? MediaPlayer.playing).or
    ((players.find? fun player =>
      named player.desktopEntry "spotify" || named player.identity "spotify").or
        ((players.find? MediaPlayer.canControl).or players.head?))

namespace MediaSelection

/-- The player that has started last, of those that play or of all. -/
def recent (selection : MediaSelection) (players : List MediaPlayer)
    (playingOnly : Bool) : Option MediaPlayer :=
  maxByKey (fun player => (selection.started[player.id]?).getD 0)
    (players.filter fun player =>
      selection.started.contains player.id && (!playingOnly || player.playing))

def active (selection : MediaSelection) (players : List MediaPlayer) :
    Option String :=
  match selection.pinned with
  | some id => some id
  | none =>
      ((selection.recent players true).or
        ((players.find? MediaPlayer.playing).or
          ((selection.recent players false).or
            (selectActivePlayer players)))).map MediaPlayer.id

/-- Whether a player is seen to begin. -/
def begins (selection : MediaSelection) (player : MediaPlayer) : Bool :=
  selection.initialized && player.playing &&
    !(selection.previous[player.id]?).getD false

/-- The body of the loop of `snapshot`. -/
def observe (selection : MediaSelection) (player : MediaPlayer) :
    MediaSelection :=
  let selection :=
    if selection.begins player then
      { selection with
        sequence := saturatingAdd selection.sequence 1
        started := selection.started.insert player.id
          (saturatingAdd selection.sequence 1) }
    else selection
  { selection with
    previous := selection.previous.insert player.id player.playing }

def present (players : List MediaPlayer) (id : String) : Bool :=
  players.any fun player => player.id == id

/-- Forget the players that are absent. -/
def prune (selection : MediaSelection) (players : List MediaPlayer) :
    MediaSelection :=
  { selection with
    previous := selection.previous.filter fun id _ => present players id
    started := selection.started.filter fun id _ => present players id
    modes := selection.modes.filter fun id _ => present players id
    pinned := selection.pinned.filter (present players) }

def withMode (selection : MediaSelection) (player : MediaPlayer) : MediaPlayer :=
  { player with controlMode := (selection.modes[player.id]?).getD .automatic }

/-- `snapshot` -/
def snapshot (selection : MediaSelection) (players : List MediaPlayer) :
    MediaSelection × MediaState :=
  let selection := players.foldl observe (selection.prune players)
  -- no step of the loop changes a mode
  let players := players.map selection.withMode
  let selection := { selection with initialized := !players.isEmpty }
  (selection, ⟨!players.isEmpty, selection.active players, selection.pinned,
    players, none⟩)

/-- Automatic control is what holds without an entry. -/
def remember (selection : MediaSelection) (id : String)
    (mode : MediaControlMode) : MediaSelection :=
  { selection with
    modes :=
      if mode = .automatic then selection.modes.erase id
      else selection.modes.insert id mode }

end MediaSelection

/-! ### The service -/

/-- For the statements only: what has been done, newest first. -/
inductive Happened
  | seen (players : List MediaPlayer)
  | mode (id : String) (mode : MediaControlMode)

structure MediaService where
  selection : MediaSelection
  published : MediaState
  log : List Happened

inductive MediaEvent
  /-- The players are read and published. -/
  | observed (players : Players)
  /-- The players cannot be read. -/
  | failed (error : String)
  | select (id : Option String)
  | cycle
  | setMode (id : String) (mode : MediaControlMode)

namespace MediaService

def initial : MediaService :=
  ⟨.default, .default, []⟩

def publish (service : MediaService) (players : List MediaPlayer) :
    MediaService :=
  let (selection, state) := service.selection.snapshot players
  ⟨selection, state, .seen players :: service.log⟩

def unavailable : String :=
  "requested media player is no longer available"

def select (service : MediaService) (id : Option String) :
    Except String MediaService :=
  let players := service.published.players
  if id.any fun id => !MediaSelection.present players id then
    .error unavailable
  else
    .ok (publish { service with
      selection := { service.selection with pinned := id } } players)

def cycle (service : MediaService) : Except String MediaService :=
  let current := service.published
  match nextPlayerId current.players current.activePlayer with
  | some id =>
      .ok (publish { service with
        selection := { service.selection with pinned := some id } }
          current.players)
  | none => .error "no alternate MPRIS player is available"

def setMode (service : MediaService) (id : String) (mode : MediaControlMode) :
    Except String MediaService :=
  let players := service.published.players
  if MediaSelection.present players id then
    .ok (publish { service with
      selection := service.selection.remember id mode
      log := .mode id mode :: service.log } players)
  else .error unavailable

def act (service : MediaService) : MediaEvent → Except String MediaService
  | .observed players => .ok (service.publish players.list)
  | .failed error =>
      .ok { service with
        published := { MediaState.default with error := some error } }
  | .select id => service.select id
  | .cycle => service.cycle
  | .setMode id mode => service.setMode id mode

/-- A request that fails changes nothing. -/
def step (service : MediaService) (event : MediaEvent) : MediaService :=
  match service.act event with
  | .ok after => after
  | .error _ => service

end MediaService

end BarDaemon.Media
