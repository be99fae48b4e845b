import BarDaemon.OrderedMaps
import BarDaemon.UnicodeText

/-!
# Media players and their metadata

What a player shows, what tells one title from another, and how metadata from
elsewhere fills what the player leaves blank.
-/

namespace BarDaemon.Media

open Std

inductive MediaSourceService
  | youtube
  | vimeo
  | soundcloud
  | spotify
  | pocketcasts
  | audible
deriving DecidableEq, Repr

structure MediaSource where
  url : String
  service : Option MediaSourceService
deriving DecidableEq, Repr

inductive MediaControlMode
  | automatic
  | tracks
  | seek
deriving DecidableEq, Repr

structure MediaPlayer where
  id : String
  owner : String
  identity : String
  desktopEntry : String
  controlMode : MediaControlMode
  playbackStatus : String
  canControl : Bool
  /-- The fields that metadata from elsewhere has filled. -/
  metadataSources : ExtTreeMap String String
  source : Option MediaSource
  title : String
  artist : String
  album : String
  artUrl : String
  lengthUs : Nat

/-- `MediaPlayer::default` -/
def MediaPlayer.default : MediaPlayer :=
  ⟨"", "", "", "", .automatic, "", false, ∅, none, "", "", "", "", 0⟩

/-- What `content_key` compares. -/
structure Content where
  owner : String
  title : String
  artist : String
  album : String
  artUrl : String
  source : Option MediaSource
  lengthUs : Nat
deriving DecidableEq, Repr

def contentKey (player : MediaPlayer) : Content :=
  ⟨player.owner, player.title, player.artist, player.album, player.artUrl,
    player.source, player.lengthUs⟩

/-- A private file, with the URL that its path has. -/
structure Artwork where
  url : Option String
deriving DecidableEq, Repr

structure Metadata where
  title : String
  artist : String
  artwork : Option Artwork
deriving DecidableEq, Repr

/-- `trim().is_empty()` -/
def blank (value : String) : Bool :=
  trim value == ""

def provider : String :=
  "youtube-oembed"

namespace MediaPlayer

def fillTitle (player : MediaPlayer) (value : String) : MediaPlayer :=
  if blank player.title && value != "" then
    { player with
      title := value
      metadataSources := player.metadataSources.insert "title" provider }
  else player

def fillArtist (player : MediaPlayer) (value : String) : MediaPlayer :=
  if blank player.artist && value != "" then
    { player with
      artist := value
      metadataSources := player.metadataSources.insert "artist" provider }
  else player

def fillArtUrl (player : MediaPlayer) (artwork : Option Artwork) :
    MediaPlayer :=
  match artwork.bind Artwork.url with
  | some url =>
      if blank player.artUrl then
        { player with
          artUrl := url
          metadataSources := player.metadataSources.insert "art_url" provider }
      else player
  | none => player

end MediaPlayer

def applyMetadata (metadata : Metadata) (player : MediaPlayer) : MediaPlayer :=
  ((player.fillTitle metadata.title).fillArtist metadata.artist).fillArtUrl
    metadata.artwork

/-- Only a player with an owner and something blank is looked up;
`youtube_video_id` is a parameter. -/
def lookupVideo (videoOf : String → Option String) (player : MediaPlayer) :
    Option String :=
  if player.owner == "" || (!blank player.title && !blank player.artist &&
      !blank player.artUrl) then none
  else player.source.bind fun source => videoOf source.url

/-! ## What metadata leaves alone -/

/-- Everything but blank texts, and the note of what has been filled, stays. -/
structure Keeps (raw shown : MediaPlayer) : Prop where
  id : shown.id = raw.id
  owner : shown.owner = raw.owner
  source : shown.source = raw.source
  album : shown.album = raw.album
  lengthUs : shown.lengthUs = raw.lengthUs
  title : blank raw.title = false → shown.title = raw.title
  artist : blank raw.artist = false → shown.artist = raw.artist
  artUrl : blank raw.artUrl = false → shown.artUrl = raw.artUrl

theorem Keeps.refl (player : MediaPlayer) : Keeps player player :=
  ⟨rfl, rfl, rfl, rfl, rfl, fun _ => rfl, fun _ => rfl, fun _ => rfl⟩

theorem Keeps.trans {first second third : MediaPlayer}
    (before : Keeps first second) (after : Keeps second third) :
    Keeps first third where
  id := after.id.trans before.id
  owner := after.owner.trans before.owner
  source := after.source.trans before.source
  album := after.album.trans before.album
  lengthUs := after.lengthUs.trans before.lengthUs
  title given := by
    have kept := before.title given
    rw [← kept] at given ⊢
    exact after.title given
  artist given := by
    have kept := before.artist given
    rw [← kept] at given ⊢
    exact after.artist given
  artUrl given := by
    have kept := before.artUrl given
    rw [← kept] at given ⊢
    exact after.artUrl given

theorem keeps_fillTitle (player : MediaPlayer) (value : String) :
    Keeps player (player.fillTitle value) := by
  unfold MediaPlayer.fillTitle
  split
  · rename_i filled
    have missing := (Bool.and_eq_true _ _ ▸ filled).1
    refine ⟨rfl, rfl, rfl, rfl, rfl, ?_, fun _ => rfl, fun _ => rfl⟩
    intro given
    rw [missing] at given
    cases given
  · exact .refl player

theorem keeps_fillArtist (player : MediaPlayer) (value : String) :
    Keeps player (player.fillArtist value) := by
  unfold MediaPlayer.fillArtist
  split
  · rename_i filled
    have missing := (Bool.and_eq_true _ _ ▸ filled).1
    refine ⟨rfl, rfl, rfl, rfl, rfl, fun _ => rfl, ?_, fun _ => rfl⟩
    intro given
    rw [missing] at given
    cases given
  · exact .refl player

theorem keeps_fillArtUrl (player : MediaPlayer) (artwork : Option Artwork) :
    Keeps player (player.fillArtUrl artwork) := by
  unfold MediaPlayer.fillArtUrl
  split
  · split
    · rename_i missing
      refine ⟨rfl, rfl, rfl, rfl, rfl, fun _ => rfl, fun _ => rfl, ?_⟩
      intro given
      rw [missing] at given
      cases given
    · exact .refl player
  · exact .refl player

/-- A text that the player gives is never replaced. -/
theorem keeps_applyMetadata (metadata : Metadata) (player : MediaPlayer) :
    Keeps player (applyMetadata metadata player) :=
  ((keeps_fillTitle player _).trans (keeps_fillArtist _ _)).trans
    (keeps_fillArtUrl _ _)

/-- Metadata that are put on a player one after the other. -/
def putAll (found : List Metadata) (player : MediaPlayer) : MediaPlayer :=
  found.foldl (fun player metadata => applyMetadata metadata player) player

theorem putAll_append (found more : List Metadata) (player : MediaPlayer) :
    putAll (found ++ more) player = putAll more (putAll found player) :=
  List.foldl_append

theorem keeps_putAll (found : List Metadata) (player : MediaPlayer) :
    Keeps player (putAll found player) := by
  induction found generalizing player with
  | nil => exact .refl player
  | cons metadata found ih =>
      exact (keeps_applyMetadata metadata player).trans (ih _)

end BarDaemon.Media
