import BarDaemon.MediaLimits

/-!
# Lookups in every interleaving

What is published, and how many lookups there are, in any order of signals,
ends of lookups and joins.
-/

namespace BarDaemon.Media

open Std TransitionRuns

namespace Enrichment

variable (videoOf : String → Option String) (enabled : Bool)

theorem windowed_run (events : List Event) :
    Windowed (run (step videoOf) (initial enabled) events) := by
  have always : StepsMeet (step videoOf) (fun _ _ => True) (initial enabled)
      events := stepsMeet_of_forall (fun _ _ => trivial) _ events
  have preserved : ∀ (state : Enrichment) (event : Event),
      Sound state ∧ Windowed state → True →
        Sound (step videoOf state event) ∧
          Windowed (step videoOf state event) :=
    fun _ event both _ => ⟨(publishes_act both.1 event).sound,
      windowed_act both.1 both.2 event⟩
  exact (invariant_run preserved
    ⟨sound_initial enabled, windowed_initial enabled⟩ always).2

theorem live_run {events : List Event}
    (orderly : StepsMeet (step videoOf) Orderly (initial enabled) events) :
    Live [] (run (step videoOf) (initial enabled) events) := by
  have preserved : ∀ (state : Enrichment) (event : Event),
      Sound state ∧ Live [] state → Orderly state event →
        Sound (step videoOf state event) ∧ Live [] (step videoOf state event) :=
    fun _ event both orderly => ⟨(publishes_act both.1 event).sound,
      live_act both.1 both.2 event orderly⟩
  exact (invariant_run preserved
    ⟨sound_initial enabled, live_initial enabled⟩ orderly).2

/-- Whatever the order of signals, ends of lookups and joins: a player is shown
with metadata of videos that it has asked for since it has its content, in its
blank texts only; no window starts more than four lookups; and, as long as
no cancelled lookup delivers a result, at most four are in flight, each of a
video of its own. -/
theorem lookups_in_every_run (events : List Event) (event : Event) :
    let before := run (step videoOf) (initial enabled) events
    let after := before.step videoOf event
    (∀ shown, (before.act videoOf event).2 = some shown →
      List.Forall₂ (fun raw shown => after.Put raw shown ∧ Keeps raw shown)
        event.happening.read shown) ∧
    after.pending.length ≤ 4 ∧
    (∀ window, after.starts.count window ≤ 4) ∧
    (StepsMeet (step videoOf) Orderly (initial enabled) (events ++ [event]) →
      after.inFlight.length ≤ 4 ∧ (after.inFlight.map Task.video).Nodup) := by
  intro before after
  have reached : run (step videoOf) (initial enabled) (events ++ [event]) =
      after :=
    run_append _ _ _ _
  have windowed := windowed_run videoOf enabled (events ++ [event])
  rw [reached] at windowed
  refine ⟨?_, windowed.few, windowed.limited, ?_⟩
  · intro shown published
    have put := (publishes_act (sound_run enabled events) event).shown shown
      published
    refine put.imp fun raw shown put => ⟨put, ?_⟩
    obtain ⟨found, rfl, -⟩ := put
    exact keeps_putAll found raw
  · intro orderly
    have live := live_run videoOf enabled orderly
    rw [reached] at live
    have within := inFlight_sublist after
    constructor
    · calc after.inFlight.length
          = (after.inFlight.map Task.video).length := List.length_map _ |>.symm
        _ ≤ (liveVideos after.tasks).length := within.length_le
        _ = after.pending.length := live.videos.length_eq
        _ ≤ 4 := windowed.few
    · exact within.nodup (live.videos.nodup_iff.mpr live.nodup)

end Enrichment

/-! ### Runs -/

section Samples

open Enrichment

def sampleVideo : String → Option String
  | "https://youtu.be/aaaaaaaaaaa" => some "aaaaaaaaaaa"
  | "https://youtu.be/bbbbbbbbbbb" => some "bbbbbbbbbbb"
  | "https://youtu.be/ccccccccccc" => some "ccccccccccc"
  | _ => none

def samplePlayer (id title url : String) : MediaPlayer :=
  { MediaPlayer.default with
    id := id
    owner := ":1.7"
    title := title
    source := some ⟨url, some .youtube⟩ }

def firefox : MediaPlayer :=
  samplePlayer "firefox" " " "https://youtu.be/aaaaaaaaaaa"

def chromium : MediaPlayer :=
  samplePlayer "chromium" "" "https://youtu.be/bbbbbbbbbbb"

def brave : MediaPlayer :=
  samplePlayer "brave" "" "https://youtu.be/ccccccccccc"

def inOrder (happening : Happening) : Event :=
  ⟨⟨fun items => items, fun _ => .rfl⟩, happening⟩

def found : Metadata :=
  ⟨"Song", "Band", none⟩

def one : Players :=
  ⟨[firefox], by decide⟩

def two : Players :=
  ⟨[firefox, chromium], by decide⟩

def three : Players :=
  ⟨[firefox, chromium, brave], by decide⟩

/-- The lookup of the first player ends. -/
def answered : List Event :=
  [inOrder (.refreshed 0 one), inOrder (.resolved 0 (some found))]

/-- The first of two lookups panics; a third one starts before the abort of
the second one is seen. -/
def failed : List Event :=
  [inOrder (.refreshed 0 two), inOrder (.panicked 0),
    inOrder (.joined 0 1 1 two), inOrder (.refreshed 2 three),
    inOrder (.cancelled 0)]

/-- One of two lookups panics after the other one has ended, whose result is
joined only when its video is looked up again. -/
def late : List Event :=
  [inOrder (.refreshed 0 two), inOrder (.resolved 0 (some found)),
    inOrder (.panicked 1), inOrder (.joined 1 1 1 two),
    inOrder (.refreshed (2 * failureTtl) two),
    inOrder (.joined 0 (2 * failureTtl) (2 * failureTtl) two),
    inOrder (.refreshed (4 * failureTtl) two)]

def reached (events : List Event) : Enrichment :=
  run (step sampleVideo) (initial true) events

/-- Two players ask for one video each, in one run without failures. -/
theorem lookups_in_every_run_sample :
    ((reached answered).step sampleVideo
      (inOrder (.refreshed 1 two))).inFlight.length ≤ 4 := by
  have orderly : StepsMeet (step sampleVideo) Orderly (initial true)
      (answered ++ [inOrder (.refreshed 1 two)]) :=
    ⟨trivial, trivial, trivial, trivial⟩
  exact ((lookups_in_every_run sampleVideo true answered
    (inOrder (.refreshed 1 two))).2.2.2 orderly).1

/-- A text of blanks is replaced; a failure cancels a lookup that has started
after it; and two lookups of one video are in flight. -/
theorem blank_title_is_replaced :
    (firefox.title = " " ∧
      ((reached answered).act sampleVideo
        (inOrder (.joined 0 1 1 one))).2.map (List.map MediaPlayer.title) =
          some ["Song"]) ∧
    ((reached failed).tasks.map fun task => (task.video, task.aborted)) =
      [("bbbbbbbbbbb", true), ("ccccccccccc", false)] ∧
    (((reached failed).step sampleVideo
      (inOrder (.joined 0 3 3 three))).tasks.map fun task =>
        (task.video, task.aborted)) = [("ccccccccccc", true)] ∧
    (reached late).inFlight.map Task.video =
      ["aaaaaaaaaaa", "bbbbbbbbbbb", "aaaaaaaaaaa"] := by
  decide +kernel

end Samples

end BarDaemon.Media
