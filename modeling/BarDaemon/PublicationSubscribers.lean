import BarDaemon.PublicationDelivery

/-!
# Subscribers of the state store

A subscriber starts from the current state.  What it sees then follows the
publications of the stream, to the last one.
-/

namespace BarDaemon.Publications

open TransitionRuns

/-! ### What is seen of a stream -/

/-- The states among what has been seen. -/
def states (seen : List Seen) : List Payload :=
  seen.filterMap fun
    | .state payload => some payload
    | .lagged _ => none

@[simp]
theorem states_append (first second : List Seen) :
    states (first ++ second) = states first ++ states second := by
  simp [states]

@[simp]
theorem states_state (payload : Payload) :
    states [.state payload] = [payload] :=
  rfl

@[simp]
theorem states_lagged (count : Nat) : states [.lagged count] = [] :=
  rfl

/-- Every publication has been seen, or reported as missed. -/
inductive Covers : List Seen → List Payload → Prop
  | nil : Covers [] []
  | state (payload : Payload) {seen : List Seen} {passed : List Payload}
      (rest : Covers seen passed) :
      Covers (.state payload :: seen) (payload :: passed)
  | lagged (missed : List Payload) {seen : List Seen}
      {passed : List Payload} (rest : Covers seen passed) :
      Covers (.lagged missed.length :: seen) (missed ++ passed)

theorem Covers.append {first second : List Seen}
    {passed later : List Payload} (covers : Covers first passed)
    (next : Covers second later) :
    Covers (first ++ second) (passed ++ later) := by
  induction covers with
  | nil => exact next
  | state payload rest ih => exact .state payload ih
  | lagged missed rest ih =>
      rw [List.append_assoc]
      exact .lagged missed ih

theorem covers_state (payload : Payload) :
    Covers [.state payload] [payload] :=
  .state payload .nil

theorem covers_lagged (missed : List Payload) :
    Covers [.lagged missed.length] missed := by
  simpa using Covers.lagged missed .nil

/-- What a subscriber has seen of what has been published. -/
structure Follows (published : List Payload) (subscriber : Subscriber) :
    Prop where
  started : ∃ initial later, subscriber.seen = .state initial :: later
  behind : ∃ before passed ahead,
    published = before ++ passed ++ ahead ∧
      subscriber.position + 1 = before.length + passed.length ∧
        (states subscriber.seen).Sublist passed ∧
          (subscriber.stream.ordered = true →
            Covers subscriber.seen passed) ∧
          (subscriber.stream.ordered = false →
            (states subscriber.seen).getLast? = passed.getLast?)

theorem Follows.mono {published further : List Payload}
    {subscriber : Subscriber} (follows : Follows published subscriber)
    (extended : published <+: further) : Follows further subscriber := by
  obtain ⟨before, passed, ahead, rfl, rest⟩ := follows.behind
  obtain ⟨more, rfl⟩ := extended
  exact ⟨follows.started, before, passed, ahead ++ more, by simp, rest⟩

/-- An item of a receiver stands for the publications that it passes. -/
theorem receive_passes {stream : Stream} {before passed ahead : List Payload}
    {first : Payload} {sent : List Payload} {position next : Nat}
    {seen : Seen} (published : first :: sent = before ++ passed ++ ahead)
    (reached : position + 1 = before.length + passed.length)
    (received : receive stream sent position = some (seen, next)) :
    ∃ gained rest, ahead = gained ++ rest ∧
      next + 1 = before.length + (passed ++ gained).length ∧
        (states [seen]).Sublist gained ∧
          (stream.ordered = true → Covers [seen] gained) ∧
          (stream.ordered = false → (states [seen]).getLast? =
            gained.getLast? ∧ gained ≠ []) := by
  have size := congrArg List.length published
  simp only [List.length_cons, List.length_append] at size
  unfold receive at received
  split at received
  case isTrue ordered =>
      split at received
      case isTrue lost =>
          cases received
          refine ⟨ahead.take (sent.length - capacity - position),
            ahead.drop (sent.length - capacity - position),
            (List.take_append_drop _ _).symm, ?_, by simp, ?_, ?_⟩
          · simp only [List.length_append, List.length_take]
            omega
          · intro _
            have covers := covers_lagged
              (ahead.take (sent.length - capacity - position))
            have count : (ahead.take
                (sent.length - capacity - position)).length =
                  sent.length - capacity - position := by
              simp only [List.length_take]
              omega
            rwa [count] at covers
          · simp [ordered]
      case isFalse kept =>
          obtain ⟨payload, found, same⟩ := Option.map_eq_some_iff.mp received
          cases same
          have head : ahead[0]? = some payload := by
            have here : (first :: sent)[position + 1]? =
                (before ++ passed ++ ahead)[position + 1]? := by
              rw [published]
            rw [List.getElem?_cons_succ, found, reached,
              List.getElem?_append_right (by simp)] at here
            simpa using here.symm
          cases ahead with
          | nil => simp at head
          | cons taken rest =>
              obtain rfl : taken = payload := by simpa using head
              refine ⟨[taken], rest, rfl, ?_, by simp, ?_, ?_⟩
              · simp only [List.length_append, List.length_singleton]
                omega
              · exact fun _ => covers_state taken
              · simp [ordered]
  case isFalse replaceable =>
      split at received
      case isTrue pending =>
          obtain ⟨payload, found, same⟩ := Option.map_eq_some_iff.mp received
          cases same
          have some : ahead ≠ [] := by
            rintro rfl
            simp only [List.length_nil] at size
            omega
          have last : ahead.getLast? = .some payload := by
            have here := congrArg List.getLast? published
            rw [List.getLast?_append_of_ne_nil _ some] at here
            rw [← here, List.getLast?_cons, found]
            rfl
          refine ⟨ahead, [], by simp, ?_, ?_, ?_, ?_⟩
          · simp only [List.length_append]
            omega
          · simpa using List.mem_of_getLast? last
          · exact fun ordered => absurd ordered replaceable
          · exact fun _ => ⟨by simp [last], some⟩
      case isFalse idle => cases received

theorem Follows.receive {first : Payload} {sent : List Payload}
    {subscriber : Subscriber} {seen : Seen}
    {position : Nat} (follows : Follows (first :: sent) subscriber)
    (received : Publications.receive subscriber.stream sent
      subscriber.position = some (seen, position)) :
    Follows (first :: sent) { subscriber with
      position := position, seen := subscriber.seen ++ [seen] } := by
  obtain ⟨⟨initial, later, start⟩, before, passed, ahead, published, reached,
    visible, complete, latest⟩ := follows
  obtain ⟨gained, rest, rfl, next, shown, all, last⟩ :=
    receive_passes published reached received
  constructor
  · exact ⟨initial, later ++ [seen], by simp [start]⟩
  · refine ⟨before, passed ++ gained, rest, by simp [published], next, ?_, ?_,
      ?_⟩
    · rw [states_append]
      exact visible.append shown
    · exact fun ordered => (complete ordered).append (all ordered)
    · intro replaceable
      obtain ⟨same, some⟩ := last replaceable
      have isLast := List.getLast?_eq_some_getLast some
      rw [states_append, List.getLast?_append, List.getLast?_append, same,
        isLast]
      rfl

/-! ### The store and its subscribers -/

theorem mem_modify {Item : Type} {items : List Item} {index : Nat}
    {update : Item → Item} {item : Item}
    (member : item ∈ items.modify index update) :
    ∃ earlier ∈ items, item = update earlier ∨ item = earlier := by
  obtain ⟨place, found⟩ := List.mem_iff_getElem?.mp member
  rw [List.getElem?_modify] at found
  obtain ⟨earlier, held, same⟩ := Option.map_eq_some_iff.mp found
  refine ⟨earlier, List.mem_of_getElem? held, ?_⟩
  split at same
  · exact .inl same.symm
  · exact .inr same.symm

namespace Store

variable {domains : Domains} {epochs : Nat → String} {store : Store domains}

/-- A snapshot that can be taken shows the current states. -/
theorem project_healthySnapshot (reencodes : domains.Reencodes)
    {healthy : ∀ stream, domains.State stream}
    (taken : store.healthySnapshot = some healthy) (stream : Stream) :
    store.project healthy stream = store.current stream := by
  unfold healthySnapshot at taken
  split at taken
  case isTrue alive =>
      cases taken
      simp [project, current, alive stream stream.mem_all, unhealthy]
  case isFalse failed =>
      dsimp only at taken
      split at taken
      case isTrue decoded =>
          cases taken
          have encoded := reencodes stream (store.snapshot stream)
            (store.failedMonitors stream) _
            (Option.some_get (decoded stream stream.mem_all)).symm
          simp only [project, current, encoded]
      case isFalse panicked => cases taken

/-- The store with everyone who looks at it. -/
structure Delivers (epochs : Nat → String) (store : Store domains) :
    Prop where
  agrees : store.Agrees epochs
  observed : ∀ stream payload, (stream, payload) ∈ store.observed →
    payload ∈ store.published epochs stream
  follows : ∀ subscriber ∈ store.subscribers,
    Follows (store.published epochs subscriber.stream) subscriber

/-- The publications do not depend on the readers. -/
theorem Agrees.readers (agrees : store.Agrees epochs)
    (subscribers : List Subscriber) (observed : List (Stream × Payload)) :
    ({ store with
      subscribers := subscribers
      observed := observed } : Store domains).Agrees epochs :=
  ⟨⟨agrees.numbered.last, agrees.numbered.succeeds, agrees.numbered.drawn,
    agrees.numbered.bounded, agrees.numbered.keys⟩, agrees.current⟩

theorem Delivers.extend {after : Store domains}
    (delivers : store.Delivers epochs)
    (reached : after.Agrees epochs ∧ Extends epochs store after)
    (observed : after.observed = store.observed)
    (subscribers : after.subscribers = store.subscribers) :
    after.Delivers epochs where
  agrees := reached.1
  observed stream payload member := by
    rw [observed] at member
    exact (reached.2 stream).mem (delivers.observed stream payload member)
  follows subscriber member := by
    rw [subscribers] at member
    exact (delivers.follows subscriber member).mono (reached.2 _)

theorem foldl_readers (streams : List Stream) (store : Store domains) :
    (streams.foldl (publish epochs) store).observed = store.observed ∧
      (streams.foldl (publish epochs) store).subscribers =
        store.subscribers := by
  induction streams generalizing store with
  | nil => exact ⟨rfl, rfl⟩
  | cons stream streams ih => exact ih (store.publish epochs stream)

theorem commit_readers {stream : Stream}
    (writer : domains.State stream → Option (domains.State stream)) :
    (store.commit epochs writer).observed = store.observed ∧
      (store.commit epochs writer).subscribers = store.subscribers := by
  unfold commit
  cases writer (store.snapshot stream) with
  | none => exact ⟨rfl, rfl⟩
  | some next => exact ⟨rfl, rfl⟩

theorem Delivers.commit {stream : Stream} (delivers : store.Delivers epochs)
    (distinct : Function.Injective epochs)
    (writer : domains.State stream → Option (domains.State stream)) :
    (store.commit epochs writer).Delivers epochs :=
  delivers.extend (delivers.agrees.commit distinct writer)
    (commit_readers writer).1 (commit_readers writer).2

theorem Delivers.read (delivers : store.Delivers epochs)
    (reencodes : domains.Reencodes) (streams : List Stream) :
    (store.read streams).Delivers epochs := by
  unfold Store.read
  cases taken : store.healthySnapshot with
  | none => exact delivers
  | some healthy =>
      constructor
      · exact delivers.agrees.readers _ _
      · intro stream payload member
        rcases List.mem_append.mp member with earlier | now
        · exact delivers.observed stream payload earlier
        · obtain ⟨other, -, same⟩ := List.mem_map.mp now
          cases same
          rw [project_healthySnapshot reencodes taken]
          exact List.mem_of_getLast? (delivers.agrees.current stream)
      · exact delivers.follows

theorem Delivers.subscribe (delivers : store.Delivers epochs)
    (reencodes : domains.Reencodes) (streams : List Stream) :
    (store.subscribe streams).Delivers epochs := by
  unfold Store.subscribe
  cases taken : store.healthySnapshot with
  | none => exact delivers
  | some healthy =>
      constructor
      · exact delivers.agrees.readers _ _
      · exact delivers.observed
      · intro subscriber member
        rcases List.mem_append.mp member with earlier | now
        · exact delivers.follows subscriber earlier
        · obtain ⟨stream, -, rfl⟩ := List.mem_map.mp now
          rw [project_healthySnapshot reencodes taken]
          have last := delivers.agrees.current stream
          obtain ⟨before, whole⟩ := List.getLast?_eq_some_iff.mp last
          refine ⟨⟨_, [], rfl⟩, before, [store.current stream], [], ?_, ?_,
            ?_, ?_, ?_⟩
          · exact whole.trans (List.append_nil _).symm
          · have size := congrArg List.length whole
            simpa only [published, List.length_cons, List.length_append,
              List.length_nil] using size
          · exact List.Sublist.refl _
          · exact fun _ => covers_state _
          · exact fun _ => rfl

theorem Delivers.forward (delivers : store.Delivers epochs)
    (index : Nat) : (store.forward index).Delivers epochs := by
  constructor
  · exact delivers.agrees.readers _ _
  · exact delivers.observed
  · intro subscriber member
    obtain ⟨earlier, held, taken | same⟩ := mem_modify member
    · have follows := delivers.follows earlier held
      cases received : receive earlier.stream (store.sent earlier.stream)
          earlier.position with
      | none =>
          rw [received] at taken
          obtain rfl := taken
          exact follows
      | some item =>
          rw [received] at taken
          obtain rfl := taken
          exact follows.receive received
    · obtain rfl := same
      exact delivers.follows subscriber held

theorem delivers_initial (epochs : Nat → String) :
    (initial domains epochs).Delivers epochs where
  agrees := agrees_initial epochs
  observed _ _ := nofun
  follows _ := nofun

theorem Delivers.step (delivers : store.Delivers epochs)
    (reencodes : domains.Reencodes) (distinct : Function.Injective epochs)
    (event : Event domains) : (store.step epochs event).Delivers epochs := by
  cases event with
  | update stream value => exact delivers.commit distinct _
  | updateWorkArea value => exact delivers.commit distinct _
  | updateCompositor value => exact delivers.commit distinct _
  | updateSleepPolicy value => exact delivers.commit distinct _
  | updateCriticalBattery value => exact delivers.commit distinct _
  | updateLid value => exact delivers.commit distinct _
  | commitPowerSleep value resumed preparing expected =>
      exact delivers.commit distinct _
  | recordSleepOperation value => exact delivers.commit distinct _
  | invalidateUpdateHistory =>
      refine delivers.extend ⟨delivers.agrees.publish distinct _, ?_⟩ rfl rfl
      exact fun other => published_prefix_publish
  | monitorFailed name streams reason =>
      apply delivers.extend
      · exact delivers.agrees.monitorFailed distinct name streams reason
      · exact (foldl_readers streams _).1
      · exact (foldl_readers streams _).2
  | read streams => exact delivers.read reencodes streams
  | subscribe streams => exact delivers.subscribe reencodes streams
  | forward index => exact delivers.forward index

/-! ### What clients may rely on -/

/-- A snapshot or a subscriber has shown the payload. -/
def Shown (store : Store domains) (stream : Stream) (payload : Payload) :
    Prop :=
  (stream, payload) ∈ store.observed ∨
    ∃ subscriber ∈ store.subscribers, subscriber.stream = stream ∧
      .state payload ∈ subscriber.seen

/-- Nothing waits in the receiver. -/
def Drained (store : Store domains) (subscriber : Subscriber) : Prop :=
  receive subscriber.stream (store.sent subscriber.stream)
    subscriber.position = none

structure Consistent (epochs : Nat → String) (store : Store domains) :
    Prop where
  /-- The stream, the epoch and the revision determine the payload. -/
  determined : ∀ stream first second, store.Shown stream first →
    store.Shown stream second → first.key = second.key → first = second
  advances : ∀ stream, Traces.Each Succeeds (store.published epochs stream)
  /-- Nobody sees a stream go back or repeat. -/
  forward : ∀ subscriber ∈ store.subscribers,
    (states subscriber.seen).Sublist
        (store.published epochs subscriber.stream) ∧
      ((states subscriber.seen).map Payload.key).Nodup
  latest : ∀ subscriber ∈ store.subscribers,
    subscriber.stream.ordered = false → store.Drained subscriber →
      (states subscriber.seen).getLast? =
        some (store.current subscriber.stream)
  complete : ∀ subscriber ∈ store.subscribers,
    subscriber.stream.ordered = true → ∃ before passed ahead,
      store.published epochs subscriber.stream = before ++ passed ++ ahead ∧
        Covers subscriber.seen passed ∧
          (store.Drained subscriber → ahead = [])

theorem Delivers.published_of_shown (delivers : store.Delivers epochs)
    {stream : Stream} {payload : Payload}
    (shown : store.Shown stream payload) :
    payload ∈ store.published epochs stream := by
  rcases shown with read | ⟨subscriber, member, rfl, seen⟩
  · exact delivers.observed stream payload read
  · obtain ⟨before, passed, ahead, whole, -, visible, -⟩ :=
      (delivers.follows subscriber member).behind
    have state : payload ∈ states subscriber.seen :=
      List.mem_filterMap.mpr ⟨_, seen, rfl⟩
    rw [whole]
    simp [visible.mem state]

theorem le_of_receive_eq_none {stream : Stream} {sent : List Payload}
    {position : Nat} (drained : receive stream sent position = none) :
    sent.length ≤ position := by
  unfold receive at drained
  split at drained
  · split at drained
    · cases drained
    · simpa using drained
  · split at drained
    case isTrue pending =>
        have empty := List.getLast?_eq_none_iff.mp
          (Option.map_eq_none_iff.mp drained)
        simp [empty] at pending
    case isFalse idle => omega

/-- A drained subscriber has nothing ahead. -/
theorem ahead_nil_of_drained {subscriber : Subscriber}
    {before passed ahead : List Payload}
    (whole : store.published epochs subscriber.stream =
      before ++ passed ++ ahead)
    (reached : subscriber.position + 1 = before.length + passed.length)
    (drained : store.Drained subscriber) : ahead = [] := by
  have beyond := le_of_receive_eq_none drained
  have size := congrArg List.length whole
  simp only [published, List.length_cons, List.length_append] at size
  apply List.eq_nil_of_length_eq_zero
  omega

theorem Delivers.consistent (delivers : store.Delivers epochs) :
    store.Consistent epochs where
  determined stream first second firstShown secondShown same :=
    List.inj_on_of_nodup_map (delivers.agrees.numbered.keys stream)
      (delivers.published_of_shown firstShown)
      (delivers.published_of_shown secondShown) same
  advances := delivers.agrees.numbered.succeeds
  forward subscriber member := by
    obtain ⟨before, passed, ahead, whole, -, visible, -⟩ :=
      (delivers.follows subscriber member).behind
    have sublist : (states subscriber.seen).Sublist
        (store.published epochs subscriber.stream) := by
      rw [whole, List.append_assoc]
      exact (visible.trans (List.sublist_append_left _ _)).trans
        (List.sublist_append_right _ _)
    constructor
    · exact sublist
    · exact (sublist.map Payload.key).nodup
        (delivers.agrees.numbered.keys subscriber.stream)
  latest subscriber member replaceable drained := by
    obtain ⟨before, passed, ahead, whole, reached, -, -, last⟩ :=
      (delivers.follows subscriber member).behind
    obtain rfl := ahead_nil_of_drained whole reached drained
    have current := delivers.agrees.current subscriber.stream
    unfold Current at current
    rw [whole, List.append_nil, List.getLast?_append,
      ← last replaceable] at current
    obtain ⟨initial, later, started⟩ :=
      (delivers.follows subscriber member).started
    have some : (states subscriber.seen).getLast? ≠ none := by
      rw [started]
      simp [states]
    obtain ⟨payload, isLast⟩ := Option.ne_none_iff_exists'.mp some
    rw [isLast] at current ⊢
    exact current
  complete subscriber member ordered := by
    obtain ⟨before, passed, ahead, whole, reached, -, covers, -⟩ :=
      (delivers.follows subscriber member).behind
    exact ⟨before, passed, ahead, whole, covers ordered,
      ahead_nil_of_drained whole reached⟩

/-- The store after some events. -/
def after (domains : Domains) (epochs : Nat → String)
    (events : List (Event domains)) : Store domains :=
  run (step epochs) (initial domains epochs) events

/-- Whatever the writers, the monitors and the subscribers do, what is shown of
a stream are its publications, and a subscriber follows them. -/
theorem publications_consistent (domains : Domains) (epochs : Nat → String)
    (reencodes : domains.Reencodes) (distinct : Function.Injective epochs)
    (events : List (Event domains)) :
    (after domains epochs events).Consistent epochs := by
  have unconditional : StepsMeet (step epochs) (fun _ _ => True)
      (initial domains epochs) events :=
    stepsMeet_of_forall (fun _ _ => trivial) _ _
  have preserved : ∀ (store : Store domains) (event : Event domains),
      store.Delivers epochs → True → (store.step epochs event).Delivers epochs :=
    fun _ event delivers _ => delivers.step reencodes distinct event
  exact (invariant_run preserved (delivers_initial epochs)
    unconditional).consistent

end Store

/-! ### A small domain -/

/-- Some members of the audio state. -/
structure Sink where
  available : Bool
  name : String
  error : Option String
deriving DecidableEq, Repr

def Sink.encode (sink : Sink) : Fields :=
  [("available", .boolean sink.available), ("sink_name", .text sink.name),
    ("error", sink.error.elim (.other "null") .text)]

def Sink.decode : Fields → Option Sink
  | [("available", .boolean available), ("sink_name", .text name),
      ("error", .text error)] => some ⟨available, name, some error⟩
  | [("available", .boolean available), ("sink_name", .text name),
      ("error", .other "null")] => some ⟨available, name, none⟩
  | _ => none

def sinks : Domains where
  State _ := Sink
  default _ := ⟨false, "", none⟩
  same _ first second := first = second
  encode _ := Sink.encode
  decode _ := Sink.decode
  workAreaRevision := ⟨fun _ => 0, fun _ sink => sink⟩
  compositorRevision := ⟨fun _ => 0, fun _ sink => sink⟩
  lid := ⟨Bool, (·.available), fun available sink =>
    { sink with available := available }, fun first second => first = second⟩
  criticalBattery := ⟨String, (·.name), fun name sink =>
    { sink with name := name }, fun first second => first = second⟩
  resumeGeneration := ⟨fun _ => 0, fun _ sink => sink⟩
  operation := ⟨String, (·.name), fun name sink =>
    { sink with name := name }, fun first second => first = second⟩
  preparingForSleep _ sink := sink

theorem Sink.decode_encode (sink : Sink) :
    Sink.decode sink.encode = some sink := by
  obtain ⟨available, name, error⟩ := sink
  cases error with
  | none => rfl
  | some error => rfl

theorem Sink.unhealthy_encode (sink : Sink) (reason : Option String) :
    unhealthy reason sink.encode =
      { sink with
        available := reason.isNone && sink.available
        error := reason.or sink.error }.encode := by
  cases reason with
  | none => simp [unhealthy]
  | some reason => simp [unhealthy, put, Sink.encode]

theorem Sink.reencodes (sink healthy : Sink) (reason : Option String)
    (decoded : Sink.decode (unhealthy reason sink.encode) = some healthy) :
    healthy.encode = unhealthy reason sink.encode := by
  rw [Sink.unhealthy_encode] at decoded ⊢
  rw [Sink.decode_encode] at decoded
  cases decoded
  rfl

theorem sinks_reencodes : sinks.Reencodes :=
  fun _ sink reason healthy => Sink.reencodes sink healthy reason

/-- As many letters as epochs have been drawn before. -/
def tallies (draw : Nat) : String :=
  String.ofList (List.replicate draw 'e')

theorem tallies_injective : Function.Injective tallies := by
  intro first second same
  have size := congrArg String.length same
  simpa [tallies] using size

/-- An update, a failure, a subscription and another update. -/
def failedAudio : List (Event sinks) :=
  [.update .audio ⟨true, "speakers", none⟩,
    .monitorFailed "audio" [.audio] "panicked", .subscribe [.audio],
    .update .audio ⟨true, "headphones", none⟩, .forward 0, .read [.audio]]

theorem publications_consistent_failedAudio :
    (Store.after sinks tallies failedAudio).Consistent tallies ∧
      (Store.after sinks tallies failedAudio).subscribers.map
        (fun subscriber => subscriber.seen.length) = [2] :=
  ⟨Store.publications_consistent sinks tallies sinks_reencodes
    tallies_injective failedAudio, by decide +kernel⟩

end BarDaemon.Publications
