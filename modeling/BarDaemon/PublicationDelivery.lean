import BarDaemon.PublicationStore
import BarDaemon.Traces
import BarDaemon.TransitionRuns
import Mathlib.Data.List.Nodup

/-!
# Delivery of publications

A publication names its payload, and whoever takes the initial state and then
drains a receiver sees the publications of the stream in their order.
-/

namespace BarDaemon.Publications

open TransitionRuns

/-! ### The order of publications -/

/-- The next publication: the next revision, or the first one of an epoch that
has not been in use. -/
inductive Advances (past : List Payload) : Publication → Publication → Prop
  | next (publication : Publication)
      (room : publication.revision ≠ maxRevision) :
      Advances past publication
        { publication with revision := publication.revision + 1 }
  | turn (publication : Publication) (epoch : String)
      (exhausted : publication.revision = maxRevision)
      (unused : ∀ payload ∈ past, payload.publication.epoch ≠ epoch) :
      Advances past publication ⟨epoch, 1, some publication.epoch⟩

/-- A payload comes after the last one. -/
def Succeeds (past : List Payload) (payload : Payload) : Prop :=
  ∀ last, past.getLast? = some last →
    Advances past last.publication payload.publication

/-- What a client keys its cache by, beside the stream. -/
def Payload.key (payload : Payload) : String × Nat :=
  (payload.publication.epoch, payload.publication.revision)

theorem Publication.advance_advances {publication : Publication}
    {epoch : String} {past : List Payload}
    (unused : ∀ payload ∈ past, payload.publication.epoch ≠ epoch) :
    Advances past publication (publication.advance epoch) := by
  unfold Publication.advance
  split
  case isTrue exhausted => exact .turn publication epoch exhausted unused
  case isFalse room => exact .next publication room

namespace Store

variable {domains : Domains} {epochs : Nat → String} {store : Store domains}
  {stream other : Stream}

/-- Everything that has been published on a stream, from the start on. -/
def published (epochs : Nat → String) (store : Store domains)
    (stream : Stream) : List Payload :=
  ⟨.new (epochs (Stream.all.idxOf stream)),
    domains.encode stream (domains.default stream)⟩ :: store.sent stream

/-- The state of a stream, with its failure written into it. -/
def current (store : Store domains) (stream : Stream) : Payload :=
  ⟨store.publications stream, unhealthy (store.failedMonitors stream)
    (domains.encode stream (store.snapshot stream))⟩

/-- The last publication is the current state. -/
def Current (epochs : Nat → String) (store : Store domains)
    (stream : Stream) : Prop :=
  (store.published epochs stream).getLast? = some (store.current stream)

/-- What is known of the publications, whatever the states are. -/
structure Numbered (epochs : Nat → String) (store : Store domains) :
    Prop where
  last : ∀ stream, ∃ payload,
    (store.published epochs stream).getLast? = some payload ∧
      payload.publication = store.publications stream
  succeeds : ∀ stream, Traces.Each Succeeds (store.published epochs stream)
  drawn : ∀ stream, ∀ payload ∈ store.published epochs stream,
    ∃ draw < store.drawn, payload.publication.epoch = epochs draw
  bounded : ∀ stream, ∀ payload ∈ store.published epochs stream,
    payload.publication.epoch = (store.publications stream).epoch →
      payload.publication.revision ≤ (store.publications stream).revision
  keys : ∀ stream, ((store.published epochs stream).map Payload.key).Nodup

/-! ### One publication -/

/-- The payload that is sent next. -/
def upcoming (epochs : Nat → String) (store : Store domains)
    (stream : Stream) : Payload :=
  ⟨(store.publications stream).advance (epochs store.drawn),
    unhealthy (store.failedMonitors stream)
      (domains.encode stream (store.snapshot stream))⟩

theorem published_publish_self :
    (store.publish epochs stream).published epochs stream =
      store.published epochs stream ++ [store.upcoming epochs stream] := by
  simp [published, publish, upcoming]

theorem published_publish_other (different : other ≠ stream) :
    (store.publish epochs stream).published epochs other =
      store.published epochs other := by
  simp [published, publish, different]

theorem published_prefix_publish :
    store.published epochs other <+:
      (store.publish epochs stream).published epochs other := by
  by_cases same : other = stream
  · subst same
    rw [published_publish_self]
    exact List.prefix_append _ _
  · exact (published_publish_other same).symm ▸ List.prefix_rfl

theorem current_publish_self :
    (store.publish epochs stream).Current epochs stream := by
  unfold Current
  rw [published_publish_self, List.getLast?_concat]
  simp [current, publish, upcoming]

theorem current_publish (holds : store.Current epochs other) :
    (store.publish epochs stream).Current epochs other := by
  by_cases same : other = stream
  · subst same
    exact current_publish_self
  · unfold Current
    rw [published_publish_other same, holds]
    simp [current, publish, same]

/-- An epoch that is drawn now has not been in use. -/
theorem Numbered.unused (numbered : store.Numbered epochs)
    (distinct : Function.Injective epochs) :
    ∀ payload ∈ store.published epochs stream,
      payload.publication.epoch ≠ epochs store.drawn := by
  intro payload member same
  obtain ⟨draw, earlier, drawn⟩ := numbered.drawn stream payload member
  have equal : draw = store.drawn := distinct (drawn.symm.trans same)
  omega

/-- The next key is none of the earlier ones. -/
theorem Numbered.fresh (numbered : store.Numbered epochs)
    (distinct : Function.Injective epochs) :
    (store.upcoming epochs stream).key ∉
      (store.published epochs stream).map Payload.key := by
  intro member
  obtain ⟨payload, member, same⟩ := List.mem_map.mp member
  simp only [Payload.key, upcoming, Publication.advance, Prod.mk.injEq]
    at same
  split at same
  case isTrue exhausted => exact numbered.unused distinct payload member same.1
  case isFalse room =>
      have bound := numbered.bounded stream payload member same.1
      have revision : payload.publication.revision =
        (store.publications stream).revision + 1 := same.2
      omega

theorem upcoming_succeeds (numbered : store.Numbered epochs)
    (distinct : Function.Injective epochs) :
    Succeeds (store.published epochs stream)
      (store.upcoming epochs stream) := by
  intro last isLast
  obtain ⟨payload, found, publication⟩ := numbered.last stream
  obtain rfl : payload = last := Option.some.inj (found.symm.trans isLast)
  rw [publication]
  exact Publication.advance_advances (numbered.unused distinct)

/-- The epoch that is in use after the next publication has been drawn. -/
theorem Numbered.drawn_upcoming (numbered : store.Numbered epochs) :
    ∃ draw < (store.publish epochs stream).drawn,
      (store.upcoming epochs stream).publication.epoch = epochs draw := by
  simp only [publish, upcoming, Publication.advance, Publication.draws]
  split
  case isTrue exhausted => exact ⟨store.drawn, Nat.lt_succ_self _, rfl⟩
  case isFalse room =>
      obtain ⟨payload, found, publication⟩ := numbered.last stream
      have member := List.mem_of_getLast? found
      obtain ⟨draw, earlier, drawn⟩ := numbered.drawn stream payload member
      rw [publication] at drawn
      exact ⟨draw, by omega, drawn⟩

theorem Numbered.publish (numbered : store.Numbered epochs)
    (distinct : Function.Injective epochs) (stream : Stream) :
    (store.publish epochs stream).Numbered epochs := by
  have more : store.drawn ≤ (store.publish epochs stream).drawn :=
    Nat.le_add_right _ _
  have kept : ∀ other, ∀ payload ∈ store.published epochs other,
      ∃ draw < (store.publish epochs stream).drawn,
        payload.publication.epoch = epochs draw := by
    intro other payload member
    obtain ⟨draw, earlier, drawn⟩ := numbered.drawn other payload member
    exact ⟨draw, by omega, drawn⟩
  constructor
  · intro other
    by_cases same : other = stream
    · subst same
      refine ⟨store.upcoming epochs other, ?_, ?_⟩
      · rw [published_publish_self, List.getLast?_concat]
      · simp [Store.publish, upcoming]
    · rw [published_publish_other same]
      simpa [Store.publish, same] using numbered.last other
  · intro other
    by_cases same : other = stream
    · subst same
      rw [published_publish_self]
      exact Traces.each_concat_iff.mpr
        ⟨numbered.succeeds other, upcoming_succeeds numbered distinct⟩
    · rw [published_publish_other same]
      exact numbered.succeeds other
  · intro other payload member
    by_cases same : other = stream
    · subst same
      rw [published_publish_self] at member
      rcases List.mem_append.mp member with earlier | last
      · exact kept other payload earlier
      · obtain rfl := List.mem_singleton.mp last
        exact numbered.drawn_upcoming
    · rw [published_publish_other same] at member
      exact kept other payload member
  · intro other payload member
    by_cases same : other = stream
    · subst same
      rw [published_publish_self] at member
      have advanced : (store.publish epochs other).publications other =
          (store.upcoming epochs other).publication := by
        simp [Store.publish, upcoming]
      rw [advanced]
      rcases List.mem_append.mp member with earlier | last
      · intro epoch
        simp only [upcoming, Publication.advance] at epoch ⊢
        split at epoch
        case isTrue exhausted =>
            exact absurd epoch (numbered.unused distinct payload earlier)
        case isFalse room =>
            rw [if_neg room]
            have bound := numbered.bounded other payload earlier epoch
            exact Nat.le_succ_of_le bound
      · obtain rfl := List.mem_singleton.mp last
        exact fun _ => Nat.le_refl _
    · rw [published_publish_other same] at member
      simpa [Store.publish, same] using numbered.bounded other payload member
  · intro other
    by_cases same : other = stream
    · subst same
      rw [published_publish_self, List.map_append, List.map_singleton,
        List.nodup_append]
      refine ⟨numbered.keys other, List.nodup_singleton _, ?_⟩
      rintro key member last inLast rfl
      rw [List.mem_singleton.mp inLast] at member
      exact numbered.fresh distinct member
    · rw [published_publish_other same]
      exact numbered.keys other

theorem numbered_initial (epochs : Nat → String) :
    (initial domains epochs).Numbered epochs := by
  have only : ∀ stream, (initial domains epochs).published epochs stream =
      [(initial domains epochs).current stream] := fun _ => rfl
  constructor
  · intro stream
    exact ⟨_, by rw [only]; rfl, rfl⟩
  · intro stream
    rw [only, ← List.nil_append [_], Traces.each_concat_iff]
    constructor
    · exact Traces.each_nil
    · exact fun last isLast => by simp at isLast
  · intro stream payload member
    rw [only, List.mem_singleton] at member
    subst member
    refine ⟨Stream.all.idxOf stream, ?_, rfl⟩
    exact List.idxOf_lt_length_iff.mpr stream.mem_all
  · intro stream payload member
    rw [only, List.mem_singleton] at member
    subst member
    exact fun _ => Nat.le_refl _
  · intro stream
    rw [only]
    exact List.nodup_singleton _

/-! ### Commits and failures -/

/-- What has been published before has been published. -/
def Extends (epochs : Nat → String) (store after : Store domains) : Prop :=
  ∀ stream, store.published epochs stream <+: after.published epochs stream

/-- The publications of the streams agree with their states. -/
structure Agrees (epochs : Nat → String) (store : Store domains) :
    Prop where
  numbered : store.Numbered epochs
  current : ∀ stream, store.Current epochs stream

theorem agrees_initial (epochs : Nat → String) :
    (initial domains epochs).Agrees epochs :=
  ⟨numbered_initial epochs, fun _ => rfl⟩

theorem Agrees.publish (agrees : store.Agrees epochs)
    (distinct : Function.Injective epochs) (stream : Stream) :
    (store.publish epochs stream).Agrees epochs :=
  ⟨agrees.numbered.publish distinct stream,
    fun other => current_publish (agrees.current other)⟩

theorem Agrees.commit (agrees : store.Agrees epochs)
    (distinct : Function.Injective epochs)
    (writer : domains.State stream → Option (domains.State stream)) :
    (store.commit epochs writer).Agrees epochs ∧
      Extends epochs store (store.commit epochs writer) := by
  unfold Store.commit
  cases writer (store.snapshot stream) with
  | none => exact ⟨agrees, fun _ => List.prefix_rfl⟩
  | some next =>
      let held : Store domains := { store with
        snapshot := Function.update store.snapshot stream next }
      have numbered : held.Numbered epochs :=
        ⟨agrees.numbered.last, agrees.numbered.succeeds, agrees.numbered.drawn,
          agrees.numbered.bounded, agrees.numbered.keys⟩
      refine ⟨⟨numbered.publish distinct stream, fun other => ?_⟩, ?_⟩
      · by_cases same : other = stream
        · subst same
          exact current_publish_self
        · apply current_publish
          have before := agrees.current other
          unfold Current at before ⊢
          simpa [held, published, Store.current, same] using before
      · exact fun other =>
          @published_prefix_publish domains epochs held stream other

/-- Publishing some streams, one after the other. -/
theorem agrees_foldl (distinct : Function.Injective epochs)
    (streams : List Stream) (numbered : store.Numbered epochs)
    (others : ∀ stream, stream ∈ streams ∨ store.Current epochs stream) :
    (streams.foldl (publish epochs) store).Agrees epochs ∧
      Extends epochs store (streams.foldl (publish epochs) store) := by
  induction streams generalizing store with
  | nil =>
      constructor
      · exact ⟨numbered, fun stream => (others stream).resolve_left nofun⟩
      · exact fun _ => List.prefix_rfl
  | cons stream streams ih =>
      have current : ∀ other, other ∈ streams ∨
          (store.publish epochs stream).Current epochs other := by
        intro other
        rcases others other with member | before
        · rcases List.mem_cons.mp member with rfl | later
          · exact .inr current_publish_self
          · exact .inl later
        · exact .inr (current_publish before)
      obtain ⟨agrees, reached⟩ := ih (numbered.publish distinct stream) current
      constructor
      · exact agrees
      · exact fun other => published_prefix_publish.trans (reached other)

theorem Agrees.monitorFailed (agrees : store.Agrees epochs)
    (distinct : Function.Injective epochs) (name : String)
    (streams : List Stream) (reason : String) :
    (store.monitorFailed epochs name streams reason).Agrees epochs ∧
      Extends epochs store
        (store.monitorFailed epochs name streams reason) := by
  apply agrees_foldl distinct streams
  · exact ⟨agrees.numbered.last, agrees.numbered.succeeds,
      agrees.numbered.drawn, agrees.numbered.bounded, agrees.numbered.keys⟩
  · intro stream
    by_cases failed : stream ∈ streams
    · exact .inl failed
    · right
      have before := agrees.current stream
      unfold Current at before ⊢
      simpa [published, Store.current, failed] using before

end Store

end BarDaemon.Publications
