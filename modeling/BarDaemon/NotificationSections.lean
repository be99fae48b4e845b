import Mathlib.Logic.Relation
import BarDaemon.NotificationRuns
import BarDaemon.OrderedMaps

/-!
# Critical sections of the notification engine

Whatever a request does is a sequence of few kinds of sections: the clock,
storage and bookkeeping move, notifications arrive or retire, a presentation
rule changes, time passes, a signal is sent, or the summary is published.
Invariants are proved for one section at a time.
-/

namespace BarDaemon.Notifications

open Std Relation OrderedMaps

/-- Keys are identifiers, and there are not too many of them. -/
structure EngineData.WellKeyed (data : EngineData) : Prop where
  keyed : ∀ {id : Nat} {item : ActiveNotification},
    data.active[id]? = some item → item.id = id
  bounded : data.active.size ≤ Engine.policy.maximumActive

/-- Bookkeeping on which no notification depends. -/
def EngineData.managed (data : EngineData) (revisions : Nat)
    (tickets : ExtTreeMap String (Nat × List Position)) (settings : Settings)
    (nextPruneMs : Nat) (retentionError : Option String) : EngineData :=
  { data with
    revisions := revisions
    deleteTickets := tickets
    settings := settings
    nextPruneMs := nextPruneMs
    retentionError := retentionError }

theorem EngineData.retentionRan_managed (data : EngineData) (now : Nat)
    (result : Except String Nat) :
    ∃ revisions retentionError, data.retentionRan now result =
      data.managed revisions data.deleteTickets data.settings
        (saturatingAdd now 60000) retentionError := by
  cases result with
  | ok removed =>
      exact ⟨data.revisions + (if 0 < removed then 1 else 0), none, rfl⟩
  | error error => exact ⟨data.revisions, some _, rfl⟩

/-- One clock reading that the engine has made. -/
def Engine.HasRead (world : Surroundings) (engine : Engine) (now : Nat) :
    Prop :=
  ∃ index < engine.ticks, now = (world.moments index).now.val

open Engine in
inductive Section (world : Surroundings) : Request → Engine → Engine → Prop
  /-- The clock and the storage move. -/
  | outside {request : Request} {before after : Engine}
      (sameData : after.data = before.data)
      (sameTrace : after.trace = before.trace)
      (forward : before.ticks ≤ after.ticks) : Section world request before after
  | manage {request : Request} (before : Engine) (revisions : Nat)
      (tickets : ExtTreeMap String (Nat × List Position)) (settings : Settings)
      (nextPruneMs : Nat) (retentionError : Option String) :
      Section world request before (before.withData (before.data.managed
        revisions tickets settings nextPruneMs retentionError))
  | arrive {before : Engine} {replacesId id now : Nat} {replaces : Bool}
      (incoming : IncomingNotification) (outside : Moment)
      (writes : PendingWrites)
      (agrees : replaces = before.data.active.contains id)
      (hasRead : before.HasRead world now) :
      Section world (.notify replacesId incoming) before
        (before.insertIncoming world replaces id incoming outside now writes).1
  | install {before : Engine} {key runId : String} {id now : Nat}
      {stored : ActiveNotification} (incoming : IncomingNotification)
      (absent : before.data.active.contains id = false)
      (room : before.data.active.size < policy.maximumActive)
      (sameId : stored.id = id) (hasRead : before.HasRead world now)
      (hushed : before.data.suppressed stored now = true →
        stored.toastVisible = false) :
      Section world (.notifyUpdateOnce key runId incoming) before
        (before.installUpdate id runId stored)
  | retire {request : Request} {before : Engine} (id reason : Nat)
      (isActive : before.data.active.contains id = true) :
      Section world request before
        ((before.withData (before.data.remove id)).emit (.closed id reason))
  | forget {request : Request} {before : Engine} (id : Nat)
      (absent : before.data.active.contains id = false) :
      Section world request before (before.withData (before.data.remove id))
  | clear (before : Engine) : Section world .clear before before.clearActive
  | observe {before : Engine} {now : Nat} (observation : Option Bool)
      (hasRead : before.HasRead world now) :
      Section world (.observeSharing observation) before
        (before.withData (before.data.observeSharing observation now))
  | snoozeSharing {before : Engine} {generation minutes now : Nat}
      {sharing : Sharing}
      (snoozed : before.data.sharing.snooze generation minutes now =
        .ok sharing) :
      Section world (.snoozeSharing generation minutes) before
        (before.withData { before.data with sharing := sharing })
  | policy {before : Engine} {now : Nat} (key : String) (policy : AppPolicy)
      (hasRead : before.HasRead world now) :
      Section world (.setAppPolicy key policy) before
        (before.withData (before.data.applyAppPolicy key policy now))
  | reading {request : Request} (before : Engine) (monitor : String)
      (reading : Bool) (now : Nat) :
      Section world request before
        (before.withData (before.data.setReading monitor reading now))
  | dnd {request : Request} (before : Engine) (enabled : Bool)
      (limit : Option Nat) (consistent : enabled = false → limit = none) :
      Section world request before
        (before.withData (before.data.setDnd enabled limit))
  | snooze {before : Engine} {id limit now : Nat} {item : ActiveNotification}
      (found : before.data.active[id]? = some item) :
      Section world (.snooze id limit) before
        (before.snoozeActive id (EngineData.snoozeItem item limit now))
  | reply {before : Engine} {id : Nat} {item : ActiveNotification}
      (text : String) (found : before.data.active[id]? = some item)
      (offered : offers item "inline-reply" = true) :
      Section world (.reply id text) before (before.emit (.replied id text))
  | activate {before : Engine} {id : Nat} {actionKey : String}
      {item : ActiveNotification} (token : String)
      (found : before.data.active[id]? = some item)
      (offered : offers item actionKey = true) :
      Section world (.invokeAction id actionKey (some token)) before
        (before.emit (.activationToken id token))
  | invoke {before : Engine} {id : Nat} {actionKey : String}
      {item : ActiveNotification} (token : Option String)
      (found : before.data.active[id]? = some item)
      (offered : offers item actionKey = true) :
      Section world (.invokeAction id actionKey token) before
        (before.emit (.actionInvoked id actionKey))
  | expire {before : Engine} {now : Nat} (hasRead : before.HasRead world now) :
      Section world .expireDue before
        (before.withData (before.data.expire now).1)
  | publish {request : Request} (before : Engine) :
      Section world request before (before.publishSummary world)

/-- Any number of sections of one request. -/
abbrev Sections (world : Surroundings) (request : Request) :
    Engine → Engine → Prop :=
  ReflTransGen (Section world request)

/-- A property that every section preserves is preserved by all of them. -/
theorem Sections.preserve {world : Surroundings} {request : Request}
    {property : Engine → Prop}
    (preserved : ∀ {before after}, Section world request before after →
      property before → property after)
    {before after : Engine} (sections : Sections world request before after)
    (holds : property before) : property after := by
  induction sections with
  | refl => exact holds
  | tail _ last ih => exact preserved last ih

namespace Engine

variable {world : Surroundings} {request : Request} {engine : Engine}

/-! ## Shared steps -/

theorem sections_outside {before after : Engine}
    (sameData : after.data = before.data)
    (sameTrace : after.trace = before.trace)
    (forward : before.ticks ≤ after.ticks) :
    Sections world request before after :=
  ReflTransGen.single (.outside sameData sameTrace forward)

theorem sections_tick (engine : Engine) (count : Nat) :
    Sections world request engine (engine.tick count) :=
  sections_outside rfl rfl (Nat.le_add_right _ _)

theorem sections_enqueue (engine : Engine) (writes : PendingWrites) :
    Sections world request engine (engine.enqueue world writes) := by
  unfold enqueue
  split
  · exact sections_outside rfl rfl (Nat.le_refl _)
  · exact ReflTransGen.refl

theorem sections_ask {Value : Type} (engine : Engine) (absent : Value)
    (command : Persistence → Except String Value × Persistence) :
    Sections world request engine (engine.ask absent command).2 := by
  unfold ask
  split
  · exact ReflTransGen.refl
  · exact sections_outside rfl rfl (Nat.le_refl _)

/-- The engine after a question, whatever the question was. -/
theorem sections_of_ask {Value : Type} {absent : Value}
    {command : Persistence → Except String Value × Persistence}
    {asked : Except String Value × Engine}
    (asks : engine.ask absent command = asked) :
    Sections world request engine asked.2 :=
  asks ▸ sections_ask engine absent command

theorem sections_allocateId (engine : Engine) :
    Sections world request engine engine.allocateId.2 :=
  sections_outside rfl rfl (Nat.le_refl _)

@[simp]
theorem allocateId_data (engine : Engine) :
    engine.allocateId.2.data = engine.data :=
  rfl

theorem sections_publish (engine : Engine) :
    Sections world request engine (engine.publishSummary world) :=
  ReflTransGen.single (.publish engine)

/-- Publication and the end of the batch, as most requests end. -/
theorem sections_finish (engine : Engine) (writes : PendingWrites) :
    Sections world request engine
      ((engine.publishSummary world).enqueue world writes) :=
  (sections_publish engine).trans (sections_enqueue _ writes)

theorem sections_manage (engine : Engine) (revisions : Nat)
    (tickets : ExtTreeMap String (Nat × List Position)) (settings : Settings)
    (nextPruneMs : Nat) (retentionError : Option String) :
    Sections world request engine (engine.withData (engine.data.managed
      revisions tickets settings nextPruneMs retentionError)) :=
  ReflTransGen.single (.manage engine revisions tickets settings nextPruneMs
    retentionError)

theorem sections_tickets (engine : Engine)
    (tickets : ExtTreeMap String (Nat × List Position)) :
    Sections world request engine (engine.withData
      { engine.data with deleteTickets := tickets }) :=
  sections_manage engine _ tickets _ _ _

theorem sections_bump (engine : Engine) (count : Nat) :
    Sections world request engine
      (engine.withData (engine.data.bumped count)) :=
  sections_manage engine _ _ _ _ _

theorem sections_closeLocked (engine : Engine) (id reason : Nat)
    (writes : PendingWrites) :
    Sections world request engine
      (engine.closeLocked world id reason writes).2.1 := by
  unfold closeLocked
  cases isActive : engine.data.active.contains id with
  | false => exact ReflTransGen.single (.forget id isActive)
  | true =>
      refine (ReflTransGen.single (.retire id reason isActive)).trans ?_
      exact (sections_bump _ 1).trans (sections_tick _ 1)

theorem sections_closeAll (engine : Engine) (ids : List Nat) (reason : Nat)
    (writes : PendingWrites) :
    Sections world request engine
      (engine.closeAll world ids reason writes).1 := by
  induction ids generalizing engine writes with
  | nil => exact ReflTransGen.refl
  | cons id ids ih =>
      exact (sections_closeLocked engine id reason writes).trans (ih _ _)

/-! ## Requests -/

/-- An allocated identifier is new and not zero. -/
theorem allocate_fresh {active : ExtTreeMap Nat ActiveNotification}
    {tries counter id : Nat}
    (allocated : (allocate active tries counter).1 = some id) :
    active.contains id = false ∧ id ≠ 0 := by
  induction tries generalizing counter with
  | zero => simp [allocate] at allocated
  | succ tries ih =>
      simp only [allocate] at allocated
      split at allocated
      · exact ih allocated
      · rename_i unused
        rw [← Option.some.inj allocated]
        exact ⟨Bool.eq_false_iff.mpr unused, by omega⟩

theorem allocateId_fresh {id : Nat}
    (allocated : engine.allocateId.1 = some id) :
    engine.data.active.contains id = false ∧ id ≠ 0 :=
  allocate_fresh allocated

theorem oldest_mem {items : List ActiveNotification}
    {item : ActiveNotification} (found : oldest items = some item) :
    item ∈ items := by
  cases items with
  | nil => simp [oldest] at found
  | cons first rest =>
      have chosen : ∀ (rest : List ActiveNotification)
          (first : ActiveNotification),
          rest.foldl older first ∈ first :: rest := by
        intro rest
        induction rest with
        | nil => intro first; simp
        | cons next rest ih =>
            intro first
            have member := ih (older first next)
            have either : older first next = first ∨
                older first next = next := by
              unfold older
              split
              · exact .inr rfl
              · exact .inl rfl
            simp only [List.foldl_cons, List.mem_cons] at member ⊢
            rcases member with equal | later
            · rcases either with kept | moved
              · exact .inl (equal.trans kept)
              · exact .inr (.inl (equal.trans moved))
            · exact .inr (.inr later)
      rw [← Option.some.inj found]
      exact chosen rest first

theorem hasRead_tick {before : Engine} {count offset : Nat}
    (within : offset < count) :
    (before.tick count).HasRead world (before.now world offset) :=
  ⟨before.ticks + offset, Nat.add_lt_add_left within _, rfl⟩

theorem sections_notify (engine : Engine) (replacesId : Nat)
    (incoming : IncomingNotification) :
    Sections world (.notify replacesId incoming) engine
      (engine.notify world replacesId incoming).2 := by
  unfold notify
  split
  · exact sections_tick engine 1
  · refine (sections_tick engine 1).trans ?_
    generalize engine.tick 1 = engine
    simp only
    split
    · exact ReflTransGen.refl
    · exact ReflTransGen.refl
    · rename_i writes _ _
      have hasRead : (engine.tick 2).HasRead world (engine.now world 0) :=
        hasRead_tick (by omega)
      refine (sections_tick engine 2).trans ?_
      cases replaces : replacesId != 0 &&
          (engine.tick 2).data.active.contains replacesId with
      | true =>
          simp only [if_true]
          refine ReflTransGen.head (Section.arrive incoming _ writes ?_
            hasRead) (sections_finish _ _)
          simp only [Bool.and_eq_true] at replaces
          exact replaces.2.symm
      | false =>
          simp only [Bool.false_eq_true, if_false]
          refine (sections_allocateId (engine.tick 2)).trans ?_
          cases allocated : (engine.tick 2).allocateId.1 with
          | none => exact ReflTransGen.refl
          | some id =>
              refine ReflTransGen.head (Section.arrive incoming _ writes ?_
                hasRead) (sections_finish _ _)
              exact (allocateId_fresh allocated).1.symm

/-- A full engine has an oldest notification. -/
theorem exists_oldest {data : EngineData} (wellKeyed : data.WellKeyed)
    (full : policy.maximumActive ≤ data.active.size) :
    ∃ item, oldest data.active.values = some item ∧
      data.active[item.id]? = some item := by
  have positive : 0 < data.active.values.length := by
    rw [length_values]
    exact Nat.lt_of_lt_of_le (by decide) full
  cases found : oldest data.active.values with
  | none =>
      cases values : data.active.values with
      | nil => simp [values] at positive
      | cons first rest => simp [values, oldest] at found
  | some item =>
      obtain ⟨id, present⟩ := mem_values_iff.mp (oldest_mem found)
      exact ⟨item, rfl, by rw [wellKeyed.keyed present, present]⟩

/-- What making room for an update outcome leaves behind. -/
theorem evictForUpdate_spec {evicted : Engine} (request : Request)
    (wellKeyed : engine.data.WellKeyed)
    (evicts : engine.evictForUpdate world = .ok evicted) :
    Sections world request engine evicted ∧
      evicted.data.active.size < policy.maximumActive ∧
      engine.ticks ≤ evicted.ticks ∧
      (∀ id : Nat, engine.data.active.contains id = false →
        evicted.data.active.contains id = false) ∧
      evicted.data.appPolicies = engine.data.appPolicies ∧
      evicted.data.sharing = engine.data.sharing := by
  unfold evictForUpdate at evicts
  by_cases full : policy.maximumActive ≤ engine.data.active.size
  · obtain ⟨item, found, present⟩ := exists_oldest wellKeyed full
    have isActive : engine.data.active.contains item.id = true := by
      rw [contains_eq_isSome, present]
      rfl
    simp only [full, if_true, found] at evicts
    cases reserved : engine.reservePersistence with
    | error error => simp [reserved, Except.map] at evicts
    | ok writes =>
        simp only [reserved, Except.map, Except.ok.injEq] at evicts
        have closed : Sections world request engine
            (engine.closeLocked world item.id CloseReason.undefined
              writes).2.1 := sections_closeLocked ..
        rw [← evicts]
        refine ⟨closed.trans (sections_enqueue _ _), ?_⟩
        simp only [closeLocked, isActive, if_true, enqueue_data,
          enqueue_ticks, emit_data, emit_ticks, tick_data, tick_ticks,
          withData_data, withData_ticks, EngineData.bumped_active,
          EngineData.remove_active, EngineData.bumped_appPolicies,
          EngineData.remove_appPolicies, EngineData.bumped_sharing,
          EngineData.remove_sharing]
        refine ⟨?_, by omega, ?_, trivial, trivial⟩
        · have smaller := size_erase_of_contains isActive
          have bounded := wellKeyed.bounded
          omega
        · intro id absent
          rw [ExtTreeMap.contains_erase, absent, Bool.and_false]
  · simp only [full, if_false, Except.ok.injEq] at evicts
    subst evicted
    exact ⟨ReflTransGen.refl, Nat.lt_of_not_le full, Nat.le_refl _,
      fun _ absent => absent, rfl, rfl⟩

theorem hush_hidden {data : EngineData} {item : ActiveNotification}
    {now : Nat} (suppressed : data.suppressed item now = true) :
    (data.hush item now).toastVisible = false := by
  simp [EngineData.hush, suppressed]

theorem sections_notifyUpdateOnce (wellKeyed : engine.data.WellKeyed)
    (key runId : String) (incoming : IncomingNotification) :
    Sections world (.notifyUpdateOnce key runId incoming) engine
      (engine.notifyUpdateOnce world key runId incoming).2 := by
  unfold notifyUpdateOnce
  split
  · exact ReflTransGen.refl
  · split
    · exact ReflTransGen.refl
    · exact ReflTransGen.refl
    · rename_i store _ _
      refine (sections_allocateId engine).trans ?_
      simp only
      cases allocated : engine.allocateId.1 with
      | none => exact ReflTransGen.refl
      | some id =>
          have absent := (allocateId_fresh allocated).1
          simp only
          generalize saves : store.saveOnce _ _ _ _ = saved
          have stored : Sections world (.notifyUpdateOnce key runId incoming)
              engine.allocateId.2
              ((engine.allocateId.2.tick 2).withPersistence saved.2) :=
            sections_outside rfl rfl (Nat.le_add_right _ _)
          refine stored.trans ?_
          cases saved.1 with
          | error error => exact ReflTransGen.refl
          | ok inserted =>
              cases inserted with
              | false => exact ReflTransGen.refl
              | true =>
                  simp only
                  cases evicts : ((engine.allocateId.2.tick 2).withPersistence
                      saved.2).evictForUpdate world with
                  | error error => exact ReflTransGen.refl
                  | ok evicted =>
                      obtain ⟨sections, room, forward, keepsAbsent, policies,
                        sharing⟩ := evictForUpdate_spec
                          (.notifyUpdateOnce key runId incoming)
                          (by exact wellKeyed) evicts
                      refine sections.trans ?_
                      refine ReflTransGen.head (Section.install incoming
                        (keepsAbsent id absent) room rfl
                        ⟨engine.ticks, ?_, rfl⟩ ?_) (sections_publish _)
                      · exact Nat.lt_of_lt_of_le (Nat.lt_add_of_pos_right
                          (by decide)) forward
                      · intro suppressed
                        refine hush_hidden ?_
                        rw [EngineData.suppressed, policies, sharing]
                          at suppressed
                        exact suppressed

theorem sections_observeSharing (observation : Option Bool) :
    Sections world (.observeSharing observation) engine
      (engine.observeSharing world observation) :=
  (sections_tick engine 1).trans (ReflTransGen.head
    (Section.observe observation (hasRead_tick (by omega)))
    (sections_publish _))

theorem sections_snoozeSharing (generation minutes : Nat) :
    Sections world (.snoozeSharing generation minutes) engine
      (engine.snoozeSharing world generation minutes).2 := by
  unfold snoozeSharing
  refine (sections_tick engine 1).trans ?_
  simp only
  cases snoozed : (engine.tick 1).data.sharing.snooze generation minutes
      (engine.now world 0) with
  | error error => exact ReflTransGen.refl
  | ok sharing =>
      exact ReflTransGen.head (Section.snoozeSharing snoozed)
        (sections_publish _)

theorem sections_setSettings (patch : SettingsPatch) :
    Sections world (.setSettings patch) engine
      (engine.setSettings world patch).2 := by
  unfold setSettings
  split
  · exact ReflTransGen.refl
  · simp only
    generalize asks : engine.ask _ _ = asked
    refine (sections_of_ask asks).trans ?_
    split
    · exact ReflTransGen.refl
    · exact (sections_manage _ _ _ _ _ _).trans (sections_publish _)

theorem sections_setAppPolicy (key : String) (policy : AppPolicy) :
    Sections world (.setAppPolicy key policy) engine
      (engine.setAppPolicy world key policy).2 := by
  unfold setAppPolicy
  split
  · exact ReflTransGen.refl
  · refine (sections_tick engine 2).trans ?_
    simp only
    split
    · exact ReflTransGen.refl
    · split
      · exact ReflTransGen.refl
      · generalize asks : (engine.tick 2).ask _ _ = asked
        refine (sections_of_ask asks).trans ?_
        split
        · exact ReflTransGen.refl
        · have hasRead : (asked.2.tick 1).HasRead world
              (asked.2.now world 0) := hasRead_tick (by omega)
          refine (sections_tick asked.2 1).trans ?_
          refine ReflTransGen.head (Section.policy key policy hasRead) ?_
          exact (sections_bump _ 1).trans (sections_publish _)

theorem sections_setReading (monitor : String) (reading : Bool) :
    Sections world (.setReading monitor reading) engine
      (engine.setReading world monitor reading).2 := by
  unfold setReading
  split
  · exact ReflTransGen.refl
  · simp only
    split
    · exact sections_tick engine 1
    · exact (sections_tick engine 2).trans (ReflTransGen.head
        (Section.reading _ monitor reading _) (sections_publish _))

theorem sections_prepareDelete (appKey : Option String)
    (selected : Option Position) :
    Sections world (.prepareDelete appKey selected) engine
      (engine.prepareDelete world appKey selected).2 := by
  unfold prepareDelete
  split
  · exact ReflTransGen.refl
  · simp only
    generalize asks : engine.ask _ _ = asked
    refine (sections_of_ask asks).trans ?_
    split
    · exact ReflTransGen.refl
    · split
      · exact ReflTransGen.refl
      · split
        · exact sections_tick _ 1
        · split
          · exact (sections_tickets _ _).trans (sections_tick _ _)
          · exact ((sections_tickets _ _).trans
              (sections_tick _ _)).trans (sections_tickets _ _)

theorem sections_cancelDelete (token : String) :
    Sections world request engine (engine.cancelDelete token) :=
  sections_tickets engine _

theorem sections_deleteOne (position : Position) :
    Sections world request engine (engine.deleteOne position) := by
  unfold deleteOne
  split
  · rename_i same
    refine ReflTransGen.single (Section.retire _ _ ?_)
    rw [contains_eq_isSome]
    exact Option.isSome_of_any same
  · exact ReflTransGen.refl

theorem sections_deleteAll (positions : List Position) :
    Sections world request engine (positions.foldl deleteOne engine) := by
  induction positions generalizing engine with
  | nil => exact ReflTransGen.refl
  | cons position positions ih => exact (sections_deleteOne position).trans ih

theorem sections_deleteConfirmed (token : String) :
    Sections world (.deleteConfirmed token) engine
      (engine.deleteConfirmed world token).2 := by
  unfold deleteConfirmed
  split
  · exact ReflTransGen.refl
  · refine (sections_cancelDelete token).trans
      ((sections_tick _ 1).trans ?_)
    simp only
    split
    · exact ReflTransGen.refl
    · generalize asks : ask _ _ _ = asked
      refine (sections_of_ask asks).trans ?_
      split
      · exact ReflTransGen.refl
      · exact (sections_deleteAll _).trans
          ((sections_bump _ 1).trans (sections_publish _))

theorem sections_close (id reason : Nat) :
    Sections world request engine (engine.close world id reason).2 := by
  unfold close
  split
  · exact ReflTransGen.refl
  · rename_i writes _
    refine (sections_closeLocked engine id reason writes).trans ?_
    simp only
    split
    · exact sections_finish _ _
    · exact ReflTransGen.refl

theorem sections_clear :
    Sections world .clear engine (engine.clear world).2 := by
  unfold clear
  split
  · exact ReflTransGen.refl
  · simp only
    split
    · exact ReflTransGen.single (.clear engine)
    · exact (sections_tick engine 1).trans
        (ReflTransGen.head (.clear _) (sections_finish _ _))

theorem sections_clearGroup (groupKey : String) :
    Sections world (.clearGroup groupKey) engine
      (engine.clearGroup world groupKey).2 := by
  unfold clearGroup
  split
  · exact ReflTransGen.refl
  · rename_i writes _
    simp only
    generalize (engine.data.active.values.filter _).map _ = ids
    refine (sections_closeAll engine ids CloseReason.dismissed writes).trans ?_
    split
    · exact ReflTransGen.refl
    · exact sections_finish _ _

theorem sections_setDndLocked (enabled : Bool) (limit : Option Nat)
    (writes : PendingWrites) :
    Sections world request engine
      (engine.setDndLocked world enabled limit writes).1 := by
  have consistent : enabled = false →
      (if enabled then limit else none) = none := by
    intro disabled
    simp [disabled]
  unfold setDndLocked
  simp only
  generalize (if enabled then limit else none) = chosen at consistent ⊢
  refine ReflTransGen.head (Section.dnd engine enabled chosen consistent) ?_
  split
  · exact sections_publish _
  · exact ReflTransGen.refl

theorem sections_setDnd (enabled : Bool) (limit : Option Nat) :
    Sections world request engine (engine.setDnd world enabled limit).2 := by
  unfold setDnd
  split
  · exact ReflTransGen.refl
  · exact (sections_setDndLocked _ _ _).trans (sections_enqueue _ _)

theorem sections_toggleDnd :
    Sections world request engine (engine.toggleDnd world).2 := by
  unfold toggleDnd
  split
  · exact ReflTransGen.refl
  · exact (sections_setDndLocked _ _ _).trans (sections_enqueue _ _)

theorem sections_snooze (id limit : Nat) :
    Sections world (.snooze id limit) engine
      (engine.snooze world id limit).2 := by
  unfold snooze
  split
  · exact ReflTransGen.refl
  · refine (sections_tick engine 1).trans ?_
    simp only
    split
    · exact ReflTransGen.refl
    · split
      · exact ReflTransGen.refl
      · rename_i found
        exact ReflTransGen.head (.snooze found) (sections_finish _ _)

theorem sections_reply (id : Nat) (text : String) :
    Sections world (.reply id text) engine (engine.reply id text).2 := by
  unfold reply
  split
  · exact ReflTransGen.refl
  · split
    · rename_i offered
      cases found : engine.data.active[id]? with
      | none => simp [found] at offered
      | some item =>
          exact ReflTransGen.single
            (.reply text found (by simpa [found] using offered))
    · exact ReflTransGen.refl

/-- The end of an action: a resident notification stays. -/
theorem sections_afterAction {before : Engine} (resident : Bool) (id : Nat)
    (writes : PendingWrites) (sections : Sections world request before engine) :
    Sections world request before
      (if resident then (Except.ok true, engine)
      else
        let closed := engine.closeLocked world id CloseReason.dismissed writes
        ((.ok true : Except String Bool),
          (closed.2.1.publishSummary world).enqueue world closed.2.2)).2 := by
  refine sections.trans ?_
  cases resident with
  | true => exact ReflTransGen.refl
  | false =>
      exact (sections_closeLocked engine id _ writes).trans
        (sections_finish _ _)

theorem sections_invokeAction (id : Nat) (actionKey : String)
    (token : Option String) :
    Sections world (.invokeAction id actionKey token) engine
      (engine.invokeAction world id actionKey token).2 := by
  unfold invokeAction
  split
  · exact ReflTransGen.refl
  · split
    · exact ReflTransGen.refl
    · rename_i item found
      split
      · exact ReflTransGen.refl
      · rename_i offered
        have offered : offers item actionKey = true := by simpa using offered
        refine (sections_tick engine 1).trans ?_
        simp only
        split
        · exact ReflTransGen.refl
        · refine sections_afterAction _ id _ ?_
          cases token with
          | none => exact ReflTransGen.single (.invoke none found offered)
          | some token =>
              exact ReflTransGen.head (.activate token found offered)
                (ReflTransGen.single (.invoke (some token) found offered))

theorem sections_pruneDue :
    Sections world request engine (engine.pruneDue world) := by
  unfold pruneDue
  refine (sections_tick engine 1).trans ?_
  simp only
  split
  · generalize asks : ask _ _ _ = asked
    refine (sections_of_ask asks).trans ?_
    obtain ⟨revisions, retentionError, same⟩ :=
      asked.2.data.retentionRan_managed (asked.2.now world 0) asked.1
    rw [same]
    exact (sections_manage _ _ _ _ _ _).trans (sections_tick _ 1)
  · exact ReflTransGen.refl

theorem sections_dueWork (writes : PendingWrites) :
    Sections world .expireDue engine (engine.dueWork world writes).1 := by
  unfold dueWork
  refine sections_pruneDue.trans ((sections_tick _ 1).trans ?_)
  exact ReflTransGen.head (Section.expire (hasRead_tick (by omega)))
    (sections_closeAll _ _ _ _)

theorem sections_expireDue :
    Sections world .expireDue engine (engine.expireDue world) := by
  unfold expireDue
  split
  · exact ReflTransGen.refl
  · exact (sections_dueWork _).trans (sections_finish _ _)

theorem sections_queryHistory (query : HistoryQuery) :
    Sections world request engine (engine.queryHistory world query).2 := by
  unfold queryHistory
  split
  · exact ReflTransGen.refl
  · split
    · exact sections_tick engine 1
    · refine (sections_tick engine 1).trans ((sections_tick _ 1).trans ?_)
      simp only
      split
      · exact ReflTransGen.refl
      · generalize asks : ask _ _ _ = asked
        refine (sections_of_ask asks).trans ?_
        split
        · exact ReflTransGen.refl
        · exact ReflTransGen.refl

/-- Every request is a sequence of critical sections. -/
theorem sections_step (wellKeyed : engine.data.WellKeyed)
    (request : Request) :
    Sections world request engine (engine.step world request) := by
  cases request with
  | notify replacesId incoming =>
      exact sections_notify engine replacesId incoming
  | notifyUpdateOnce key runId incoming =>
      exact sections_notifyUpdateOnce wellKeyed key runId incoming
  | observeSharing observation => exact sections_observeSharing observation
  | snoozeSharing generation minutes =>
      exact sections_snoozeSharing generation minutes
  | setSettings patch => exact sections_setSettings patch
  | setAppPolicy key policy => exact sections_setAppPolicy key policy
  | setReading monitor reading => exact sections_setReading monitor reading
  | workspacesChanged => exact sections_publish engine
  | prepareDelete appKey selected =>
      exact sections_prepareDelete appKey selected
  | cancelDelete token => exact sections_cancelDelete token
  | deleteConfirmed token => exact sections_deleteConfirmed token
  | close id reason => exact sections_close id reason
  | dismiss id => exact sections_close id _
  | clear => exact sections_clear
  | clearGroup groupKey => exact sections_clearGroup groupKey
  | setDnd enabled limit => exact sections_setDnd enabled limit
  | toggleDnd => exact sections_toggleDnd
  | snooze id limit => exact sections_snooze id limit
  | reply id text => exact sections_reply id text
  | invokeAction id actionKey token =>
      exact sections_invokeAction id actionKey token
  | expireDue => exact sections_expireDue
  | queryHistory query => exact sections_queryHistory query
  | shutdown => exact sections_ask engine _ _

end Engine

end BarDaemon.Notifications
