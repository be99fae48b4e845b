import BarDaemon.NotificationIncarnations

/-!
# The expiry timer

The timer considers the deadlines of active notifications, reading leases,
screen sharing, retention, do not disturb and silent policies.  Before the
first of them an expiry changes nothing; after the due work none of them is
due.
-/

namespace BarDaemon.Notifications

open Std OrderedMaps TransitionRuns

/-! ## One deadline at a time -/

/-- The deadline of one notification, while its monitor is read or not. -/
def ActiveNotification.deadline (held : Bool) (item : ActiveNotification) :
    Option Nat :=
  if held then item.snoozedUntilUnixMs.or item.expiresUnixMs
  else item.nextDeadline

theorem EngineData.itemDeadline_eq (data : EngineData)
    (item : ActiveNotification) :
    data.itemDeadline item =
      item.deadline (data.decks.reading item.sourceMonitor) :=
  rfl

namespace AppPolicy

theorem expire_eq_self {policy : AppPolicy} {now : Nat}
    (future : ∀ limit ∈ policy.untilUnixMs, now < limit) :
    policy.expire now = (policy, false) := by
  simp [expire, expireFlag, takeDue_eq_self future]

theorem lt_of_mem_expire {policy : AppPolicy} {now limit : Nat}
    (remains : limit ∈ (policy.expire now).1.untilUnixMs) : now < limit :=
  lt_of_mem_takeDue remains

end AppPolicy

namespace ActiveNotification

variable {item : ActiveNotification} {now limit : Nat}

/-- A future snooze defers everything else. -/
theorem advance_of_snoozed (snoozed : item.snoozedUntilUnixMs = some limit)
    (future : now < limit) : item.advance now = (item, false, false) := by
  have remains : takeDue (some limit) now = (some limit, false) :=
    takeDue_eq_self (by simpa using future)
  have kept : { item with snoozedUntilUnixMs := some limit } = item := by
    rw [← snoozed]
  simp only [advance, snoozed, remains, Option.isSome_some, if_true, kept]

/-- Nothing is due: the popup has no end or a later one, and so has the
notification. -/
theorem advance_of_future (awake : item.snoozedUntilUnixMs = none)
    (toast : ∀ limit ∈ item.toastExpiresUnixMs, now < limit)
    (expires : ∀ limit ∈ item.expiresUnixMs, now < limit) :
    item.advance now = (item, false, false) := by
  have notExpired : (item.expiresUnixMs.any fun limit => limit ≤ now) =
      false := by
    cases found : item.expiresUnixMs with
    | none => rfl
    | some limit => simpa using expires limit found
  have kept : { item with
      snoozedUntilUnixMs := none
      toastExpiresUnixMs := item.toastExpiresUnixMs
      toastVisible := item.toastVisible } = item := by
    rw [← awake]
  have remains : takeDue none now = (none, false) := rfl
  simp only [advance, awake, remains, takeDue_eq_self toast, notExpired,
    Option.isSome_none, Bool.false_eq_true, if_false, Bool.not_false,
    Bool.and_true, kept]

/-- The deadlines of a notification that is awake. -/
theorem lt_of_nextDeadline (awake : item.snoozedUntilUnixMs = none)
    (future : ∀ limit ∈ item.nextDeadline, now < limit) :
    (∀ limit ∈ item.toastExpiresUnixMs, now < limit) ∧
      ∀ limit ∈ item.expiresUnixMs, now < limit := by
  unfold nextDeadline at future
  rw [awake, Option.none_or] at future
  cases expires : item.expiresUnixMs with
  | none =>
      rw [expires] at future
      exact ⟨future, by simp⟩
  | some protocol =>
      cases toast : item.toastExpiresUnixMs with
      | none =>
          rw [expires, toast] at future
          exact ⟨by simp, future⟩
      | some popup =>
          rw [expires, toast] at future
          have both : now < min protocol popup := future _ rfl
          constructor
          · rintro limit ⟨⟩
            omega
          · rintro limit ⟨⟩
            omega

/-- Before its deadline nothing happens to a notification. -/
theorem advanceHeld_eq_self (held : Bool)
    (future : ∀ limit ∈ item.deadline held, now < limit) :
    EngineData.advanceHeld held item now = (item, false, false) := by
  cases snoozed : item.snoozedUntilUnixMs with
  | some limit =>
      have later : now < limit := by
        cases held <;>
          exact future limit (by simp [deadline, nextDeadline, snoozed])
      cases held with
      | false => exact advance_of_snoozed snoozed later
      | true =>
          have bare : ({ item with toastExpiresUnixMs := none } :
              ActiveNotification).snoozedUntilUnixMs = some limit := snoozed
          simp only [EngineData.advanceHeld, if_true,
            advance_of_snoozed bare later]
  | none =>
      cases held with
      | false =>
          obtain ⟨toast, expires⟩ := lt_of_nextDeadline snoozed future
          exact advance_of_future snoozed toast expires
      | true =>
          have bare : ({ item with toastExpiresUnixMs := none } :
              ActiveNotification).snoozedUntilUnixMs = none := snoozed
          have expires : ∀ limit ∈ item.expiresUnixMs, now < limit := by
            intro limit member
            exact future limit (by simpa [deadline, snoozed] using member)
          simp only [EngineData.advanceHeld, if_true,
            advance_of_future bare (by simp) expires]

theorem advanceHeld_sourceMonitor (held : Bool) (item : ActiveNotification)
    (now : Nat) :
    (EngineData.advanceHeld held item now).1.sourceMonitor =
      item.sourceMonitor := by
  have kept : ∀ item : ActiveNotification,
      (item.advance now).1.sourceMonitor = item.sourceMonitor := by
    intro item
    unfold advance
    simp only
    split <;> rfl
  unfold EngineData.advanceHeld
  split
  · exact kept _
  · exact kept item

/-- What has advanced and not expired has its deadline in the future. -/
theorem lt_of_advance {advanced : ActiveNotification} {woke : Bool}
    (advances : item.advance now = (advanced, woke, false)) :
    (∀ limit ∈ advanced.snoozedUntilUnixMs, now < limit) ∧
      (advanced.snoozedUntilUnixMs = none →
        (∀ limit ∈ advanced.toastExpiresUnixMs, now < limit) ∧
          ∀ limit ∈ advanced.expiresUnixMs, now < limit) := by
  unfold advance at advances
  simp only at advances
  split at advances
  · rename_i stillSnoozed
    obtain ⟨rfl, -⟩ := Prod.mk.inj advances
    refine ⟨fun limit remains => lt_of_mem_takeDue remains, ?_⟩
    intro awake
    simp only at awake
    simp [awake] at stillSnoozed
  · simp only [Prod.mk.injEq] at advances
    obtain ⟨rfl, -, notExpired⟩ := advances
    refine ⟨fun limit remains => lt_of_mem_takeDue remains, fun _ =>
      ⟨fun limit remains => lt_of_mem_takeDue remains, ?_⟩⟩
    intro limit expires
    rw [Option.mem_def] at expires
    rw [expires] at notExpired
    simpa using notExpired

theorem lt_of_advanceHeld {held : Bool} {advanced : ActiveNotification}
    {woke : Bool}
    (advances : EngineData.advanceHeld held item now =
      (advanced, woke, false)) :
    ∀ limit ∈ advanced.deadline held, now < limit := by
  have split : ∀ {first second : Option Nat},
      (∀ limit ∈ first, now < limit) →
      (first = none → ∀ limit ∈ second, now < limit) →
      ∀ limit ∈ first.or second, now < limit := by
    intro first second sooner later
    cases first with
    | none => simpa using later rfl
    | some limit => simpa using sooner
  cases held with
  | false =>
      obtain ⟨snoozed, awake⟩ := lt_of_advance advances
      refine split snoozed ?_
      intro isAwake limit member
      obtain ⟨toast, expires⟩ := awake isAwake
      cases protocol : advanced.expiresUnixMs with
      | none => exact toast limit (by simpa [protocol] using member)
      | some first =>
          cases popup : advanced.toastExpiresUnixMs with
          | none => exact expires limit (by simpa [protocol, popup] using member)
          | some second =>
              have sooner := expires first protocol
              have later := toast second popup
              simp only [protocol, popup, Option.mem_def,
                Option.some.injEq] at member
              omega
  | true =>
      simp only [EngineData.advanceHeld, if_true, Prod.mk.injEq] at advances
      obtain ⟨rfl, rfl, notExpired⟩ := advances
      have bare := lt_of_advance (Prod.ext rfl (Prod.ext rfl notExpired))
      exact split bare.1 fun isAwake => (bare.2 isAwake).2

end ActiveNotification

/-! ## Reading leases -/

namespace Decks

variable {decks : Decks} {now : Nat}

theorem expire_eq_self (active : ExtTreeMap Nat ActiveNotification)
    (future : ∀ limit ∈ decks.deadline, now < limit) :
    decks.expire now active = (decks, active) := by
  have none : decks.expiredMonitors now = [] := by
    unfold expiredMonitors
    rw [List.map_eq_nil_iff, List.filter_eq_nil_iff]
    rintro ⟨monitor, lease⟩ member
    have held : lease.2 ∈ decks.leases.values.map Prod.snd := by
      refine List.mem_map_of_mem (mem_values_iff.mpr ⟨monitor, ?_⟩)
      exact ExtTreeMap.mem_toList_iff_getElem?_eq_some.mp member
    cases least : decks.deadline with
    | none =>
        rw [deadline, List.min?_eq_none_iff] at least
        rw [least] at held
        cases held
    | some limit =>
        have sooner : limit ≤ lease.2 := (List.min?_eq_some_iff.mp least).2 _ held
        have later := future limit least
        simp only [decide_eq_true_eq]
        omega
  rw [expire, none, List.foldl_nil]

theorem release_one (decks : Decks) (other monitor : String) (now : Nat)
    (active : ExtTreeMap Nat ActiveNotification) :
    (decks.setReading other false now active).1.leases[monitor]? =
      if monitor = other then none else decks.leases[monitor]? := by
  simp only [setReading, Bool.false_eq_true, if_false]
  cases found : decks.leases[other]? with
  | none =>
      by_cases same : monitor = other
      · simp [same, found]
      · simp [same]
  | some lease =>
      simp only [ExtTreeMap.getElem?_erase, Std.compare_eq_iff_eq]
      by_cases same : monitor = other
      · simp [same]
      · simp [same, Ne.symm same]

/-- Releasing monitors removes their leases and no others. -/
theorem release_leases (monitors : List String)
    (state : Decks × ExtTreeMap Nat ActiveNotification) (monitor : String) :
    (monitors.foldl (fun state monitor =>
        state.1.setReading monitor false now state.2) state).1.leases[monitor]? =
      if monitor ∈ monitors then none else state.1.leases[monitor]? := by
  induction monitors generalizing state with
  | nil => simp
  | cons other monitors ih =>
      rw [List.foldl_cons, ih, release_one]
      by_cases same : monitor = other <;>
        by_cases listed : monitor ∈ monitors <;> simp [same, listed]

theorem lt_of_expire {active : ExtTreeMap Nat ActiveNotification} :
    ∀ limit ∈ (decks.expire now active).1.deadline, now < limit := by
  intro limit first
  have member := (List.min?_eq_some_iff.mp first).1
  obtain ⟨lease, held, rfl⟩ := List.mem_map.mp member
  obtain ⟨monitor, found⟩ := mem_values_iff.mp held
  rw [expire, release_leases] at found
  split at found
  · cases found
  · rename_i notExpired
    by_contra due
    refine notExpired (List.mem_map.mpr ⟨(monitor, lease), ?_, rfl⟩)
    refine List.mem_filter.mpr ⟨?_, by simpa using due⟩
    exact ExtTreeMap.mem_toList_iff_getElem?_eq_some.mpr found

end Decks

/-! ## The whole table -/

namespace EngineData

variable {data : EngineData} {now : Nat}

/-- What the timer relies on besides the deadlines. -/
structure Timed (data : EngineData) : Prop where
  dndLimit : data.dnd = false → data.dndUntilUnixMs = none

/-- Where a deadline comes from. -/
theorem mem_deadlines_iff {limit : Nat} :
    limit ∈ data.deadlines ↔
      (∃ (id : Nat) (item : ActiveNotification),
        data.active[id]? = some item ∧ data.itemDeadline item = some limit) ∨
      data.decks.deadline = some limit ∨
      data.sharing.untilUnixMs = some limit ∨
      limit = data.nextPruneMs ∨
      data.dndUntilUnixMs = some limit ∨
      ∃ (key : String) (policy : AppPolicy),
        data.appPolicies[key]? = some policy ∧ policy.silent = true ∧
          policy.untilUnixMs = some limit := by
  simp only [deadlines, List.mem_append, List.mem_filterMap,
    Option.mem_toList, List.mem_singleton, List.mem_filter, mem_values_iff,
    or_assoc]
  constructor
  · rintro (⟨item, ⟨id, found⟩, due⟩ | due | due | due | due |
      ⟨policy, ⟨⟨key, found⟩, silent⟩, due⟩)
    · exact .inl ⟨id, item, found, due⟩
    · exact .inr (.inl due)
    · exact .inr (.inr (.inl due))
    · exact .inr (.inr (.inr (.inl due)))
    · exact .inr (.inr (.inr (.inr (.inl due))))
    · exact .inr (.inr (.inr (.inr (.inr ⟨key, policy, found, silent, due⟩))))
  · rintro (⟨id, item, found, due⟩ | due | due | due | due |
      ⟨key, policy, found, silent, due⟩)
    · exact .inl ⟨item, ⟨id, found⟩, due⟩
    · exact .inr (.inl due)
    · exact .inr (.inr (.inl due))
    · exact .inr (.inr (.inr (.inl due)))
    · exact .inr (.inr (.inr (.inr (.inl due))))
    · exact .inr (.inr (.inr (.inr (.inr
        ⟨policy, ⟨⟨key, found⟩, silent⟩, due⟩))))

theorem expireDnd_eq_self
    (future : ∀ limit ∈ data.dndUntilUnixMs, now < limit) :
    (if data.dnd then expireFlag data.dnd data.dndUntilUnixMs now
      else (data.dnd, data.dndUntilUnixMs, false)) =
        (data.dnd, data.dndUntilUnixMs, false) := by
  cases enabled : data.dnd with
  | false => rfl
  | true => simp [expireFlag, takeDue_eq_self future]

/-- Before the first deadline an expiry changes nothing. -/
theorem expire_eq_self
    (future : ∀ limit ∈ data.deadlines, now < limit) :
    data.expire now = (data, ⟨[], [], false⟩) := by
  have decks : data.decks.expire now data.active =
      (data.decks, data.active) := by
    apply Decks.expire_eq_self
    intro limit first
    exact future limit (mem_deadlines_iff.mpr (.inr (.inl first)))
  have sharing : data.sharing.expire now = data.sharing := by
    have remains : takeDue data.sharing.untilUnixMs now =
        (data.sharing.untilUnixMs, false) := by
      apply takeDue_eq_self
      intro limit first
      exact future limit (mem_deadlines_iff.mpr (.inr (.inr (.inl first))))
    rw [Sharing.expire, remains]
  have policy : ∀ (key : String) (policy : AppPolicy),
      data.appPolicies[key]? = some policy → policy.silent = true →
        policy.expire now = (policy, false) := by
    intro key policy found silent
    apply AppPolicy.expire_eq_self
    intro limit first
    exact future limit (mem_deadlines_iff.mpr
      (.inr (.inr (.inr (.inr (.inr ⟨key, policy, found, silent, first⟩))))))
  have item : ∀ (id : Nat) (item : ActiveNotification),
      data.active[id]? = some item →
        advanceHeld (data.decks.reading item.sourceMonitor) item now =
          (item, false, false) := by
    intro id item found
    apply ActiveNotification.advanceHeld_eq_self
    intro limit first
    exact future limit (mem_deadlines_iff.mpr (.inl ⟨id, item, found, first⟩))
  have dnd : ∀ limit ∈ data.dndUntilUnixMs, now < limit :=
    fun limit first => future limit (mem_deadlines_iff.mpr
      (.inr (.inr (.inr (.inr (.inl first))))))
  have advanced : (data.active.map fun _ item =>
      advanceHeld (data.decks.reading item.sourceMonitor) item now) =
        data.active.map fun _ item => (item, false, false) := by
    apply ExtTreeMap.ext_getElem?
    intro id
    rw [ExtTreeMap.getElem?_map, ExtTreeMap.getElem?_map]
    cases found : data.active[id]? with
    | none => rfl
    | some other => exact congrArg some (item id other found)
  have sameActive : ((data.active.map fun _ item =>
      (item, false, false)).map fun _ (outcome : _ × Bool × Bool) =>
        outcome.1) = data.active := by
    rw [ExtTreeMap.map_map]
    exact map_eq_self fun _ _ _ => rfl
  have samePolicies : (data.appPolicies.map fun _ policy =>
      if policy.silent then (policy.expire now).1 else policy) =
        data.appPolicies := by
    apply map_eq_self
    intro key other found
    split
    · rename_i silent
      rw [policy key other found silent]
    · rfl
  have lapsed : (data.appPolicies.values.filter fun policy =>
      policy.silent && (policy.expire now).2) = [] := by
    rw [List.filter_eq_nil_iff]
    intro other member
    obtain ⟨key, found⟩ := mem_values_iff.mp member
    cases silent : other.silent with
    | false => simp
    | true => simp [policy key other found silent]
  unfold expire
  simp only [decks, advanced, sameActive, samePolicies, lapsed, sharing,
    expireDnd_eq_self dnd, values_map, List.filter_map]
  have sameData : data.bumped 0 = data := rfl
  simpa [Function.comp_def] using sameData

/-- An expired notification is still active under its identifier, and listed. -/
theorem expire_active (id : Nat) :
    (data.expire now).1.active[id]? =
      ((data.decks.expire now data.active).2[id]?).map fun item =>
        (advanceHeld ((data.decks.expire now data.active).1.reading
          item.sourceMonitor) item now).1 := by
  simp only [expire, bumped_active, ExtTreeMap.getElem?_map, Option.map_map]
  rfl

theorem mem_expiredIds {id : Nat} {item advanced : ActiveNotification}
    {woke : Bool} (sameId : item.id = id)
    (found : (data.decks.expire now data.active).2[id]? = some item)
    (advances : advanceHeld ((data.decks.expire now data.active).1.reading
      item.sourceMonitor) item now = (advanced, woke, true)) :
    id ∈ (data.expire now).2.expiredIds := by
  simp only [expire]
  refine List.mem_map.mpr ⟨(advanced, woke, true), ?_, ?_⟩
  · refine List.mem_filter.mpr ⟨mem_values_iff.mpr ⟨id, ?_⟩, rfl⟩
    rw [ExtTreeMap.getElem?_map, found, Option.map_some, advances]
  · have sameAdvanced := advanceHeld_id ((data.decks.expire now
      data.active).1.reading item.sourceMonitor) item now
    rw [advances] at sameAdvanced
    exact sameAdvanced.trans sameId

theorem expire_dnd (timed : data.Timed) :
    ∀ limit ∈ (data.expire now).1.dndUntilUnixMs, now < limit := by
  intro limit first
  simp only [expire] at first
  cases enabled : data.dnd with
  | false =>
      have none := timed.dndLimit enabled
      simp [bumped, enabled, none] at first
  | true =>
      simp only [bumped, enabled, if_true] at first
      exact lt_of_mem_takeDue first

theorem expire_policy {key : String} {policy : AppPolicy}
    (found : (data.expire now).1.appPolicies[key]? = some policy)
    (silent : policy.silent = true) :
    ∀ limit ∈ policy.untilUnixMs, now < limit := by
  simp only [expire, bumped_appPolicies, ExtTreeMap.getElem?_map] at found
  obtain ⟨old, -, changed⟩ := Option.map_eq_some_iff.mp found
  intro limit first
  split at changed
  · rw [← changed] at first
    exact AppPolicy.lt_of_mem_expire first
  · rename_i loud
    rw [changed] at loud
    exact absurd silent loud

theorem expire_sharing :
    ∀ limit ∈ (data.expire now).1.sharing.untilUnixMs, now < limit :=
  fun _ first => lt_of_mem_takeDue first

/-- Once expired notifications are gone, nothing considered is due. -/
theorem lt_of_mem_deadlines_expire {settled : EngineData}
    (timed : data.Timed) (wellKeyed : data.WellKeyed)
    (active : ∀ id : Nat, settled.active[id]? =
      if id ∈ (data.expire now).2.expiredIds then none
      else (data.expire now).1.active[id]?)
    (decks : settled.decks = (data.expire now).1.decks)
    (sharing : settled.sharing = (data.expire now).1.sharing)
    (policies : settled.appPolicies = (data.expire now).1.appPolicies)
    (dnd : settled.dndUntilUnixMs = (data.expire now).1.dndUntilUnixMs)
    (prune : now < settled.nextPruneMs) :
    ∀ limit ∈ settled.deadlines, now < limit := by
  intro limit member
  rcases mem_deadlines_iff.mp member with ⟨id, item, found, due⟩ | due | due |
    due | due | ⟨key, policy, found, silent, due⟩
  · rw [active] at found
    split at found
    · cases found
    · rename_i notExpired
      rw [expire_active] at found
      obtain ⟨old, oldFound, advanced⟩ := Option.map_eq_some_iff.mp found
      have sameId : old.id = id := by
        have same :=
          (expireDecks_map _ resume_id data.decks now data.active id).1
        rw [oldFound, Option.map_some] at same
        obtain ⟨first, firstFound, sameId⟩ :=
          Option.map_eq_some_iff.mp same.symm
        rw [← sameId, wellKeyed.keyed firstFound]
      generalize outcome : advanceHeld ((data.decks.expire now
        data.active).1.reading old.sourceMonitor) old now = result at advanced
      obtain ⟨moved, woke, expired⟩ := result
      have sameMonitor : moved.sourceMonitor = old.sourceMonitor := by
        have same := ActiveNotification.advanceHeld_sourceMonitor
          ((data.decks.expire now data.active).1.reading old.sourceMonitor)
          old now
        rwa [outcome] at same
      cases expired with
      | true => exact absurd (mem_expiredIds sameId oldFound outcome) notExpired
      | false =>
          subst advanced
          refine ActiveNotification.lt_of_advanceHeld outcome limit ?_
          rw [itemDeadline_eq, decks, sameMonitor] at due
          exact due
  · rw [decks] at due
    exact Decks.lt_of_expire limit due
  · rw [sharing] at due
    exact expire_sharing limit due
  · rw [due]
    exact prune
  · rw [dnd] at due
    exact expire_dnd timed limit due
  · rw [policies] at found
    exact expire_policy found silent limit due

end EngineData

/-! ## The due work -/

namespace Engine

variable {world : Surroundings} {engine : Engine}

/-- From here on the clock shows one time. -/
def Still (world : Surroundings) (engine : Engine) (time : UnixMs) : Prop :=
  ∀ index, engine.ticks ≤ index → (world.moments index).now = time

theorem Still.now {time : UnixMs} (still : engine.Still world time)
    (offset : Nat) : engine.now world offset = time.val :=
  congrArg Subtype.val (still _ (Nat.le_add_right _ _))

theorem Still.later {time : UnixMs} (later : Engine)
    (still : engine.Still world time) (forward : engine.ticks ≤ later.ticks) :
    later.Still world time :=
  fun index bound => still index (forward.trans bound)

/-- What closing leaves of the data that the timer considers. -/
theorem closeAll_data (world : Surroundings) (engine : Engine) (ids : List Nat) (reason : Nat)
    (writes : PendingWrites) :
    let closed := (engine.closeAll world ids reason writes).1.data
    (∀ id : Nat, closed.active[id]? =
      if id ∈ ids then none else engine.data.active[id]?) ∧
    closed.decks = engine.data.decks ∧
    closed.sharing = engine.data.sharing ∧
    closed.appPolicies = engine.data.appPolicies ∧
    closed.dndUntilUnixMs = engine.data.dndUntilUnixMs ∧
    closed.nextPruneMs = engine.data.nextPruneMs := by
  induction ids generalizing engine writes with
  | nil => simp [closeAll]
  | cons first ids ih =>
      obtain ⟨active, decks, sharing, policies, dnd, prune⟩ :=
        ih (engine.closeLocked world first reason writes).2.1
          (engine.closeLocked world first reason writes).2.2
      have removed : ∀ id : Nat,
          (engine.closeLocked world first reason
            writes).2.1.data.active[id]? =
          if id = first then none else engine.data.active[id]? := by
        intro id
        rw [← EngineData.erase_getElem?]
        unfold closeLocked
        cases engine.data.active.contains first <;> rfl
      refine ⟨?_, decks.trans ?_, sharing.trans ?_, policies.trans ?_,
        dnd.trans ?_, prune.trans ?_⟩
      · intro id
        refine (active id).trans ?_
        rw [removed]
        by_cases same : id = first <;>
          by_cases listed : id ∈ ids <;> simp [same, listed]
      all_goals
        unfold closeLocked
        cases engine.data.active.contains first <;> rfl

/-- The retention pass reschedules itself. -/
theorem pruneDue_data {time : UnixMs} (still : engine.Still world time) :
    ∃ revisions nextPruneMs retentionError,
      (engine.pruneDue world).data = engine.data.managed revisions
        engine.data.deleteTickets engine.data.settings nextPruneMs
        retentionError ∧
      time.val < nextPruneMs ∧
      engine.ticks ≤ (engine.pruneDue world).ticks := by
  unfold pruneDue
  simp only [still.now]
  split
  · rename_i due
    generalize asks : ask _ _ _ = asked
    have sameData : asked.2.data = engine.data := by
      rw [← asks, ask_data, tick_data]
    have sameTicks : asked.2.ticks = engine.ticks + 1 := by
      rw [← asks, ask_ticks, tick_ticks]
    have nextNow := (still.later asked.2 (by omega)).now 0
    have later : time.val < saturatingAdd (asked.2.now world 0) 60000 := by
      have bound := time.property
      unfold lastUnixMs at bound
      rw [nextNow, saturatingAdd_eq (by unfold u64Max; omega)]
      omega
    obtain ⟨revisions, retentionError, same⟩ :=
      asked.2.data.retentionRan_managed (asked.2.now world 0) asked.1
    rw [sameData] at same
    refine ⟨revisions, _, retentionError, ?_, later, ?_⟩
    · rw [tick_data, withData_data, sameData, same]
    · simp only [tick_ticks, withData_ticks, sameTicks]
      omega
  · rename_i notDue
    exact ⟨engine.data.revisions, _, _, rfl, Nat.lt_of_not_le notDue,
      Nat.le_add_right _ _⟩

/-- After the due work no deadline that the timer considers is due. -/
theorem lt_of_mem_deadlines_dueWork {time : UnixMs}
    (still : engine.Still world time) (timed : engine.data.Timed)
    (wellKeyed : engine.data.WellKeyed) (writes : PendingWrites) :
    ∀ limit ∈ (engine.dueWork world writes).1.data.deadlines,
      time.val < limit := by
  obtain ⟨revisions, nextPruneMs, retentionError, pruned, prune, forward⟩ :=
    pruneDue_data still
  have prunedTimed : (engine.pruneDue world).data.Timed := by
    rw [pruned]
    exact ⟨timed.dndLimit⟩
  have prunedKeyed : (engine.pruneDue world).data.WellKeyed := by
    rw [pruned]
    exact ⟨wellKeyed.keyed, wellKeyed.bounded⟩
  have readNow := (still.later (engine.pruneDue world) forward).now 0
  unfold dueWork
  simp only [readNow, tick_data]
  obtain ⟨active, decks, sharing, policies, dnd, next⟩ := closeAll_data
    world (((engine.pruneDue world).tick 1).withData
      ((engine.pruneDue world).data.expire time.val).1)
    ((engine.pruneDue world).data.expire time.val).2.expiredIds
    CloseReason.expired _
  refine EngineData.lt_of_mem_deadlines_expire prunedTimed prunedKeyed active
    decks sharing policies dnd ?_
  refine Nat.lt_of_lt_of_eq prune (Eq.trans ?_ next.symm)
  simp only [withData_data, EngineData.expire, EngineData.bumped, pruned]
  rfl

end Engine

/-! ## Runs -/

theorem EngineData.timed_bumped {data : EngineData} (count : Nat)
    (dndLimit : data.dnd = false → data.dndUntilUnixMs = none) :
    (data.bumped count).Timed :=
  ⟨dndLimit⟩

theorem EngineData.timed_upsert (lookups : Lookups) (icons : IconRegistry)
    {data : EngineData} (id : Nat) (incoming : IncomingNotification)
    (sourceMonitor : String) (now maximumActive : Nat) (timed : data.Timed) :
    (upsert lookups icons data id incoming sourceMonitor now
      maximumActive).1.Timed := by
  unfold upsert
  split
  · exact timed_bumped 1 timed.dndLimit
  · simp only
    split
    · exact timed_bumped 1 timed.dndLimit
    · exact timed_bumped 1 timed.dndLimit

theorem timed_section {world : Surroundings} {request : Request}
    {before after : Engine} (performed : Section world request before after)
    (timed : before.data.Timed) : after.data.Timed := by
  cases performed with
  | outside sameData sameTrace forward => exact sameData ▸ timed
  | manage _ revisions tickets settings nextPruneMs retentionError =>
      exact ⟨timed.dndLimit⟩
  | @arrive _ _ id now replaces incoming outside writes agrees hasRead =>
      obtain ⟨sameData, -, -⟩ := Registered.insertIncoming_eq world before
        replaces id incoming outside now writes
      rw [sameData]
      exact EngineData.timed_upsert _ _ _ _ _ _ _ timed
  | install incoming absent room sameId hasRead hushed =>
      exact EngineData.timed_bumped 1 timed.dndLimit
  | retire id reason isActive => exact ⟨timed.dndLimit⟩
  | forget id absent => exact ⟨timed.dndLimit⟩
  | clear =>
      unfold Engine.clearActive
      simp only [Registered.emit_closings]
      split
      · exact ⟨timed.dndLimit⟩
      · exact EngineData.timed_bumped 1 timed.dndLimit
  | observe observation hasRead => exact ⟨timed.dndLimit⟩
  | snoozeSharing snoozed => exact ⟨timed.dndLimit⟩
  | policy key policy hasRead => exact ⟨timed.dndLimit⟩
  | reading _ monitor reading now => exact ⟨timed.dndLimit⟩
  | dnd _ enabled limit consistent => exact ⟨consistent⟩
  | snooze found => exact EngineData.timed_bumped 1 timed.dndLimit
  | reply text found offered => exact timed
  | activate token found offered => exact timed
  | invoke token found offered => exact timed
  | @expire _ now hasRead =>
      refine EngineData.timed_bumped _ ?_
      cases enabled : before.data.dnd with
      | false =>
          intro _
          exact timed.dndLimit enabled
      | true =>
          intro disabled
          simp only at disabled ⊢
          exact expireFlag_limit (by simp) now disabled
  | publish => exact ⟨timed.dndLimit⟩

/-- While a further request is served, after any requests. -/
theorem timed_midway {world : Surroundings} {start engine : Engine}
    (starts : Starts world start) (requests : List Request)
    (request : Request)
    (midway : Sections world request
      (run (Engine.step world) start requests) engine) :
    engine.data.Timed ∧ engine.data.WellKeyed := by
  have both : ∀ {request : Request} {before after : Engine},
      Section world request before after →
      before.data.Timed ∧ Registered before →
      after.data.Timed ∧ Registered after :=
    fun performed holds => ⟨timed_section performed holds.1,
      registered_section performed holds.2⟩
  have initially : start.data.Timed ∧ Registered start := by
    refine ⟨?_, registered_starts starts⟩
    obtain ⟨blank, isBlank, rfl⟩ := starts.blank
    have published : Section world .workspacesChanged blank
      (blank.publishSummary world) := .publish blank
    exact timed_section published
      ⟨isBlank.dndLimit⟩
  have preserved : ∀ engine request,
      engine.data.Timed ∧ Registered engine → True →
      (Engine.step world engine request).data.Timed ∧
        Registered (Engine.step world engine request) :=
    fun _ request holds _ => Sections.preserve both
      (Engine.sections_step holds.2.wellKeyed request) holds
  have reached := invariant_run preserved initially
    (stepsMeet_of_forall (fun _ _ => trivial) start requests)
  have holds := Sections.preserve both midway reached
  exact ⟨holds.1, holds.2.wellKeyed⟩

/-- The timer is exact in every state, between requests and inside them: before
the first deadline an expiry changes nothing, and after the due work at any
time the timer waits for a later one. -/
theorem Engine.timer_exact {world : Surroundings} {start engine : Engine}
    (starts : Starts world start) (requests : List Request)
    (request : Request)
    (midway : Sections world request
      (run (Engine.step world) start requests) engine) :
    (∀ now limit, engine.data.deadlines.min? = some limit → now < limit →
      engine.data.expire now = (engine.data, ⟨[], [], false⟩)) ∧
    ∀ (time : UnixMs) (writes : PendingWrites), engine.Still world time →
      (∀ limit ∈ (engine.dueWork world writes).1.data.deadlines,
        time.val < limit) ∧
      ∃ delay, 0 < delay ∧
        (engine.dueWork world writes).1.data.nextExpiryDelay time.val =
          some delay := by
  obtain ⟨timed, wellKeyed⟩ := timed_midway starts requests request midway
  constructor
  · intro now limit first before
    refine EngineData.expire_eq_self ?_
    intro other member
    have sooner := (List.min?_eq_some_iff.mp first).2 other member
    omega
  · intro time writes still
    have later := lt_of_mem_deadlines_dueWork still timed wellKeyed writes
    refine ⟨later, ?_⟩
    generalize (engine.dueWork world writes).1.data = data at later
    cases first : data.deadlines.min? with
    | none =>
        rw [List.min?_eq_none_iff] at first
        have prune : data.nextPruneMs ∈ data.deadlines :=
          EngineData.mem_deadlines_iff.mpr (.inr (.inr (.inr (.inl rfl))))
        rw [first] at prune
        cases prune
    | some limit =>
        have bound := later limit (List.min?_eq_some_iff.mp first).1
        refine ⟨limit - time.val, by omega, ?_⟩
        rw [EngineData.nextExpiryDelay, first, Option.map_some]

theorem Engine.timer_exact_popup :
    let time : UnixMs := ⟨1000000, by decide⟩
    let world := Surroundings.calm fun _ => time
    ∃ start, Starts world start ∧
      let engine := run (Engine.step world) start [.notify 0 .chat]
      engine.data.deadlines.min? = some 1005000 ∧
      engine.data.expire 1004999 = (engine.data, ⟨[], [], false⟩) ∧
      ∀ limit ∈ (engine.dueWork world none).1.data.deadlines,
        1000000 < limit := by
  intro time world
  obtain ⟨start, starts, first⟩ := exists_starts world .empty
    (fun start => (run (Engine.step world) start
      [.notify 0 .chat]).data.deadlines.min? == some 1005000)
    (by decide +kernel)
  have first := eq_of_beq first
  have timer := Engine.timer_exact starts [.notify 0 .chat] .expireDue .refl
  exact ⟨start, starts, first, timer.1 1004999 1005000 first (by decide),
    (timer.2 time none fun _ _ => rfl).1⟩

end BarDaemon.Notifications
