import BarDaemon.NotificationDeckProjection
import BarDaemon.NotificationExpiry

/-!
# Popups that must not interrupt

The popup of a notification is suppressed while its application is silenced or
the screen is shared.  A suppressed popup is hidden for good, not only while
the suppression lasts; this needs every request that starts a suppression to
acknowledge the popups that it finds.
-/

namespace BarDaemon.Notifications

open Std OrderedMaps TransitionRuns ToastDeck

/-! ## What decks show -/

/-- A card stands for an eligible record. -/
theorem Decks.exists_eligible {decks : Decks}
    {records : List ActiveNotification} {dnd : Bool}
    {card : ActiveNotification}
    (member : card ∈ cards (decks.project records dnd).1) :
    ∃ item ∈ records, item.id = card.id ∧ eligible dnd item = true := by
  rw [← members_map_toGroup, project_map_toGroup] at member
  have either := (KeyedGrouping.placeAll_members_subperm _ _ _ _ _).subset
    member
  rw [members_map_toGroup] at either
  rcases List.mem_append.mp either with frozen | fresh
  · obtain ⟨deck, deckMember, cardMember⟩ := List.mem_flatMap.mp frozen
    obtain ⟨-, old, -, refreshed⟩ := mem_frozen deckMember
    rw [refreshDeck_eq_some refreshed] at cardMember
    obtain ⟨previous, -, kept⟩ := List.mem_filterMap.mp cardMember
    obtain ⟨current, found, -⟩ := Option.map_eq_some_iff.mp kept
    obtain ⟨isRecord, isEligible, sameId, -⟩ := currentOf_eq_some found
    exact ⟨current, isRecord, sameId.trans (refreshCard_id kept).symm,
      isEligible⟩
  · obtain ⟨isRecord, isEligible, -⟩ := mem_ordered.mp fresh
    exact ⟨card, isRecord, rfl, isEligible⟩

/-- Identifiers that a publication shows as popups. -/
def NotificationActiveState.shows (active : NotificationActiveState)
    (id : Nat) : Prop :=
  id ∈ (cards active.toastDecks).map ActiveNotification.id

namespace EngineData

theorem mask_id (data : EngineData) (item : ActiveNotification)
    (first second : Nat) : (data.mask item first second).id = item.id := by
  unfold mask
  cases data.appPolicies[item.appKey]? with
  | none => simp only; split <;> rfl
  | some policy => simp only; split <;> split <;> rfl

theorem mask_appKey (data : EngineData) (item : ActiveNotification)
    (first second : Nat) :
    (data.mask item first second).appKey = item.appKey := by
  unfold mask
  cases data.appPolicies[item.appKey]? with
  | none => simp only; split <;> rfl
  | some policy => simp only; split <;> split <;> rfl

/-- A record is shown visible only if it is visible and nothing suppresses it
at the two readings. -/
theorem mask_toastVisible (data : EngineData) (item : ActiveNotification)
    (first second : Nat) :
    (data.mask item first second).toastVisible =
      (item.toastVisible &&
        !(data.appPolicies[item.appKey]?.any fun policy =>
          policy.silenced first) &&
        !data.sharing.suppressed second) := by
  unfold mask
  cases data.appPolicies[item.appKey]? with
  | none =>
      cases data.sharing.suppressed second <;> simp
  | some policy =>
      cases data.sharing.suppressed second <;>
        cases silenced : policy.silenced first <;> simp [silenced]

/-- The record that stands for an active notification in a publication. -/
theorem mem_visible {data : EngineData} {clock : Nat → Nat}
    {shown : ActiveNotification} (member : shown ∈ data.visible clock) :
    ∃ index < (data.visible clock).length, ∃ (id : Nat)
        (item : ActiveNotification), data.active[id]? = some item ∧
      shown = data.mask item (clock (2 * index)) (clock (2 * index + 1)) := by
  obtain ⟨⟨item, index⟩, listed, rfl⟩ := List.mem_map.mp member
  have within := List.mem_zipIdx listed
  have awake : item ∈ data.awake := by
    rw [within.2.2]
    exact List.getElem_mem _
  obtain ⟨id, found⟩ := mem_values_iff.mp (List.mem_filter.mp awake).1
  refine ⟨index, ?_, id, item, found, rfl⟩
  simpa [visible] using within.2.1

end EngineData

/-! ## Suppression over time -/

theorem AppPolicy.silenced_before {policy : AppPolicy} {earlier later : Nat}
    (order : earlier ≤ later) (silenced : policy.silenced later = true) :
    policy.silenced earlier = true := by
  unfold AppPolicy.silenced at silenced ⊢
  rw [Bool.and_eq_true] at silenced ⊢
  refine ⟨silenced.1, ?_⟩
  cases limit : policy.untilUnixMs with
  | none => rfl
  | some limit =>
      simp only [limit, Option.all_some, decide_eq_true_eq] at silenced ⊢
      omega

theorem Sharing.suppressed_before {sharing : Sharing} {earlier later : Nat}
    (order : earlier ≤ later) (suppressed : sharing.suppressed later = true) :
    sharing.suppressed earlier = true := by
  unfold Sharing.suppressed at suppressed ⊢
  rw [Bool.or_eq_true] at suppressed ⊢
  rcases suppressed with now | timed
  · exact .inl now
  · right
    cases limit : sharing.untilUnixMs with
    | none => simp [limit] at timed
    | some limit =>
        simp only [limit, Option.any_some, decide_eq_true_eq] at timed ⊢
        omega

theorem AppPolicy.silenced_of_expire {policy : AppPolicy} {now time : Nat}
    (silenced : (policy.expire now).1.silenced time = true) :
    policy.silenced time = true := by
  simp only [AppPolicy.expire, AppPolicy.silenced, expireFlag,
    Bool.and_eq_true] at silenced
  obtain ⟨⟨silent, notExpired⟩, remains⟩ := silenced
  rw [takeDue_isSome_of_not_due (by simpa using notExpired)] at remains
  rw [AppPolicy.silenced, silent, Bool.true_and]
  exact remains

theorem Sharing.suppressed_of_expire {sharing : Sharing} {now time : Nat}
    (suppressed : (sharing.expire now).suppressed time = true) :
    sharing.suppressed time = true := by
  unfold Sharing.suppressed at suppressed ⊢
  rw [Bool.or_eq_true] at suppressed ⊢
  rcases suppressed with shared | timed
  · exact .inl shared
  · right
    cases found : sharing.untilUnixMs with
    | none => simp [Sharing.expire, found, takeDue] at timed
    | some limit =>
        by_cases due : limit ≤ now
        · simp [Sharing.expire, found, takeDue, due] at timed
        · simpa [Sharing.expire, found, takeDue, due] using timed

namespace EngineData

/-- A suppression that will hold holds already. -/
theorem suppressed_before {data : EngineData} {item : ActiveNotification}
    {earlier later : Nat} (order : earlier ≤ later)
    (suppressed : data.suppressed item later = true) :
    data.suppressed item earlier = true := by
  unfold EngineData.suppressed at suppressed ⊢
  rw [Bool.or_eq_true] at suppressed ⊢
  rcases suppressed with silenced | shared
  · left
    cases found : data.appPolicies[item.appKey]? with
    | none => simp [found] at silenced
    | some policy =>
        simp only [found, Option.any_some] at silenced ⊢
        exact AppPolicy.silenced_before order silenced
  · exact .inr (Sharing.suppressed_before order shared)

theorem suppressed_eq_true_iff {data : EngineData}
    {item : ActiveNotification} {now : Nat} :
    data.suppressed item now = true ↔
      (∃ policy, data.appPolicies[item.appKey]? = some policy ∧
        policy.silenced now = true) ∨ data.sharing.suppressed now = true := by
  unfold EngineData.suppressed
  rw [Bool.or_eq_true]
  cases data.appPolicies[item.appKey]? <;> simp

end EngineData

theorem eq_false_of_imp {first second : Bool}
    (leads : first = true → second = true) (no : second = false) :
    first = false := by
  cases yes : first with
  | false => rfl
  | true => rw [leads yes] at no; cases no

/-- The item stands for one of the table that was visible if it is. -/
def EngineData.Dimmed (data : EngineData) (id : Nat)
    (item : ActiveNotification) : Prop :=
  ∃ old, data.active[id]? = some old ∧ item.appKey = old.appKey ∧
    (item.toastVisible = true → old.toastVisible = true)

namespace EngineData

variable {data : EngineData} {id : Nat} {item : ActiveNotification}

theorem Dimmed.of_same (found : data.active[id]? = some item) :
    data.Dimmed id item :=
  ⟨item, found, rfl, fun visible => visible⟩

theorem Dimmed.of_hidden {old : ActiveNotification}
    (found : data.active[id]? = some old) (sameKey : item.appKey = old.appKey)
    (hidden : item.toastVisible = false) : data.Dimmed id item :=
  ⟨old, found, sameKey, by simp [hidden]⟩

theorem dimmed_observeSharing {observation : Option Bool} {now : Nat}
    (found : (data.observeSharing observation now).active[id]? = some item) :
    data.Dimmed id item := by
  simp only [observeSharing] at found
  split at found
  · rw [ExtTreeMap.getElem?_map] at found
    obtain ⟨old, oldFound, rfl⟩ := Option.map_eq_some_iff.mp found
    exact .of_hidden oldFound rfl rfl
  · exact .of_same found

theorem dimmed_applyAppPolicy {key : String} {policy : AppPolicy} {now : Nat}
    (found : (data.applyAppPolicy key policy now).active[id]? = some item) :
    data.Dimmed id item := by
  simp only [applyAppPolicy] at found
  split at found
  · rw [ExtTreeMap.getElem?_map] at found
    obtain ⟨old, oldFound, rfl⟩ := Option.map_eq_some_iff.mp found
    split
    · exact .of_hidden oldFound rfl rfl
    · exact .of_same oldFound
  · exact .of_same found

theorem resume_popup (monitor : String) (started now : Nat)
    (item : ActiveNotification) :
    ((Decks.resume monitor started now item).appKey,
        (Decks.resume monitor started now item).toastVisible) =
      (item.appKey, item.toastVisible) := by
  unfold Decks.resume
  split <;> rfl

theorem dimmed_setReading {monitor : String} {reading : Bool} {now : Nat}
    (found : (data.setReading monitor reading now).active[id]? = some item) :
    data.Dimmed id item := by
  rcases setReading_active data.decks monitor reading now data.active with
    same | ⟨started, mapped⟩
  · refine .of_same ?_
    rw [← same]
    exact found
  · simp only [setReading, mapped, ExtTreeMap.getElem?_map] at found
    obtain ⟨old, oldFound, rfl⟩ := Option.map_eq_some_iff.mp found
    obtain ⟨sameKey, sameVisible⟩ := Prod.mk.inj
      (resume_popup monitor started now old)
    exact ⟨old, oldFound, sameKey, fun visible => sameVisible ▸ visible⟩

theorem advanceHeld_popup (held : Bool) (item : ActiveNotification)
    (now : Nat) :
    let advanced := (advanceHeld held item now).1
    advanced.appKey = item.appKey ∧
      (advanced.toastVisible = true → item.toastVisible = true) := by
  have kept : ∀ item : ActiveNotification,
      (item.advance now).1.appKey = item.appKey ∧
        ((item.advance now).1.toastVisible = true →
          item.toastVisible = true) := by
    intro item
    unfold ActiveNotification.advance
    simp only
    split
    · exact ⟨rfl, fun visible => visible⟩
    · exact ⟨rfl, fun visible => (Bool.and_eq_true_iff.mp visible).1⟩
  unfold advanceHeld
  split
  · exact kept { item with toastExpiresUnixMs := none }
  · exact kept item

theorem dimmed_expire {now : Nat}
    (found : (data.expire now).1.active[id]? = some item) :
    data.Dimmed id item := by
  rw [expire_active] at found
  obtain ⟨released, releasedFound, rfl⟩ := Option.map_eq_some_iff.mp found
  have read := (expireDecks_map (fun item => (item.appKey, item.toastVisible))
    resume_popup data.decks now data.active id).1
  rw [releasedFound, Option.map_some] at read
  obtain ⟨old, oldFound, same⟩ := Option.map_eq_some_iff.mp read.symm
  obtain ⟨sameKey, sameVisible⟩ := Prod.mk.inj same
  obtain ⟨advancedKey, advancedVisible⟩ := advanceHeld_popup
    ((data.decks.expire now data.active).1.reading released.sourceMonitor)
    released now
  exact ⟨old, oldFound, advancedKey.trans sameKey.symm,
    fun visible => sameVisible.trans (advancedVisible visible)⟩

theorem dimmed_route {workspaces : Workspaces}
    (found : (data.route workspaces).active[id]? = some item) :
    data.Dimmed id item := by
  simp only [route, ExtTreeMap.getElem?_map] at found
  obtain ⟨old, oldFound, rfl⟩ := Option.map_eq_some_iff.mp found
  refine ⟨old, oldFound, ?_, ?_⟩
  · split <;> rfl
  · split <;> exact fun visible => visible

end EngineData

/-! ## Hidden popups stay hidden -/

/-- The clock never goes back. -/
def Surroundings.Steady (world : Surroundings) : Prop :=
  ∀ first second, first ≤ second →
    (world.moments first).now.val ≤ (world.moments second).now.val

/-- A time that no reading so far is later than. -/
def Engine.Current (world : Surroundings) (engine : Engine) (time : Nat) :
    Prop :=
  ∀ index < engine.ticks, (world.moments index).now.val ≤ time

/-- A suppressed popup is hidden, not only masked. -/
def Hidden (world : Surroundings) (engine : Engine) : Prop :=
  ∀ time, engine.Current world time → ∀ {id : Nat} {item : ActiveNotification},
    engine.data.active[id]? = some item →
    engine.data.suppressed item time = true → item.toastVisible = false

namespace Hidden

variable {world : Surroundings} {before after : Engine}

theorem later (hidden : Hidden world before)
    (sameData : after.data = before.data)
    (forward : before.ticks ≤ after.ticks) : Hidden world after := by
  intro time current id item found suppressed
  rw [sameData] at found suppressed
  exact hidden time (fun index bound =>
    current index (Nat.lt_of_lt_of_le bound forward)) found suppressed

/-- Items keep their application, popups appear nowhere and no suppression is
added. -/
theorem of_dimmed (hidden : Hidden world before)
    (forward : before.ticks ≤ after.ticks)
    (items : ∀ {id : Nat} {item : ActiveNotification},
      after.data.active[id]? = some item → before.data.Dimmed id item)
    (weaker : ∀ (item : ActiveNotification) (time : Nat),
      after.data.suppressed item time = true →
      before.data.suppressed item time = true) : Hidden world after := by
  intro time current id item found suppressed
  obtain ⟨old, oldFound, sameKey, visible⟩ := items found
  have oldSuppressed : before.data.suppressed old time = true := by
    have same : before.data.suppressed item time =
        before.data.suppressed old time := by
      rw [EngineData.suppressed, sameKey]
      rfl
    rw [← same]
    exact weaker item time suppressed
  exact eq_false_of_imp visible (hidden time (fun index bound =>
    current index (Nat.lt_of_lt_of_le bound forward)) oldFound oldSuppressed)

theorem of_subset (hidden : Hidden world before)
    (sameTicks : after.ticks = before.ticks)
    (items : ∀ {id : Nat} {item : ActiveNotification},
      after.data.active[id]? = some item → before.data.active[id]? = some item)
    (samePolicies : after.data.appPolicies = before.data.appPolicies)
    (sameSharing : after.data.sharing = before.data.sharing) :
    Hidden world after := by
  refine hidden.of_dimmed (Nat.le_of_eq sameTicks.symm)
    (fun found => .of_same (items found)) ?_
  intro item time suppressed
  rw [EngineData.suppressed, samePolicies, sameSharing] at suppressed
  exact suppressed

theorem hasRead_le {now time : Nat} (hasRead : before.HasRead world now)
    (current : before.Current world time) : now ≤ time := by
  obtain ⟨index, bound, rfl⟩ := hasRead
  exact current index bound

theorem arrive (hidden : Hidden world before)
    (wellKeyed : before.data.WellKeyed) {replaces : Bool} {id now : Nat}
    (incoming : IncomingNotification) (outside : Moment)
    (writes : PendingWrites) (hasRead : before.HasRead world now) :
    Hidden world (before.insertIncoming world replaces id incoming outside now
      writes).1 := by
  have upserted := EngineData.upsert_upserted wellKeyed world.lookups
    outside.icons id incoming (outside.workspaces.focusedMonitor.getD "") now
  obtain ⟨sameData, sameTicks, -⟩ := Registered.insertIncoming_eq world before
    replaces id incoming outside now writes
  generalize EngineData.upsert _ _ _ _ _ _ _ _ = result at *
  intro time current key item found suppressed
  rw [Engine.Current, sameTicks] at current
  rw [sameData] at found suppressed
  rw [EngineData.suppressed, upserted.samePolicies, upserted.sameSharing]
    at suppressed
  rw [upserted.active] at found
  split at found
  · cases found
    exact upserted.hushed (EngineData.suppressed_before
      (hasRead_le hasRead current) suppressed)
  · split at found
    · cases found
    · exact hidden time current found suppressed

theorem install (hidden : Hidden world before) {id now : Nat}
    {stored : ActiveNotification} (runId : String)
    (hasRead : before.HasRead world now)
    (hushed : before.data.suppressed stored now = true →
      stored.toastVisible = false) :
    Hidden world (before.installUpdate id runId stored) := by
  intro time current key item found suppressed
  have found : (before.data.active.insert id stored)[key]? = some item := found
  rw [EngineData.insert_getElem?] at found
  split at found
  · cases found
    exact hushed (EngineData.suppressed_before
      (hasRead_le hasRead current) suppressed)
  · exact hidden time current found suppressed

theorem observe (hidden : Hidden world before) {now : Nat}
    (observation : Option Bool) (hasRead : before.HasRead world now) :
    Hidden world
      (before.withData (before.data.observeSharing observation now)) := by
  intro time current id item found suppressed
  simp only [Engine.withData_data, EngineData.observeSharing]
    at found suppressed
  split at found
  · rw [ExtTreeMap.getElem?_map] at found
    obtain ⟨old, -, rfl⟩ := Option.map_eq_some_iff.mp found
    rfl
  · rename_i notShared
    refine hidden time current found ?_
    rw [EngineData.suppressed_eq_true_iff] at suppressed ⊢
    rcases suppressed with silenced | shared
    · exact .inl silenced
    · exact absurd (Sharing.suppressed_before
        (hasRead_le hasRead current) shared) notShared

theorem policy (hidden : Hidden world before) {now : Nat} (key : String)
    (policy : AppPolicy) (hasRead : before.HasRead world now) :
    Hidden world
      (before.withData (before.data.applyAppPolicy key policy now)) := by
  intro time current id item found suppressed
  simp only [Engine.withData_data, EngineData.applyAppPolicy]
    at found suppressed
  rw [EngineData.suppressed_eq_true_iff] at suppressed
  simp only [ExtTreeMap.getElem?_insert, Std.compare_eq_iff_eq]
    at suppressed
  have others : ∀ {old : ActiveNotification},
      before.data.active[id]? = some old → old.appKey = item.appKey →
      ¬ key = item.appKey → old.toastVisible = false := by
    intro old oldFound sameKey different
    refine hidden time current oldFound ?_
    rw [EngineData.suppressed_eq_true_iff, sameKey]
    simpa [different] using suppressed
  split at found
  · rw [ExtTreeMap.getElem?_map] at found
    obtain ⟨old, oldFound, changed⟩ := Option.map_eq_some_iff.mp found
    split at changed
    · rw [← changed]
      rfl
    · rename_i otherApp
      subst changed
      exact others oldFound rfl fun same => otherApp same.symm
  · rename_i loud
    by_cases same : key = item.appKey
    · rcases suppressed with ⟨applied, isApplied, silenced⟩ | shared
      · rw [if_pos same, Option.some.injEq] at isApplied
        subst isApplied
        exact absurd (AppPolicy.silenced_before
          (hasRead_le hasRead current) silenced) loud
      · exact hidden time current found
          (EngineData.suppressed_eq_true_iff.mpr (.inr shared))
    · exact others found rfl same

theorem expire (hidden : Hidden world before) (now : Nat) :
    Hidden world (before.withData (before.data.expire now).1) := by
  refine hidden.of_dimmed (Nat.le_refl _) EngineData.dimmed_expire ?_
  intro item time suppressed
  rw [EngineData.suppressed_eq_true_iff] at suppressed ⊢
  rcases suppressed with ⟨policy, found, silenced⟩ | shared
  · left
    simp only [Engine.withData_data, EngineData.expire,
      EngineData.bumped_appPolicies, ExtTreeMap.getElem?_map] at found
    obtain ⟨old, oldFound, changed⟩ := Option.map_eq_some_iff.mp found
    refine ⟨old, oldFound, ?_⟩
    split at changed
    · rw [← changed] at silenced
      exact AppPolicy.silenced_of_expire silenced
    · rw [changed]
      exact silenced
  · exact .inr (Sharing.suppressed_of_expire shared)

theorem erase (hidden : Hidden world before) (id : Nat) :
    Hidden world (before.withData (before.data.remove id)) := by
  refine hidden.of_subset rfl ?_ rfl rfl
  intro key item found
  rw [Engine.withData_data, EngineData.remove_active,
    EngineData.erase_getElem?] at found
  split at found
  · cases found
  · exact found

/-- Sections keep suppressed popups hidden, unless they snooze one or start a
suppression by snoozing the screen-sharing prompt. -/
theorem hidden_section {request : Request}
    (performed : Section world request before after)
    (wellKeyed : before.data.WellKeyed) (hidden : Hidden world before)
    (notSnooze : ∀ id limit, request ≠ .snooze id limit)
    (notSharing : ∀ generation minutes,
      request ≠ .snoozeSharing generation minutes) : Hidden world after := by
  cases performed with
  | outside sameData sameTrace forward => exact hidden.later sameData forward
  | manage _ revisions tickets settings nextPruneMs retentionError =>
      exact hidden.of_subset rfl (fun found => found) rfl rfl
  | arrive incoming outside writes agrees hasRead =>
      exact hidden.arrive wellKeyed incoming outside writes hasRead
  | install incoming absent room sameId hasRead hushed =>
      exact hidden.install _ hasRead hushed
  | retire id reason isActive =>
      exact (hidden.erase id).later rfl (Nat.le_refl _)
  | forget id absent => exact hidden.erase id
  | clear =>
      intro time current id item found
      rw [(Registered.clearActive_eq before).1] at found
      simp at found
  | observe observation hasRead => exact hidden.observe observation hasRead
  | snoozeSharing snoozed => exact absurd rfl (notSharing _ _)
  | policy key policy hasRead => exact hidden.policy key policy hasRead
  | reading _ monitor reading now =>
      exact hidden.of_dimmed (Nat.le_refl _) EngineData.dimmed_setReading
        fun _ _ suppressed => suppressed
  | dnd _ enabled limit consistent =>
      exact hidden.of_subset rfl (fun found => found) rfl rfl
  | snooze found => exact absurd rfl (notSnooze _ _)
  | reply text found offered => exact hidden.later rfl (Nat.le_refl _)
  | activate token found offered => exact hidden.later rfl (Nat.le_refl _)
  | invoke token found offered => exact hidden.later rfl (Nat.le_refl _)
  | expire hasRead => exact hidden.expire _
  | publish =>
      exact hidden.of_dimmed (Nat.le_add_right _ _) EngineData.dimmed_route
        fun _ _ suppressed => suppressed

end Hidden

/-! ## What publications show -/

namespace Event

/-- Events after which a popup of the identifier may appear again. -/
def renews (id : Nat) : Event → Bool
  | .allocated other _ => other == id
  | .replaced other => other == id
  | .snoozed other => other == id
  | _ => false

/-- A publication that shows a popup of the identifier. -/
def shows (id : Nat) : Event → Prop
  | .published _ active => active.shows id
  | _ => False

instance (id : Nat) (event : Event) : Decidable (event.shows id) :=
  match event with
  | .published _ active => inferInstanceAs (Decidable
      (id ∈ (cards active.toastDecks).map ActiveNotification.id))
  | .allocated _ _ | .replaced _ | .snoozed _ | .signal _ _ =>
      .isFalse fun shows => shows

def isPublication : Event → Bool
  | .published _ _ => true
  | _ => false

theorem not_shows {id : Nat} {event : Event}
    (silent : event.isPublication = false) : ¬ event.shows id := by
  cases event <;> first | exact fun shows => shows | cases silent

end Event

/-- Whether the published rules suppress a published record. -/
def NotificationState.suppresses (state : NotificationState)
    (record : ActiveNotification) (now : Nat) : Bool :=
  (state.appPolicies[record.appKey]?.any fun policy => policy.silenced now) ||
    state.sharing.any fun sharing => sharing.suppressed now

/-- A publication shows no popup that its rules suppress at every reading
between the two places. -/
def Event.Discreet (world : Surroundings) (first last : Nat) : Event → Prop
  | .published state active => ∀ record ∈ active.notifications,
      (∀ index, first ≤ index → index < last →
        state.suppresses record (world.moments index).now.val = true) →
      ¬ active.shows record.id
  | _ => True

namespace Event

theorem discreet_of_silent {world : Surroundings} {first last : Nat}
    {event : Event} (silent : event.isPublication = false) :
    event.Discreet world first last := by
  cases event <;> first | exact trivial | cases silent

theorem Discreet.widen {world : Surroundings}
    {first last earlier later : Nat} {event : Event}
    (discreet : event.Discreet world first last) (left : earlier ≤ first)
    (right : last ≤ later) : event.Discreet world earlier later := by
  cases event with
  | published state active =>
      intro record member suppressed
      exact discreet record member fun index lower upper =>
        suppressed index (left.trans lower) (Nat.lt_of_lt_of_le upper right)
  | _ => exact trivial

end Event

/-- Nothing is shown before the identifier is renewed. -/
def Unshown (id : Nat) : List Event → Prop
  | [] => True
  | event :: rest =>
      event.renews id = true ∨ ¬ event.shows id ∧ Unshown id rest

theorem Unshown.append {id : Nat} {first second : List Event}
    (early : Unshown id first)
    (late : (∀ event ∈ first, event.renews id = false) → Unshown id second) :
    Unshown id (first ++ second) := by
  induction first with
  | nil => exact late (by simp)
  | cons event first ih =>
      rcases early with renewed | ⟨notShown, early⟩
      · exact .inl renewed
      · cases renews : event.renews id with
        | true => exact .inl renews
        | false =>
            refine .inr ⟨notShown, ih early ?_⟩
            intro others
            refine late ?_
            intro other member
            rcases List.mem_cons.mp member with rfl | member
            · exact renews
            · exact others other member

theorem unshown_of_silent {id : Nat} {events : List Event}
    (silent : ∀ event ∈ events, ¬ event.shows id) : Unshown id events := by
  induction events with
  | nil => exact trivial
  | cons event events ih =>
      exact .inr ⟨silent event (by simp), ih fun other member =>
        silent other (List.mem_cons_of_mem event member)⟩

/-- Every popup of the identifier is hidden. -/
def EngineData.Quiet (data : EngineData) (id : Nat) : Prop :=
  ∀ item : ActiveNotification, data.active[id]? = some item →
    item.toastVisible = false

/-- A publication shows a popup only for a visible notification that nothing
suppressed when the publication looked. -/
theorem exists_shown (world : Surroundings) {before : Engine}
    (wellKeyed : before.data.WellKeyed) {id : Nat} {state : NotificationState}
    {active : NotificationActiveState}
    (published : (before.publishSummary world).trace =
      before.trace ++ [.published state active])
    (shows : active.shows id) :
    ∃ (item : ActiveNotification) (offset : Nat),
      before.data.active[id]? = some item ∧
      before.ticks + (offset + 1) < (before.publishSummary world).ticks ∧
      item.toastVisible = true ∧
      (before.data.appPolicies[item.appKey]?.any fun policy =>
        policy.silenced (before.now world offset)) = false ∧
      before.data.sharing.suppressed (before.now world (offset + 1)) =
        false := by
  have same := List.append_cancel_left published
  simp only [List.cons.injEq, Event.published.injEq, and_true] at same
  obtain ⟨-, rfl⟩ := same
  obtain ⟨card, cardMember, rfl⟩ := List.mem_map.mp shows
  obtain ⟨record, recordMember, sameId, isEligible⟩ :=
    Decks.exists_eligible cardMember
  obtain ⟨index, bound, key, routed, routedFound, masked⟩ :=
    EngineData.mem_visible recordMember
  have visible : record.toastVisible = true :=
    (Bool.and_eq_true_iff.mp isEligible).1
  rw [masked, EngineData.mask_toastVisible, Bool.and_eq_true,
    Bool.and_eq_true, Bool.not_eq_true', Bool.not_eq_true'] at visible
  simp only [EngineData.route, ExtTreeMap.getElem?_map] at routedFound
  obtain ⟨old, oldFound, moved⟩ := Option.map_eq_some_iff.mp routedFound
  have kept : routed.id = old.id ∧ routed.appKey = old.appKey ∧
      routed.toastVisible = old.toastVisible := by
    rw [← moved]
    split <;> exact ⟨rfl, rfl, rfl⟩
  have sameKey : key = card.id := by
    rw [← wellKeyed.keyed oldFound, ← kept.1, ← sameId, masked,
      EngineData.mask_id]
  subst sameKey
  refine ⟨old, 2 * index + 1, oldFound, ?_, kept.2.2 ▸ visible.1.1, ?_,
    visible.2⟩
  · simp only [Engine.publishSummary] at bound ⊢
    omega
  · rw [← kept.2.1]
    exact visible.1.2

/-- Publications are discreet; a hidden popup is not shown, and stays hidden,
until it is renewed. -/
structure Sealing (world : Surroundings) (id : Nat) (before after : Engine)
    (news : List Event) : Prop where
  grown : after.trace = before.trace ++ news
  forward : before.ticks ≤ after.ticks
  discreet : ∀ event ∈ news, event.Discreet world before.ticks after.ticks
  unshown : before.data.Quiet id → Unshown id news
  quiet : before.data.Quiet id →
    (∀ event ∈ news, event.renews id = false) → after.data.Quiet id

def Sealed (world : Surroundings) (id : Nat) (before after : Engine) : Prop :=
  ∃ news, Sealing world id before after news

namespace Sealed

variable {world : Surroundings} {id : Nat}

theorem refl (engine : Engine) : Sealed world id engine engine :=
  ⟨[], by simp, Nat.le_refl _, by simp, fun _ => trivial,
    fun quiet _ => quiet⟩

theorem trans {first second third : Engine}
    (earlier : Sealed world id first second)
    (later : Sealed world id second third) : Sealed world id first third := by
  obtain ⟨news, early⟩ := earlier
  obtain ⟨others, late⟩ := later
  refine ⟨news ++ others, ?_, early.forward.trans late.forward, ?_, ?_, ?_⟩
  · rw [late.grown, early.grown, List.append_assoc]
  · intro event member
    rcases List.mem_append.mp member with isEarly | isLate
    · exact (early.discreet event isEarly).widen (Nat.le_refl _) late.forward
    · exact (late.discreet event isLate).widen early.forward (Nat.le_refl _)
  · intro quiet
    exact (early.unshown quiet).append fun none =>
      late.unshown (early.quiet quiet none)
  · intro quiet none
    have between := early.quiet quiet fun event member =>
      none event (List.mem_append_left others member)
    exact late.quiet between fun event member =>
      none event (List.mem_append_right news member)

/-- Sections that publish nothing. -/
theorem of_silent {before after : Engine} {news : List Event}
    (grown : after.trace = before.trace ++ news)
    (forward : before.ticks ≤ after.ticks)
    (silent : ∀ event ∈ news, event.isPublication = false)
    (stays : before.data.Quiet id →
      (∀ event ∈ news, event.renews id = false) → after.data.Quiet id) :
    Sealed world id before after :=
  ⟨news, grown, forward,
    fun event member => Event.discreet_of_silent (silent event member),
    fun _ => unshown_of_silent fun event member =>
      Event.not_shows (silent event member), stays⟩

/-- Popups appear nowhere, and no event is logged that could renew one. -/
theorem of_dimmed {before after : Engine} {news : List Event}
    (grown : after.trace = before.trace ++ news)
    (forward : before.ticks ≤ after.ticks)
    (silent : ∀ event ∈ news, event.isPublication = false)
    (items : ∀ {item : ActiveNotification},
      after.data.active[id]? = some item → before.data.Dimmed id item) :
    Sealed world id before after := by
  refine of_silent grown forward silent ?_
  intro quiet _ item found
  obtain ⟨old, oldFound, -, visible⟩ := items found
  exact eq_false_of_imp visible (quiet old oldFound)

/-- A suppression that holds at both readings holds at the one that counts. -/
theorem not_suppresses {data : EngineData} {item : ActiveNotification}
    {first second : Nat} (order : first ≤ second)
    (loud : (data.appPolicies[item.appKey]?.any fun policy =>
      policy.silenced first) = false)
    (unshared : data.sharing.suppressed second = false) :
    data.suppressed item second = false := by
  rw [Bool.eq_false_iff]
  intro suppressed
  rcases EngineData.suppressed_eq_true_iff.mp suppressed with
    ⟨policy, found, silenced⟩ | shared
  · rw [found, Option.any_some,
      AppPolicy.silenced_before order silenced] at loud
    cases loud
  · rw [unshared] at shared
    cases shared

/-- A publication shows no hidden popup and no suppressed one. -/
theorem publish (steady : world.Steady) {before : Engine}
    (wellKeyed : before.data.WellKeyed) :
    Sealed world id before (before.publishSummary world) := by
  refine ⟨_, rfl, Nat.le_add_right _ _, ?_, ?_, ?_⟩
  · intro event member
    rw [List.mem_singleton.mp member]
    intro record recordMember suppressed shows
    obtain ⟨item, offset, found, bound, -, loud, unshared⟩ :=
      exists_shown world wellKeyed rfl shows
    have listed : record ∈ (before.data.route
        (before.moment world 0).workspaces).visible fun index =>
          before.now world (index + 1) := recordMember
    have sameKey : record.appKey = item.appKey := by
      obtain ⟨index, -, key, routed, routedFound, masked⟩ :=
        EngineData.mem_visible listed
      simp only [EngineData.route, ExtTreeMap.getElem?_map] at routedFound
      obtain ⟨old, oldFound, moved⟩ := Option.map_eq_some_iff.mp routedFound
      have kept : routed.id = old.id ∧ routed.appKey = old.appKey := by
        rw [← moved]
        split <;> exact ⟨rfl, rfl⟩
      have sameId : record.id = key := by
        rw [masked, EngineData.mask_id, kept.1, wellKeyed.keyed oldFound]
      rw [sameId, oldFound, Option.some.injEq] at found
      rw [masked, EngineData.mask_appKey, kept.2, found]
    have atSecond := suppressed (before.ticks + (offset + 1))
      (Nat.le_add_right _ _) bound
    have suppressedItem : before.data.suppressed item
        (before.now world (offset + 1)) = true := by
      rw [← atSecond, NotificationState.suppresses, sameKey]
      rfl
    have notSuppressed : before.data.suppressed item
        (before.now world (offset + 1)) = false :=
      not_suppresses (steady _ _ (Nat.add_le_add_left (Nat.le_succ _) _))
        loud unshared
    rw [notSuppressed] at suppressedItem
    cases suppressedItem
  · intro quiet
    refine .inr ⟨?_, trivial⟩
    intro shows
    obtain ⟨item, -, found, -, visible, -⟩ :=
      exists_shown world wellKeyed rfl shows
    rw [quiet item found] at visible
    cases visible
  · intro quiet _ item found
    obtain ⟨old, oldFound, -, visible⟩ := EngineData.dimmed_route found
    exact eq_false_of_imp visible (quiet old oldFound)

theorem arrive {before : Engine} (wellKeyed : before.data.WellKeyed)
    {replaces : Bool} {arrived now : Nat}
    (incoming : IncomingNotification) (outside : Moment)
    (writes : PendingWrites) :
    Sealed world id before (before.insertIncoming world replaces arrived
      incoming outside now writes).1 := by
  have upserted := EngineData.upsert_upserted wellKeyed world.lookups
    outside.icons arrived incoming
    (outside.workspaces.focusedMonitor.getD "") now
  obtain ⟨sameData, sameTicks, grown⟩ := Registered.insertIncoming_eq world
    before replaces arrived incoming outside now writes
  generalize EngineData.upsert _ _ _ _ _ _ _ _ = result at *
  refine of_silent grown (Nat.le_of_eq sameTicks.symm) ?_ ?_
  · intro event member
    rcases List.mem_cons.mp member with rfl | closed
    · cases replaces <;> rfl
    · obtain ⟨oldest, -, rfl⟩ := List.mem_map.mp closed
      rfl
  · intro quiet none item found
    have different : id ≠ arrived := by
      have first := none _ List.mem_cons_self
      rintro rfl
      cases replaces <;> simp [Event.renews] at first
    rw [sameData, upserted.active, if_neg different] at found
    split at found
    · cases found
    · exact quiet item found

theorem clearActive_ticks (engine : Engine) :
    engine.clearActive.ticks = engine.ticks := by
  unfold Engine.clearActive
  simp only [Registered.emit_closings]
  split <;> rfl

/-- Every section leaves hidden popups out of sight. -/
theorem sealed_section (steady : world.Steady) {request : Request} {before after : Engine}
    (performed : Section world request before after)
    (wellKeyed : before.data.WellKeyed) : Sealed world id before after := by
  have unmoved : ∀ {after : Engine} {news : List Event},
      after.trace = before.trace ++ news → before.ticks ≤ after.ticks →
      (∀ event ∈ news, event.isPublication = false) →
      (∀ {item : ActiveNotification}, after.data.active[id]? = some item →
        before.data.active[id]? = some item) → Sealed world id before after :=
    fun grown forward silent items => of_dimmed grown forward silent
      fun found => .of_same (items found)
  have noNews : ∀ event ∈ ([] : List Event), event.isPublication = false := by
    simp
  have kept : before.trace = before.trace ++ [] := by simp
  have here : before.ticks ≤ before.ticks := Nat.le_refl _
  cases performed with
  | outside sameData sameTrace forward =>
      exact unmoved (sameTrace.trans kept) forward noNews
        fun found => sameData ▸ found
  | manage _ revisions tickets settings nextPruneMs retentionError =>
      exact unmoved kept here noNews fun found => found
  | arrive incoming outside writes agrees hasRead =>
      exact arrive wellKeyed incoming outside writes
  | @install _ _ _ installed _ _ incoming absent room sameId hasRead hushed =>
      refine of_silent rfl here (by simp [Event.isPublication]) ?_
      intro quiet none item found
      have first := none _ List.mem_cons_self
      have found : (before.data.active.insert installed _)[id]? =
        some item := found
      rw [EngineData.insert_getElem?, if_neg] at found
      · exact quiet item found
      · rintro rfl
        simp [Event.renews] at first
  | retire closed reason isActive =>
      refine unmoved rfl here (by simp [Event.isPublication]) fun found => ?_
      rw [Engine.emit_data, Engine.withData_data, EngineData.remove_active,
        EngineData.erase_getElem?] at found
      split at found
      · cases found
      · exact found
  | forget closed absent =>
      refine unmoved kept here noNews fun found => ?_
      rw [Engine.withData_data, EngineData.remove_active,
        EngineData.erase_getElem?] at found
      split at found
      · cases found
      · exact found
  | clear =>
      obtain ⟨noneActive, -, closed⟩ := Registered.clearActive_eq before
      refine unmoved closed (Nat.le_of_eq (clearActive_ticks before).symm) ?_
        fun found => ?_
      · intro event member
        obtain ⟨other, -, rfl⟩ := List.mem_map.mp member
        rfl
      · rw [noneActive] at found
        simp at found
  | observe observation hasRead =>
      exact of_dimmed kept here noNews EngineData.dimmed_observeSharing
  | snoozeSharing snoozed =>
      exact unmoved kept here noNews fun found => found
  | policy key policy hasRead =>
      exact of_dimmed kept here noNews EngineData.dimmed_applyAppPolicy
  | reading _ monitor reading now =>
      exact of_dimmed kept here noNews EngineData.dimmed_setReading
  | dnd _ enabled limit consistent =>
      exact unmoved kept here noNews fun found => found
  | @snooze _ snoozed limit now _ present =>
      refine of_silent rfl here (by simp [Event.isPublication]) ?_
      intro quiet none item found
      have first := none _ List.mem_cons_self
      have found : (before.data.active.insert snoozed _)[id]? =
        some item := found
      rw [EngineData.insert_getElem?, if_neg] at found
      · exact quiet item found
      · rintro rfl
        simp [Event.renews] at first
  | reply text present offered =>
      exact unmoved rfl here (by simp [Event.isPublication])
        fun found => found
  | activate token present offered =>
      exact unmoved rfl here (by simp [Event.isPublication])
        fun found => found
  | invoke token present offered =>
      exact unmoved rfl here (by simp [Event.isPublication])
        fun found => found
  | expire hasRead =>
      exact of_dimmed kept here noNews EngineData.dimmed_expire
  | publish => exact publish steady wellKeyed

end Sealed

/-! ## Runs -/

/-- Requests that find every popup acknowledged which they suppress: a snooze
of the screen-sharing prompt finds no visible popup, and a snooze does not
bring back one that is suppressed. -/
def Careful (world : Surroundings) (engine : Engine) : Request → Prop
  | .snoozeSharing generation minutes =>
      (engine.data.sharing.snooze generation minutes
        (engine.now world 0)).isOk = true →
      ∀ (id : Nat) (item : ActiveNotification),
        engine.data.active[id]? = some item → item.toastVisible = false
  | .snooze id limit =>
      engine.now world 0 < limit → ∀ item : ActiveNotification,
        engine.data.active[id]? = some item →
        engine.data.suppressed item (engine.now world 0) = false
  | _ => True

namespace Hidden

variable {world : Surroundings} {engine : Engine}

/-- Sections of any other request. -/
theorem sections {request : Request} {after : Engine}
    (performed : Sections world request engine after)
    (registered : Registered engine) (hidden : Hidden world engine)
    (notSnooze : ∀ id limit, request ≠ .snooze id limit)
    (notSharing : ∀ generation minutes,
      request ≠ .snoozeSharing generation minutes) : Hidden world after := by
  have kept : ∀ {before after : Engine}, Section world request before after →
      Registered before ∧ Hidden world before →
      Registered after ∧ Hidden world after :=
    fun performed holds => ⟨registered_section performed holds.1,
      hidden_section performed holds.1.wellKeyed holds.2 notSnooze notSharing⟩
  exact (Sections.preserve kept performed ⟨registered, hidden⟩).2

theorem finish (registered : Registered engine) (hidden : Hidden world engine)
    (writes : PendingWrites) :
    Hidden world ((engine.publishSummary world).enqueue world writes) := by
  have performed : Sections world .workspacesChanged engine
      ((engine.publishSummary world).enqueue world writes) :=
    Engine.sections_finish engine writes
  exact hidden.sections performed registered (by simp) (by simp)

theorem snooze (registered : Registered engine) (hidden : Hidden world engine)
    {id limit : Nat} (careful : Careful world engine (.snooze id limit)) :
    Hidden world (engine.step world (.snooze id limit)) := by
  have ticked : Hidden world (engine.tick 1) :=
    hidden.later rfl (Nat.le_add_right _ _)
  have here : (engine.tick 1).HasRead world (engine.now world 0) :=
    Engine.hasRead_tick (by omega)
  change Hidden world (engine.snooze world id limit).2
  unfold Engine.snooze
  split
  · exact hidden
  · simp only
    split
    · exact ticked
    · rename_i later
      split
      · exact ticked
      · rename_i item found
        have performed : Section world (.snooze id limit) (engine.tick 1)
            ((engine.tick 1).snoozeActive id (EngineData.snoozeItem item limit
              (engine.now world 0))) := .snooze found
        refine finish (registered_section performed ?_) ?_ _
        · have ticks : Section world (.snooze id limit) engine
              (engine.tick 1) := .outside rfl rfl (Nat.le_add_right _ _)
          exact registered_section ticks registered
        · intro time current key other present suppressed
          have present : (engine.data.active.insert id (EngineData.snoozeItem
            item limit (engine.now world 0)))[key]? = some other := present
          rw [EngineData.insert_getElem?] at present
          split at present
          · cases present
            have loud := careful (Nat.lt_of_not_le later) item found
            have again : engine.data.suppressed item time = true := suppressed
            rw [EngineData.suppressed_before
              (hasRead_le here current) again] at loud
            cases loud
          · exact ticked time current present suppressed

theorem snoozeSharing (hidden : Hidden world engine)
    {generation minutes : Nat}
    (careful : Careful world engine (.snoozeSharing generation minutes)) :
    Hidden world (engine.step world (.snoozeSharing generation minutes)) := by
  have ticked : Hidden world (engine.tick 1) :=
    hidden.later rfl (Nat.le_add_right _ _)
  change Hidden world (engine.snoozeSharing world generation minutes).2
  unfold Engine.snoozeSharing
  simp only
  cases snoozed : engine.data.sharing.snooze generation minutes
      (engine.now world 0) with
  | error error =>
      rw [Engine.tick_data, snoozed]
      exact ticked
  | ok sharing =>
      rw [Engine.tick_data, snoozed]
      have quiet := careful (by rw [snoozed]; rfl)
      have shared : Hidden world ((engine.tick 1).withData
          { engine.data with sharing := sharing }) :=
        fun _ _ id item found _ => quiet id item found
      exact shared.of_dimmed (Nat.le_add_right _ _) EngineData.dimmed_route
        fun _ _ suppressed => suppressed

/-- Careful requests keep suppressed popups hidden. -/
theorem step (registered : Registered engine) (hidden : Hidden world engine)
    {request : Request} (careful : Careful world engine request) :
    Hidden world (engine.step world request) := by
  have sections : Sections world request engine
      (engine.step world request) :=
    Engine.sections_step registered.wellKeyed request
  cases request with
  | snooze id limit => exact hidden.snooze registered careful
  | snoozeSharing generation minutes => exact hidden.snoozeSharing careful
  | _ => exact hidden.sections sections registered (by simp) (by simp)

end Hidden

/-- Publications of the run after these requests keep suppressed popups away:
one that was suppressed at a current time is not shown again before it is
renewed, and one that is suppressed while a request is served is not shown by
it. -/
def Private (world : Surroundings) (start : Engine)
    (requests : List Request) : Prop :=
  ∀ earlier later, requests = earlier ++ later →
    let engine := run (Engine.step world) start earlier
    (∀ (id : Nat) (item : ActiveNotification) (time : Nat),
      engine.data.active[id]? = some item → engine.Current world time →
      engine.data.suppressed item time = true →
      ∃ news, (run (Engine.step world) engine later).trace =
        engine.trace ++ news ∧ Unshown id news) ∧
    ∀ request rest, later = request :: rest →
      ∃ news, (engine.step world request).trace = engine.trace ++ news ∧
        ∀ event ∈ news, event.Discreet world engine.ticks
          (engine.step world request).ticks

theorem sealed_step {world : Surroundings} (steady : world.Steady) (id : Nat)
    {engine : Engine} (registered : Registered engine) (request : Request) :
    Sealed world id engine (engine.step world request) := by
  have kept : ∀ {before after : Engine}, Section world request before after →
      Registered before ∧ Sealed world id engine before →
      Registered after ∧ Sealed world id engine after :=
    fun performed holds => ⟨registered_section performed holds.1,
      holds.2.trans (Sealed.sealed_section steady performed
        holds.1.wellKeyed)⟩
  exact (Sections.preserve kept
    (Engine.sections_step registered.wellKeyed request)
    ⟨registered, .refl engine⟩).2

theorem sealed_run {world : Surroundings} (steady : world.Steady) (id : Nat)
    {engine : Engine} (registered : Registered engine)
    (requests : List Request) :
    Sealed world id engine (run (Engine.step world) engine requests) := by
  have preserved : ∀ engine request, Registered engine → True →
      Registered (Engine.step world engine request) :=
    fun _ request registered _ => (registered_step world registered request).1
  have respected : ∀ engine request, Registered engine → True →
      Sealed world id engine (Engine.step world engine request) :=
    fun _ request registered _ => sealed_step steady id registered request
  exact relation_run Sealed.refl Sealed.trans preserved respected registered
    (stepsMeet_of_forall (fun _ _ => trivial) engine requests)

theorem hidden_starts {world : Surroundings} {start : Engine}
    (starts : Starts world start) : Hidden world start := by
  obtain ⟨blank, isBlank, rfl⟩ := starts.blank
  intro time _ id item found
  obtain ⟨old, oldFound, -⟩ := EngineData.dimmed_route found
  simp [isBlank.active] at oldFound

/-- With a clock that never goes back, runs of careful requests are private. -/
theorem Engine.popups_stay_private {world : Surroundings} {start : Engine}
    (starts : Starts world start) (steady : world.Steady)
    (requests : List Request)
    (careful : StepsMeet (Engine.step world) (Careful world) start requests) :
    Private world start requests := by
  rintro earlier later rfl
  have preserved : ∀ engine request,
      Registered engine ∧ Hidden world engine →
      Careful world engine request →
      Registered (Engine.step world engine request) ∧
        Hidden world (Engine.step world engine request) :=
    fun _ request holds careful =>
      ⟨(registered_step world holds.1 request).1,
        holds.2.step holds.1 careful⟩
  obtain ⟨registered, hidden⟩ := invariant_run preserved
    ⟨registered_starts starts, hidden_starts starts⟩
    (stepsMeet_append_iff.mp careful).1
  refine ⟨?_, ?_⟩
  · intro id item time found current suppressed
    obtain ⟨news, sealing⟩ := sealed_run steady id registered later
    refine ⟨news, sealing.grown, sealing.unshown ?_⟩
    intro other otherFound
    rw [found, Option.some.injEq] at otherFound
    rw [← otherFound]
    exact hidden time current found suppressed
  · intro request rest _
    obtain ⟨news, sealing⟩ := sealed_step steady 0 registered request
    exact ⟨news, sealing.grown, sealing.discreet⟩

theorem Engine.popups_stay_private_observed_sharing :
    let world := Surroundings.calm fun _ => ⟨1000000, by decide⟩
    let requests := [.notify 0 .chat, .observeSharing (some true),
      .snoozeSharing 1 15, .observeSharing (some false)]
    ∃ start, Starts world start ∧ Private world start requests := by
  intro world requests
  obtain ⟨start, starts, passes⟩ := exists_starts world .empty
    (fun start =>
      let shared := run (Engine.step world) start
        [.notify 0 .chat, .observeSharing (some true)]
      shared.data.active.toList.all fun entry => !entry.2.toastVisible)
    (by decide +kernel)
  refine ⟨start, starts, Engine.popups_stay_private starts
    (fun _ _ _ => Nat.le_refl _) requests ⟨trivial, trivial, ?_, trivial,
      trivial⟩⟩
  intro _ id item found
  rw [List.all_eq_true] at passes
  simpa using passes (id, item)
    (ExtTreeMap.mem_toList_iff_getElem?_eq_some.mpr found)

theorem Unshown.silent {id : Nat} {events : List Event}
    (unshown : Unshown id events)
    (none : ∀ event ∈ events, event.renews id = false) :
    ∀ event ∈ events, ¬ event.shows id := by
  induction events with
  | nil => simp
  | cons event events ih =>
      rcases unshown with renewed | ⟨notShown, unshown⟩
      · rw [none event List.mem_cons_self] at renewed
        cases renewed
      · intro other member
        rcases List.mem_cons.mp member with rfl | member
        · exact notShown
        · exact ih unshown (fun rest restMember =>
            none rest (List.mem_cons_of_mem event restMember)) other member

/-- A share whose first snooze is over, a message, and a second snooze. -/
def secondSnooze : List Request :=
  [.observeSharing (some true), .snoozeSharing 1 15, .workspacesChanged,
    .workspacesChanged, .notify 0 .lasting, .snoozeSharing 1 0]

/-- The message was visible when the second snooze suppressed it; it returns
when the share ends. -/
theorem Engine.popup_returns_after_second_snooze :
    ¬ ∀ (world : Surroundings) (start : Engine) (requests : List Request),
      Starts world start → world.Steady → Private world start requests := by
  intro always
  have steady : (Surroundings.calm (UnixMs.every 1000000 300000)).Steady := by
    intro first second order
    change min _ _ ≤ min _ _
    omega
  obtain ⟨start, starts, passes⟩ := exists_starts
    (Surroundings.calm (UnixMs.every 1000000 300000)) .empty
    (fun start =>
      let world := Surroundings.calm (UnixMs.every 1000000 300000)
      let engine := run (Engine.step world) start secondSnooze
      let later := engine.step world (.observeSharing (some false))
      let news := later.trace.drop engine.trace.length
      (engine.data.active[1]?.any fun item =>
        engine.data.suppressed item 10000000) &&
      ((List.range engine.ticks).all fun index =>
        (world.moments index).now.val ≤ 10000000) &&
      (news.all fun event => !event.renews 1) &&
      news.any fun event => event.shows 1)
    (by decide +kernel)
  simp only [Bool.and_eq_true] at passes
  obtain ⟨⟨⟨suppressed, current⟩, none⟩, shows⟩ := passes
  obtain ⟨item, found, suppressed⟩ := (Option.any_eq_true _ _).mp suppressed
  rw [List.all_eq_true] at current
  obtain ⟨news, grown, unshown⟩ := ((always _ start
    (secondSnooze ++ [.observeSharing (some false)]) starts steady)
      secondSnooze _ rfl).1 1 item 10000000 found
        (fun index bound => by
          simpa using current index (List.mem_range.mpr bound)) suppressed
  rw [run_cons, run_nil] at grown
  rw [grown, List.drop_left, List.all_eq_true] at none
  rw [grown, List.drop_left, List.any_eq_true] at shows
  obtain ⟨event, member, shown⟩ := shows
  exact unshown.silent (fun event member => by simpa using none event member)
    event member (by simpa using shown)

end BarDaemon.Notifications
