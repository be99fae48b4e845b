import Mathlib.Order.Interval.Finset.Nat
import BarDaemon.NotificationExpiry

/-!
# Popup time while reading

A reading lease gives the time back in which a popup could not be seen.  The
time is counted from the last update of the notification, and a snooze that
ends during the lease is counted as well.
-/

namespace BarDaemon.Notifications

open Std OrderedMaps TransitionRuns

namespace ActiveNotification

/-- The milliseconds between two times in which the popup is pending: after
the last update, and after the snooze that this may have been. -/
def pendingMs (item : ActiveNotification) (wake started ended : Nat) : Nat :=
  ((Finset.Ico started ended).filter fun time =>
    item.updatedUnixMs ≤ time ∧ wake ≤ time).card

theorem pendingMs_eq (item : ActiveNotification) (wake started ended : Nat) :
    item.pendingMs wake started ended =
      ended - max (max started item.updatedUnixMs) wake := by
  have interval : ((Finset.Ico started ended).filter fun time =>
      item.updatedUnixMs ≤ time ∧ wake ≤ time) =
        Finset.Ico (max (max started item.updatedUnixMs) wake) ended := by
    ext time
    simp only [Finset.mem_filter, Finset.mem_Ico]
    omega
  rw [pendingMs, interval, Nat.card_Ico]

/-- The popup has been paused for a while, and nothing else has changed. -/
def paused (item : ActiveNotification) (ms : Nat) : ActiveNotification :=
  { item with toastExpiresUnixMs := item.toastExpiresUnixMs.map (· + ms) }

/-- No part of the lease after the last update has been slept through, and the
deadline fits; or the deadline reaches the last representable time. -/
def Counted (item : ActiveNotification) (wake started ended : Nat) : Prop :=
  ∀ limit ∈ item.toastExpiresUnixMs,
    limit + item.pendingMs wake started ended ≤ u64Max ∧
      (wake ≤ max started item.updatedUnixMs ∨
        ended ≤ max started item.updatedUnixMs ∨
        limit + item.pendingMs wake started ended = u64Max)

end ActiveNotification

namespace Decks

theorem resume_of_ne {monitor : String} {item : ActiveNotification}
    (elsewhere : item.sourceMonitor ≠ monitor) (started ended : Nat) :
    resume monitor started ended item = item :=
  if_neg elsewhere

/-- What a lease gives back, exactly. -/
theorem resume_eq_paused_iff (item : ActiveNotification)
    (wake started ended : Nat) :
    resume item.sourceMonitor started ended item =
        item.paused (item.pendingMs wake started ended) ↔
      item.Counted wake started ended := by
  have bound := item.pendingMs_eq wake started ended
  have exact (limit : Nat) :
      saturatingAdd limit (ended - max started item.updatedUnixMs) =
          limit + item.pendingMs wake started ended ↔
        limit + item.pendingMs wake started ended ≤ u64Max ∧
          (wake ≤ max started item.updatedUnixMs ∨
            ended ≤ max started item.updatedUnixMs ∨
            limit + item.pendingMs wake started ended = u64Max) := by
    rw [saturatingAdd, bound]
    generalize max started item.updatedUnixMs = from_
    generalize u64Max = last
    omega
  rw [resume, if_pos rfl]
  unfold ActiveNotification.paused ActiveNotification.Counted
  cases toast : item.toastExpiresUnixMs with
  | none => simp
  | some limit =>
      simp only [Option.map_some, Option.mem_def, Option.some.injEq,
        forall_eq']
      rw [← exact limit]
      constructor
      · intro same
        have toasts := congrArg ActiveNotification.toastExpiresUnixMs same
        exact Option.some.inj toasts
      · intro same
        rw [same]

/-- The end of a lease changes popup deadlines only. -/
theorem resume_expires (monitor : String) (started ended : Nat)
    (item : ActiveNotification) :
    (resume monitor started ended item).expiresUnixMs =
      item.expiresUnixMs := by
  unfold resume
  split <;> rfl

theorem resume_sourceMonitor (monitor : String) (started ended : Nat)
    (item : ActiveNotification) :
    (resume monitor started ended item).sourceMonitor =
      item.sourceMonitor := by
  unfold resume
  split <;> rfl

/-- The record after the lease of its monitor, if there is one. -/
def giveBack (decks : Decks) (now : Nat) (item : ActiveNotification) :
    ActiveNotification :=
  match decks.leases[item.sourceMonitor]? with
  | some lease => resume item.sourceMonitor lease.1 now item
  | none => item

theorem giveBack_sourceMonitor (decks : Decks) (now : Nat)
    (item : ActiveNotification) :
    (decks.giveBack now item).sourceMonitor = item.sourceMonitor := by
  unfold giveBack
  split
  · exact resume_sourceMonitor ..
  · rfl

theorem giveBack_expires (decks : Decks) (now : Nat)
    (item : ActiveNotification) :
    (decks.giveBack now item).expiresUnixMs = item.expiresUnixMs := by
  unfold giveBack
  split
  · exact resume_expires ..
  · rfl

theorem le_giveBack (decks : Decks) (now : Nat) (item : ActiveNotification) :
    ∀ limit ∈ item.toastExpiresUnixMs, limit ≤ u64Max →
      ∃ longer ∈ (decks.giveBack now item).toastExpiresUnixMs,
        limit ≤ longer := by
  intro limit member fits
  unfold giveBack
  split
  · rename_i lease _
    rw [resume, if_pos rfl]
    exact ⟨saturatingAdd limit (now - max lease.1 item.updatedUnixMs),
      Option.mem_map_of_mem _ member, le_saturatingAdd fits⟩
  · exact ⟨limit, member, Nat.le_refl _⟩

theorem release_active (decks : Decks) (monitor : String) (now : Nat)
    (active : ExtTreeMap Nat ActiveNotification) (id : Nat) :
    (decks.setReading monitor false now active).2[id]? =
      active[id]?.map fun item =>
        if item.sourceMonitor = monitor then decks.giveBack now item
        else item := by
  simp only [setReading, Bool.false_eq_true, if_false]
  cases found : decks.leases[monitor]? with
  | none =>
      cases active[id]? with
      | none => rfl
      | some item =>
          by_cases here : item.sourceMonitor = monitor <;>
            simp [giveBack, here, found]
  | some lease =>
      simp only [ExtTreeMap.getElem?_map]
      cases active[id]? with
      | none => rfl
      | some item =>
          by_cases here : item.sourceMonitor = monitor
          · simp [giveBack, here, found]
          · simp [here, resume_of_ne here]

/-- A renewal keeps the time at which the lease started. -/
theorem renew_leases {decks : Decks} {monitor : String} {lease : Nat × Nat}
    (held : decks.leases[monitor]? = some lease) (now : Nat)
    (active : ExtTreeMap Nat ActiveNotification) :
    (decks.setReading monitor true now active).1.leases =
      decks.leases.insert monitor (lease.1, saturatingAdd now leaseMs) := by
  simp [setReading, held]

theorem releaseAll_active (monitors : List String) (now : Nat)
    (state : Decks × ExtTreeMap Nat ActiveNotification) (id : Nat) :
    (monitors.foldl (fun state monitor =>
        state.1.setReading monitor false now state.2) state).2[id]? =
      state.2[id]?.map fun item =>
        if item.sourceMonitor ∈ monitors then state.1.giveBack now item
        else item := by
  induction monitors generalizing state with
  | nil => simp
  | cons other monitors ih =>
      rw [List.foldl_cons, ih, release_active, Option.map_map]
      cases state.2[id]? with
      | none => rfl
      | some item =>
          simp only [Option.map_some, Function.comp_apply]
          by_cases here : item.sourceMonitor = other
          · have released : ((state.1.setReading other false now
                state.2).1.leases[other]?) = none := by
              rw [release_one, if_pos rfl]
            have again : (state.1.setReading other false now
                state.2).1.giveBack now (state.1.giveBack now item) =
                  state.1.giveBack now item := by
              rw [giveBack, giveBack_sourceMonitor, here, released]
            simp [here, giveBack_sourceMonitor, again]
          · have kept := release_one state.1 other item.sourceMonitor now
              state.2
            rw [if_neg here] at kept
            simp [here, giveBack, kept]

theorem mem_expiredMonitors {decks : Decks} {monitor : String} {now : Nat} :
    monitor ∈ decks.expiredMonitors now ↔
      (decks.leases[monitor]?).any (·.2 ≤ now) = true := by
  simp [expiredMonitors, ExtTreeMap.mem_toList_iff_getElem?_eq_some,
    Option.any_eq_true]

/-- The leases that are over at a time end together. -/
theorem expire_active (decks : Decks) (now : Nat)
    (active : ExtTreeMap Nat ActiveNotification) (id : Nat) :
    (decks.expire now active).2[id]? = active[id]?.map fun item =>
      if (decks.leases[item.sourceMonitor]?).any (·.2 ≤ now) then
        decks.giveBack now item
      else item := by
  rw [expire, releaseAll_active]
  congr 1
  funext item
  simp only [mem_expiredMonitors]

theorem reading_expire {decks : Decks} {monitor : String}
    {lease : Nat × Nat} {now : Nat}
    (held : decks.leases[monitor]? = some lease) (running : now < lease.2)
    (active : ExtTreeMap Nat ActiveNotification) :
    (decks.expire now active).1.reading monitor = true := by
  have kept := @release_leases now (decks.expiredMonitors now)
    (decks, active) monitor
  rw [if_neg (by simpa [mem_expiredMonitors, held] using running), held]
    at kept
  rw [reading, ExtTreeMap.contains_eq_isSome_getElem?, expire, kept,
    Option.isSome_some]

end Decks

/-- While its monitor is read the popup of a notification does not end. -/
theorem EngineData.advanceHeld_true (item : ActiveNotification) (now : Nat) :
    (advanceHeld true item now).1.toastExpiresUnixMs =
        item.toastExpiresUnixMs ∧
      (advanceHeld true item now).1.expiresUnixMs = item.expiresUnixMs := by
  refine ⟨rfl, ?_⟩
  simp only [advanceHeld, if_true, ActiveNotification.advance]
  split <;> rfl

/-! ## Runs -/

/-- An engine, and for the statements only from when the popup of each
notification is pending: the end of its snooze where its last update is one. -/
structure ReadingSession where
  engine : Engine
  wakes : Nat → Nat

namespace ReadingSession

/-- A snooze is seen in the record until the notification wakes. -/
def wakesAfter (before after : ExtTreeMap Nat ActiveNotification)
    (wakes : Nat → Nat) (id : Nat) : Nat :=
  match after[id]? with
  | none => 0
  | some item =>
      if before[id]?.any (fun old =>
          old.updatedUnixMs = item.updatedUnixMs) ∧
          item.snoozedUntilUnixMs = none then
        wakes id
      else item.snoozedUntilUnixMs.getD item.updatedUnixMs

def step (world : Surroundings) (session : ReadingSession)
    (request : Request) : ReadingSession :=
  let engine := session.engine.step world request
  ⟨engine, wakesAfter session.engine.data.active engine.data.active
    session.wakes⟩

def initial (engine : Engine) : ReadingSession :=
  ⟨engine, fun _ => 0⟩

/-- The milliseconds that a lease takes from the pending time of a popup. -/
def pendingMs (session : ReadingSession) (id : Nat)
    (item : ActiveNotification) (started ended : Nat) : Nat :=
  item.pendingMs (session.wakes id) started ended

/-- What the leases of a session do to the notifications of their monitors,
exactly where their pending time is counted. -/
structure Pauses (session : ReadingSession) : Prop where
  ended : ∀ (lease : Nat × Nat) (id : Nat) (item : ActiveNotification)
    (now : Nat),
    session.engine.data.decks.leases[item.sourceMonitor]? = some lease →
    session.engine.data.active[id]? = some item →
    ((session.engine.data.setReading item.sourceMonitor false
        now).active[id]? =
        some (item.paused (session.pendingMs id item lease.1 now)) ↔
      item.Counted (session.wakes id) lease.1 now)
  expired : ∀ (lease : Nat × Nat) (id : Nat) (item : ActiveNotification)
    (now : Nat),
    session.engine.data.decks.leases[item.sourceMonitor]? = some lease →
    session.engine.data.active[id]? = some item → lease.2 ≤ now →
    ((session.engine.data.decks.expire now
        session.engine.data.active).2[id]? =
        some (item.paused (session.pendingMs id item lease.1 now)) ↔
      item.Counted (session.wakes id) lease.1 now)
  /-- Until then the popup does not end, whether its snooze ends or not. -/
  held : ∀ (lease : Nat × Nat) (id : Nat) (item advanced : ActiveNotification)
    (now : Nat),
    session.engine.data.decks.leases[item.sourceMonitor]? = some lease →
    session.engine.data.active[id]? = some item → now < lease.2 →
    (session.engine.data.expire now).1.active[id]? = some advanced →
    advanced.toastExpiresUnixMs = item.toastExpiresUnixMs ∧
      advanced.expiresUnixMs = item.expiresUnixMs
  /-- The lease goes on from its start. -/
  renewed : ∀ (monitor : String) (now : Nat),
    (session.engine.data.setReading monitor true now).active =
        session.engine.data.active ∧
      ∀ lease, session.engine.data.decks.leases[monitor]? = some lease →
        (session.engine.data.setReading monitor true
          now).decks.leases[monitor]? =
            some (lease.1, saturatingAdd now leaseMs)
  /-- No deadline is shortened, and the other one is left alone. -/
  later : ∀ (monitor : String) (id : Nat) (item after : ActiveNotification)
    (now : Nat),
    session.engine.data.active[id]? = some item →
    (session.engine.data.setReading monitor false now).active[id]? =
      some after →
    after.expiresUnixMs = item.expiresUnixMs ∧
      ∀ limit ∈ item.toastExpiresUnixMs, limit ≤ u64Max →
        ∃ longer ∈ after.toastExpiresUnixMs, limit ≤ longer

/-- Reading pauses the popups of a session exactly where their pending time is
counted. -/
theorem reading_pauses (world : Surroundings) (start : Engine)
    (requests : List Request) :
    Pauses (run (step world) (initial start) requests) := by
  generalize run (step world) (initial start) requests = session
  constructor
  · intro lease id item now held found
    rw [← Decks.resume_eq_paused_iff]
    have released := Decks.release_active session.engine.data.decks
      item.sourceMonitor now session.engine.data.active id
    rw [found, Option.map_some, if_pos rfl, Decks.giveBack, held] at released
    exact (Eq.congr_left released).trans Option.some_inj
  · intro lease id item now held found passed
    rw [← Decks.resume_eq_paused_iff]
    have released := Decks.expire_active session.engine.data.decks now
      session.engine.data.active id
    rw [found, Option.map_some, held, if_pos (by simpa using passed),
      Decks.giveBack, held] at released
    exact (Eq.congr_left released).trans Option.some_inj
  · intro lease id item advanced now held found running after
    have kept := Decks.expire_active session.engine.data.decks now
      session.engine.data.active id
    rw [found, Option.map_some, held, if_neg (by simpa using running)]
      at kept
    rw [EngineData.expire_active, kept, Option.map_some,
      Decks.reading_expire held running] at after
    cases after
    exact EngineData.advanceHeld_true item now
  · refine fun monitor now => ⟨rfl, fun lease held => ?_⟩
    rw [EngineData.setReading, Decks.renew_leases held,
      ExtTreeMap.getElem?_insert_self]
  · intro monitor id item after now found changed
    have released := Decks.release_active session.engine.data.decks monitor
      now session.engine.data.active id
    rw [found, Option.map_some] at released
    cases Option.some.inj (changed.symm.trans released)
    split
    · exact ⟨Decks.giveBack_expires .., Decks.le_giveBack _ now item⟩
    · exact ⟨rfl, fun limit member _ => ⟨limit, member, Nat.le_refl _⟩⟩

/-- A message is snoozed for an hour, and its monitor is read meanwhile. -/
def snoozedWhileRead : List Request :=
  [.notify 0 .chat, .snooze 1 4600000, .setReading "A" true]

/-- The deadline is moved although the popup was never pending. -/
theorem snooze_prolonged :
    let world := Surroundings.calm fun _ => ⟨1000000, by decide⟩
    ∃ start, Starts world start ∧
      let session := run (step world) (initial start) snoozedWhileRead
      ∃ item after,
        session.engine.data.active[1]? = some item ∧
        session.engine.data.decks.leases[item.sourceMonitor]? =
          some (1000000, 1003000) ∧
        (session.engine.data.setReading item.sourceMonitor false
          1002000).active[1]? = some after ∧
        session.pendingMs 1 item 1000000 1002000 = 0 ∧
        after.toastExpiresUnixMs = item.toastExpiresUnixMs.map (· + 2000) ∧
        item.toastExpiresUnixMs = some 4605000 := by
  intro world
  obtain ⟨start, starts, passes⟩ := exists_starts world .empty
    (fun start =>
      let session := run (step world) (initial start) snoozedWhileRead
      session.engine.data.active[1]?.any fun item =>
        session.engine.data.decks.leases[item.sourceMonitor]? ==
            some (1000000, 1003000) &&
          decide (1002000 ≤ session.wakes 1) &&
          ((session.engine.data.setReading item.sourceMonitor false
            1002000).active[1]?.map
              ActiveNotification.toastExpiresUnixMs ==
            some (item.toastExpiresUnixMs.map (· + 2000))) &&
          item.toastExpiresUnixMs == some 4605000)
    (by decide +kernel)
  obtain ⟨item, found, passes⟩ := (Option.any_eq_true _ _).mp passes
  simp only [Bool.and_eq_true, beq_iff_eq, decide_eq_true_eq] at passes
  obtain ⟨⟨⟨held, asleep⟩, moved⟩, toast⟩ := passes
  obtain ⟨after, changed, longer⟩ := Option.map_eq_some_iff.mp moved
  refine ⟨start, starts, item, after, found, held, changed, ?_, longer, toast⟩
  rw [pendingMs, ActiveNotification.pendingMs_eq]
  omega

end ReadingSession

end BarDaemon.Notifications
