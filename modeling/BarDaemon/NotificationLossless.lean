import BarDaemon.NotificationOwnership

/-!
# Lossless storing

A notification that has been saved is read back as it was, as long as its
session saves no other one: its preview for every query, and its record but
for the fields of the toast.
-/

namespace BarDaemon.Notifications

open RelationalRows Std

variable {lookups : Lookups} {icons : IconRegistry}

namespace NotificationDatabase

/-- What a database shows of the notification under a key. -/
structure ReadsBack (lookups : Lookups) (database : NotificationDatabase)
    (id : Nat) (icons : IconRegistry) (item : ActiveNotification)
    (closed : Option (Nat × Nat)) : Prop where
  /-- The icon is the one that was known when the notification was saved. -/
  candidates : ∀ query, ∃ previews, database.candidates query = .ok previews ∧
    (id ∈ database.tables.newest →
      { Preview.fromActive lookups icons item query with
        historyId := some id
        closedUnixMs := closed.map Prod.fst } ∈ previews) ∧
    ∀ preview ∈ previews, preview.historyId = some id →
      preview = { Preview.fromActive lookups icons item query with
        historyId := some id
        closedUnixMs := closed.map Prod.fst }
  records : ∀ ids found, database.records ids = .ok found →
    ∀ record ∈ found, record.historyId = id →
      record = ⟨id, item.stored, closed.map Prod.fst, closed.map Prod.snd⟩
  /-- Only the size of the record that is read can be refused. -/
  own : database.records [id] =
    if item.stored.toJson.size ≤ History.pageBytes then
      .ok [⟨id, item.stored, closed.map Prod.fst, closed.map Prod.snd⟩]
    else .error History.byteLimitError

variable {database : NotificationDatabase}

theorem readsBack {archive : Archive} {id : Nat} {kept : KeptNotification}
    (represents : Represents lookups archive database.tables)
    (running : database.blocked = false) (stored : archive id = some kept) :
    ReadsBack lookups database id kept.icons kept.item kept.closed where
  candidates := by
    intro query
    unfold NotificationDatabase.candidates
    rw [running, represents.readCandidates]
    refine ⟨_, rfl, ?_, ?_⟩
    · intro recent
      apply List.mem_filterMap.mpr
      exact ⟨id, recent, congrArg _ stored⟩
    · intro preview member same
      obtain ⟨other, -, shown⟩ := List.mem_filterMap.mp member
      obtain ⟨found, present, rfl⟩ := Option.map_eq_some_iff.mp shown
      cases same
      rw [stored] at present
      cases present
      rfl
  records := by
    intro ids found read record member same
    unfold NotificationDatabase.records at read
    rw [running] at read
    obtain ⟨other, present, shown⟩ := represents.records_ok read record member
    rw [same] at present shown
    rw [stored] at present
    cases present
    exact shown
  own := by
    unfold NotificationDatabase.records
    rw [running]
    exact represents.records_singleton stored

theorem perform_save (treatment : Treatment) (item : ActiveNotification) :
    database.perform lookups icons treatment (.save item) =
      database.transact treatment (saveInner lookups icons item) :=
  rfl

/-- A save that has succeeded has left an archive with the notification. -/
theorem Sound.save (sound : Sound lookups none database)
    {treatment : Treatment} {item : ActiveNotification}
    (lasting : item.hints.transient = false)
    (saved : (database.perform lookups icons treatment (.save item)).1 =
      .ok ()) :
    (database.perform lookups icons treatment (.save item)).2.blocked =
        false ∧
      ∃ id archive,
        Represents lookups archive (database.perform lookups icons treatment
          (.save item)).2.durable ∧
        id ≤ (database.perform lookups icons treatment
          (.save item)).2.durable.sequence ∧
        archive id = some ⟨icons, item, none⟩ := by
  rw [perform_save] at saved ⊢
  have ends := transact_cases database treatment
    (saveInner lookups icons item)
  generalize database.transact treatment (saveInner lookups icons item) =
    outcome at ends saved ⊢
  cases ends with
  | refused error => cases saved
  | fenced => cases saved
  | rolledBack => cases saved
  | committed value connection running ran =>
      rw [sound.idle.tables running] at ran
      obtain ⟨archive, represents, -⟩ := sound.durable
      refine ⟨running, ?_⟩
      obtain ⟨transient, -⟩ | ⟨-, id, row, wrote, tables⟩ := saveInner_ok ran
      · rw [lasting] at transient
        cases transient
      · refine ⟨id, archive.store id ⟨icons, item, none⟩, ?_, ?_,
          Archive.store_self ..⟩
        · rw [tables]
          exact (represents.remember item.id).save wrote
        · rw [tables]
          exact Nat.le_max_right ..

/-- A notification that is kept is read back after a successful save and any
operations that save nothing for its session. -/
theorem stored_is_read_back (lookups : Lookups)
    (before later : List StoreRequest) (icons : IconRegistry)
    (treatment : Treatment) (item : ActiveNotification)
    (lasting : item.hints.transient = false)
    (saved : ((run lookups before).perform lookups icons treatment
      (.save item)).1 = .ok ())
    (spared : ∀ request ∈ later, ∀ other ∈ request.operation.saved,
      other.id ≠ item.id) :
    ∃ id,
      ((run lookups (before ++ [⟨icons, treatment, .save item⟩])).blocked =
          false ∧
        id ∈ (run lookups
          (before ++ [⟨icons, treatment, .save item⟩])).tables.notifications ∧
        ReadsBack lookups
          (run lookups (before ++ [⟨icons, treatment, .save item⟩])) id icons
          item none) ∧
      ∀ database, database = run lookups
          (before ++ ⟨icons, treatment, .save item⟩ :: later) →
        database.blocked = false → id ∈ database.tables.notifications →
        ∃ closed, ReadsBack lookups database id icons item closed := by
  have sound := sound_run lookups before
  obtain ⟨running, id, archive, represents, below, stored⟩ :=
    sound.save lasting saved
  have first : run lookups (before ++ [⟨icons, treatment, .save item⟩]) =
      ((run lookups before).perform lookups icons treatment
        (.save item)).2 :=
    List.foldl_append ..
  have next : run lookups (before ++ ⟨icons, treatment, .save item⟩ :: later) =
      later.foldl (step lookups) ((run lookups before).perform lookups icons
        treatment (.save item)).2 :=
    List.foldl_append ..
  have idle : Idle ((run lookups before).perform lookups icons treatment
      (.save item)).2 :=
    first ▸ (sound_run lookups _).idle
  refine ⟨id, ?_, ?_⟩
  · rw [first]
    have tables := idle.tables running
    rw [← tables] at represents
    refine ⟨running, (represents.mem_iff id).mpr ?_,
      readsBack represents running stored⟩
    rw [stored]
    rfl
  · intro database same open_ listed
    have watched : Sound lookups (some ⟨id, icons, item⟩) database := by
      rw [same, next]
      apply Sound.steps ⟨⟨archive, represents, ?_⟩, idle⟩
      · intro request member other saves watch own
        cases own
        exact spared request member other saves
      · intro watch own
        cases own
        refine ⟨below, ?_⟩
        intro kept found
        rw [stored] at found
        cases found
        exact ⟨rfl, rfl⟩
    obtain ⟨last, shows, owns⟩ := watched.durable
    have tables := watched.idle.tables open_
    rw [← tables] at shows
    obtain ⟨kept, found⟩ := Option.isSome_iff_exists.mp
      ((shows.mem_iff id).mp listed)
    obtain ⟨rfl, rfl⟩ := (owns _ rfl).2 kept found
    exact ⟨kept.closed, readsBack shows open_ found⟩

/-- A transaction that the engine does not disturb. -/
def undisturbed : Treatment :=
  ⟨none, [], none, false, none, none⟩

def plainLookups : Lookups where
  contextActions := fun _ _ => []
  toLowercase := id
  validRunId := fun _ => false

/-- A notification for which no icon is known. -/
def iconless : ActiveNotification where
  id := 1
  identityIcon := ""
  contextActions := []
  interactionBlocked := false
  appName := "Mail"
  appIcon := ""
  summary := "New message"
  body := ""
  actions := []
  hints := {
    urgency := 1
    category := ""
    desktopEntry := "mail"
    imagePath := ""
    soundName := ""
    soundFile := ""
    resident := false
    suppressSound := false
    imageDataPresent := false
    transient := false }
  createdUnixMs := 5
  updatedUnixMs := 5
  expiresUnixMs := none
  toastVisible := true
  dndBypass := false
  toastExpiresUnixMs := none
  groupKey := "mail"
  sourceMonitor := ""
  snoozedUntilUnixMs := none

/-- The same with an action of its own and one of its context. -/
def answerable : ActiveNotification :=
  { iconless with
    actions := [⟨"reply", "Reply"⟩]
    contextActions := [⟨"open", "Open", "mail"⟩] }

/-- The icons are found late, and the notification is closed. -/
def closing : List StoreRequest :=
  [⟨fun _ _ => "mail.png", undisturbed, .close 1 9 2⟩]

theorem saved_iconless :
    ((run plainLookups []).perform plainLookups (fun _ _ => "") undisturbed
      (.save iconless)).1 = .ok () := by
  decide +kernel

theorem iconless_is_read_back :
    ∃ id closed, ReadsBack plainLookups (run plainLookups
      ([] ++ ⟨fun _ _ => "", undisturbed, .save answerable⟩ :: closing)) id
        (fun _ _ => "") answerable closed := by
  obtain ⟨id, ⟨-, listed, -⟩, lasts⟩ := stored_is_read_back plainLookups []
    closing (fun _ _ => "") undisturbed answerable rfl (by decide +kernel)
    (by decide +kernel)
  have only : (run plainLookups ([] ++ [⟨fun _ _ => "", undisturbed,
      .save answerable⟩])).tables.notifications.keys = [1] := by
    decide +kernel
  rw [← ExtTreeMap.mem_keys, only, List.mem_singleton] at listed
  subst listed
  exact ⟨1, lasts _ rfl (by decide +kernel) (by decide +kernel)⟩

/-- An icon that is found after the save is not in the preview. -/
theorem preview_keeps_old_icon :
    ¬ ∀ (lookups : Lookups) (icons later : IconRegistry)
      (treatment : Treatment) (item : ActiveNotification) (query : String)
      (previews : List Preview), item.hints.transient = false →
      ((run lookups []).perform lookups icons treatment (.save item)).1 =
        .ok () →
      (run lookups [⟨icons, treatment, .save item⟩]).candidates query =
        .ok previews →
      ∀ preview ∈ previews, preview.id = item.id →
        { preview with historyId := none } =
          Preview.fromActive lookups later item query := by
  intro claim
  have shown : (run plainLookups
      [⟨fun _ _ => "", undisturbed, .save iconless⟩]).candidates "" =
      .ok [{ Preview.fromActive plainLookups (fun _ _ => "") iconless "" with
        historyId := some 1 }] := by
    decide +kernel
  have same := claim plainLookups (fun _ _ => "") (fun _ _ => "mail.png")
    undisturbed iconless "" _ rfl saved_iconless shown _
    (List.mem_cons_self ..) rfl
  exact absurd (congrArg Preview.identityIcon same) (by decide +kernel)

end NotificationDatabase

end BarDaemon.Notifications
