import Std.Data.ExtTreeMap.Lemmas
import BarDaemon.CompactJson
import BarDaemon.MachineIntegers
import BarDaemon.UnicodeText

/-!
# Notifications and their deadlines

The record types of the notification engine, the three deadlines of an active
notification, and the policies that decide whether its popup may be shown.

An identifier is a nonzero `u32`, timestamps and counters are `u64`.  What the
source looks up outside the message (the desktop icon registry, the targets
that the regular expressions and the URL parser find in a text, Unicode case
mapping) is a parameter.
-/

namespace BarDaemon.Notifications

open CompactJson

structure NotificationAction where
  key : String
  label : String
  deriving DecidableEq, Repr

structure NotificationHints where
  urgency : Nat := 0
  category : String := ""
  desktopEntry : String := ""
  imagePath : String := ""
  soundName : String := ""
  soundFile : String := ""
  resident : Bool := false
  transient : Bool := false
  suppressSound : Bool := false
  imageDataPresent : Bool := false
  deriving DecidableEq, Repr

structure IncomingNotification where
  appName : String
  appIcon : String
  summary : String
  body : String
  actions : List NotificationAction
  hints : NotificationHints
  expireTimeout : Int
  deriving DecidableEq, Repr

structure ContextAction where
  key : String
  label : String
  icon : String
  deriving DecidableEq, Repr

structure ActiveNotification where
  id : Nat
  identityIcon : String
  contextActions : List ContextAction
  /-- Frozen reading placeholder for a replaced card; never actionable. -/
  interactionBlocked : Bool
  appName : String
  appIcon : String
  summary : String
  body : String
  actions : List NotificationAction
  hints : NotificationHints
  createdUnixMs : Nat
  updatedUnixMs : Nat
  /-- Protocol lifetime; absent keeps the notification in the center. -/
  expiresUnixMs : Option Nat
  toastVisible : Bool
  dndBypass : Bool
  toastExpiresUnixMs : Option Nat
  groupKey : String
  sourceMonitor : String
  snoozedUntilUnixMs : Option Nat
  deriving DecidableEq, Repr

/-- Lookups of `from_incoming` and `search_text` outside the message. -/
structure Lookups where
  /-- `context_actions::extract` followed by `Target::descriptor`. -/
  contextActions : String → String → List ContextAction
  /-- `str::to_lowercase`. -/
  toLowercase : String → String
  /-- `shelllist_update_status::valid_run_id`. -/
  validRunId : String → Bool

/-- The desktop icon registry at one moment: `desktop_identity::icon`. -/
abbrev IconRegistry := String → String → String

/-! ## JSON shapes -/

def NotificationAction.toJson (action : NotificationAction) : Json :=
  .obj [("key", .str action.key), ("label", .str action.label)]

def ContextAction.toJson (action : ContextAction) : Json :=
  .obj [("key", .str action.key), ("label", .str action.label),
    ("icon", .str action.icon)]

def NotificationHints.toJson (hints : NotificationHints) : Json :=
  .obj [("urgency", .nat hints.urgency), ("category", .str hints.category),
    ("desktop_entry", .str hints.desktopEntry),
    ("image_path", .str hints.imagePath),
    ("sound_name", .str hints.soundName),
    ("sound_file", .str hints.soundFile),
    ("resident", .bool hints.resident),
    ("transient", .bool hints.transient),
    ("suppress_sound", .bool hints.suppressSound),
    ("image_data_present", .bool hints.imageDataPresent)]

def IncomingNotification.toJson (incoming : IncomingNotification) : Json :=
  .obj [("app_name", .str incoming.appName),
    ("app_icon", .str incoming.appIcon), ("summary", .str incoming.summary),
    ("body", .str incoming.body),
    ("actions", .arr (incoming.actions.map NotificationAction.toJson)),
    ("hints", incoming.hints.toJson),
    ("expire_timeout", .int incoming.expireTimeout)]

def ActiveNotification.toJson (item : ActiveNotification) : Json :=
  .obj ([("id", .nat item.id), ("identity_icon", .str item.identityIcon)] ++
    (if item.contextActions.isEmpty then [] else
      [("context_actions",
        .arr (item.contextActions.map ContextAction.toJson))]) ++
    (if item.interactionBlocked then
      [("interaction_blocked", .bool true)] else []) ++
    [("app_name", .str item.appName), ("app_icon", .str item.appIcon),
      ("summary", .str item.summary), ("body", .str item.body),
      ("actions", .arr (item.actions.map NotificationAction.toJson)),
      ("hints", item.hints.toJson),
      ("created_unix_ms", .nat item.createdUnixMs),
      ("updated_unix_ms", .nat item.updatedUnixMs),
      ("expires_unix_ms", Json.ofOption .nat item.expiresUnixMs),
      ("toast_visible", .bool item.toastVisible),
      ("dnd_bypass", .bool item.dndBypass),
      ("toast_expires_unix_ms", Json.ofOption .nat item.toastExpiresUnixMs),
      ("group_key", .str item.groupKey),
      ("source_monitor", .str item.sourceMonitor),
      ("snoozed_until_unix_ms",
        Json.ofOption .nat item.snoozedUntilUnixMs)])

/-! ## One-shot deadlines -/

/-- Consume a due deadline.  Returns what remains and whether it was due. -/
def takeDue (deadline : Option Nat) (now : Nat) : Option Nat × Bool :=
  match deadline with
  | some limit => if limit ≤ now then (none, true) else (some limit, false)
  | none => (none, false)

/-- Consume a due deadline and clear the flag that it limits. -/
def expireFlag (enabled : Bool) (deadline : Option Nat) (now : Nat) :
    Bool × Option Nat × Bool :=
  let (remaining, expired) := takeDue deadline now
  (enabled && !expired, remaining, expired)

theorem takeDue_eq_self {deadline : Option Nat} {now : Nat}
    (future : ∀ limit ∈ deadline, now < limit) :
    takeDue deadline now = (deadline, false) := by
  cases deadline with
  | none => rfl
  | some limit =>
      have later : now < limit := future limit rfl
      simp [takeDue, Nat.not_le.mpr later]

theorem lt_of_mem_takeDue {deadline : Option Nat} {now limit : Nat}
    (remains : limit ∈ (takeDue deadline now).1) : now < limit := by
  cases deadline with
  | none => simp [takeDue] at remains
  | some other =>
      by_cases due : other ≤ now
      · simp [takeDue, due] at remains
      · simp only [takeDue, due, if_false, Option.mem_def,
          Option.some.injEq] at remains
        omega

theorem takeDue_isSome_of_not_due {deadline : Option Nat} {now : Nat}
    (notDue : (takeDue deadline now).2 = false) :
    (takeDue deadline now).1 = deadline := by
  cases deadline with
  | none => rfl
  | some limit =>
      by_cases due : limit ≤ now
      · simp [takeDue, due] at notDue
      · simp [takeDue, due]

/-! ## Grouping -/

namespace Identity

/-- Artwork is not sender identity; unnamed senders remain distinct. -/
def appKey (desktop name : String) (id created : Nat) : String :=
  if 1024 < byteLength desktop then
    s!"unknown:{created}:{id}"
  else if trim desktop ≠ "" then
    s!"desktop:{trim desktop}"
  else if 1024 < byteLength name ∨ trim name = "" then
    s!"unknown:{created}:{id}"
  else
    s!"named:{trim name}"

end Identity

namespace ActiveNotification

def nextDeadline (item : ActiveNotification) : Option Nat :=
  item.snoozedUntilUnixMs.or
    (match item.expiresUnixMs, item.toastExpiresUnixMs with
      | some expires, some toast => some (min expires toast)
      | some expires, none => some expires
      | none, toast => toast)

/-- Advance to `now`; the flags say whether the notification woke and whether
its protocol lifetime is over.  Both can happen together; a future snooze
defers both protocol and popup expiry. -/
def advance (item : ActiveNotification) (now : Nat) :
    ActiveNotification × Bool × Bool :=
  let (snoozed, woke) := takeDue item.snoozedUntilUnixMs now
  let item := { item with snoozedUntilUnixMs := snoozed }
  if item.snoozedUntilUnixMs.isSome then
    (item, false, false)
  else
    let (toast, hidden) := takeDue item.toastExpiresUnixMs now
    let item := { item with
      toastExpiresUnixMs := toast
      toastVisible := item.toastVisible && !hidden }
    (item, woke, item.expiresUnixMs.any fun limit => limit ≤ now)

def appKey (item : ActiveNotification) : String :=
  Identity.appKey item.hints.desktopEntry item.appName item.id
    item.createdUnixMs

/-- Popup lifetime requested by a client; absent when it has no end. -/
def effectiveTimeoutMs (requested : Int) (urgency : Nat) : Option Nat :=
  if requested = 0 then none
  else if 0 < requested then some requested.toNat
  else if 2 ≤ urgency then none
  else some 5000

variable (lookups : Lookups) (icons : IconRegistry)

def fromIncoming (id : Nat) (incoming : IncomingNotification) (now : Nat) :
    ActiveNotification :=
  let toastTimeout :=
    effectiveTimeoutMs incoming.expireTimeout incoming.hints.urgency
  -- Default, non-transient notifications persist in the center.
  let timeout :=
    if incoming.expireTimeout < 0 ∧ incoming.hints.transient = false then none
    else toastTimeout
  { id := id
    identityIcon := icons incoming.hints.desktopEntry incoming.appName
    contextActions := lookups.contextActions incoming.summary incoming.body
    interactionBlocked := false
    appName := incoming.appName
    appIcon := incoming.appIcon
    summary := incoming.summary
    body := incoming.body
    actions := incoming.actions
    hints := incoming.hints
    createdUnixMs := now
    updatedUnixMs := now
    expiresUnixMs := timeout.map (saturatingAdd now)
    toastVisible := true
    dndBypass := false
    toastExpiresUnixMs := toastTimeout.map (saturatingAdd now)
    groupKey :=
      if incoming.hints.desktopEntry ≠ "" then incoming.hints.desktopEntry
      else if incoming.appName ≠ "" then incoming.appName
      else "unknown"
    sourceMonitor := ""
    snoozedUntilUnixMs := none }

/-- New content under the same identifier.  The update time is also a version:
two replacements in one clock tick stay distinguishable. -/
def replaceFrom (item : ActiveNotification) (incoming : IncomingNotification)
    (now : Nat) : ActiveNotification :=
  let updated := max now (saturatingAdd item.updatedUnixMs 1)
  { fromIncoming lookups icons item.id incoming updated with
    createdUnixMs := item.createdUnixMs
    sourceMonitor := item.sourceMonitor }

end ActiveNotification

inductive NotificationSignal
  | closed (id reason : Nat)
  | actionInvoked (id : Nat) (actionKey : String)
  | activationToken (id : Nat) (token : String)
  | replied (id : Nat) (text : String)
  deriving DecidableEq, Repr

namespace CloseReason

def expired : Nat := 1
def dismissed : Nat := 2
def closedByCall : Nat := 3
def undefined : Nat := 4

end CloseReason

/-! ## Policies -/

structure AppPolicy where
  silent : Bool := false
  untilUnixMs : Option Nat := none
  groupSimilar : Bool := true
  bypassDnd : Bool := false
  deriving DecidableEq, Repr

namespace AppPolicy

/-- Returns the policy after `now` and whether its quiet period ended. -/
def expire (policy : AppPolicy) (now : Nat) : AppPolicy × Bool :=
  let (silent, remaining, expired) :=
    expireFlag policy.silent policy.untilUnixMs now
  ({ policy with silent := silent, untilUnixMs := remaining }, expired)

def silenced (policy : AppPolicy) (now : Nat) : Bool :=
  policy.silent && policy.untilUnixMs.all fun limit => now < limit

/-- The source reads the clock once for each comparison. -/
def validate (policy : AppPolicy) (first second : Nat) : Except String Unit :=
  if policy.untilUnixMs.any fun limit =>
      limit ≤ first || saturatingAdd second (7 * 86400000) < limit then
    .error "quiet period must end within the next seven days"
  else
    .ok ()

end AppPolicy

structure NotificationPolicy where
  maximumActive : Nat := 200
  maximumSummaryBytes : Nat := 4 * 1024
  maximumBodyBytes : Nat := 64 * 1024
  maximumActions : Nat := 64

namespace NotificationPolicy

def nameBytes : Nat := 1024
def pathBytes : Nat := 4096
def categoryBytes : Nat := 256
def payloadBytes : Nat := 128 * 1024

def boundedText (field value : String) (maximum : Nat) : Except String Unit :=
  if maximum < byteLength value then
    .error s!"notification {field} exceeds {maximum}-byte size limit"
  else
    .ok ()

def boundedActions : List NotificationAction → Except String Unit
  | [] => .ok ()
  | action :: actions => do
      boundedText "action key" action.key nameBytes
      boundedText "action label" action.label pathBytes
      boundedActions actions

def validate (policy : NotificationPolicy)
    (notification : IncomingNotification) : Except String Unit := do
  if policy.maximumSummaryBytes < byteLength notification.summary then
    throw "notification summary exceeds configured size limit"
  if policy.maximumBodyBytes < byteLength notification.body then
    throw "notification body exceeds configured size limit"
  if policy.maximumActions < notification.actions.length then
    throw "notification has too many actions"
  boundedText "app_name" notification.appName nameBytes
  boundedText "app_icon" notification.appIcon pathBytes
  boundedText "category" notification.hints.category categoryBytes
  boundedText "desktop_entry" notification.hints.desktopEntry nameBytes
  boundedText "image_path" notification.hints.imagePath pathBytes
  boundedText "sound_name" notification.hints.soundName nameBytes
  boundedText "sound_file" notification.hints.soundFile pathBytes
  boundedActions notification.actions
  if notification.actions.any fun action => action.key == "" then
    throw "notification action key cannot be empty"
  if payloadBytes < notification.toJson.size then
    throw s!"notification exceeds total {payloadBytes}-byte payload limit"

end NotificationPolicy

structure Settings where
  countdown : Bool := true
  /-- Zero means no automatic clearing. -/
  codeExpirySeconds : Nat := 0
  historyDays : Nat := 30
  deriving DecidableEq, Repr

structure SettingsPatch where
  countdown : Option Bool := none
  codeExpirySeconds : Option Nat := none
  historyDays : Option Nat := none
  deriving DecidableEq, Repr

namespace Settings

def validate (settings : Settings) : Except String Unit := do
  if ¬ (1 ≤ settings.historyDays ∧ settings.historyDays ≤ 30) then
    throw "History retention must be 1–30 days"
  if ¬ (settings.codeExpirySeconds = 0 ∨
      (10 ≤ settings.codeExpirySeconds ∧
        settings.codeExpirySeconds ≤ 300)) then
    throw "Code expiry must be Never or 10–300 seconds"

def patched (settings : Settings) (patch : SettingsPatch) :
    Except String Settings := do
  let next : Settings := {
    countdown := patch.countdown.getD settings.countdown
    codeExpirySeconds :=
      patch.codeExpirySeconds.getD settings.codeExpirySeconds
    historyDays := patch.historyDays.getD settings.historyDays }
  next.validate
  return next

end Settings

/-- Presentation privacy while the screen is shared. -/
structure Sharing where
  available : Bool := false
  active : Bool := false
  prompt : Bool := false
  generation : Nat := 0
  untilUnixMs : Option Nat := none
  untilSharingEnds : Bool := false
  deriving DecidableEq, Repr

namespace Sharing

def suppressed (sharing : Sharing) (now : Nat) : Bool :=
  sharing.prompt || (sharing.active && sharing.untilSharingEnds) ||
    sharing.untilUnixMs.any fun limit => now < limit

/-- An unknown observation never means that a share ended. -/
def observe (sharing : Sharing) (observed : Option Bool) : Sharing :=
  let sharing := { sharing with available := observed.isSome }
  match observed with
  | none => sharing
  | some active =>
      let sharing :=
        if active && !sharing.active then
          { sharing with
            generation := wrappingAdd sharing.generation 1
            prompt := true
            untilSharingEnds := true }
        else if !active then
          { sharing with prompt := false, untilSharingEnds := false }
        else
          sharing
      { sharing with active := active }

def snooze (sharing : Sharing) (generation minutes now : Nat) :
    Except String Sharing :=
  if ¬ (sharing.active = true ∧ sharing.generation = generation) then
    .error "Screen-sharing session changed"
  else if minutes ≠ 0 ∧ minutes ≠ 15 ∧ minutes ≠ 60 then
    .error "Choose 15 minutes, 1 hour or until sharing ends"
  else
    .ok { sharing with
      prompt := false
      untilSharingEnds := minutes == 0
      untilUnixMs :=
        if 0 < minutes then some (saturatingAdd now (minutes * 60000))
        else none }

def expire (sharing : Sharing) (now : Nat) : Sharing :=
  { sharing with untilUnixMs := (takeDue sharing.untilUnixMs now).1 }

end Sharing

end BarDaemon.Notifications
