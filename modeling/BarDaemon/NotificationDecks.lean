import Mathlib.Data.List.Sort
import BarDaemon.NotificationModel

/-!
# Toast decks and reading leases

Toast ordering is owned by the daemon.  A reading lease freezes every deck of
its monitor; the other monitors show the newest records of their most recent
applications.
-/

namespace BarDaemon.Notifications

open Std

structure ToastDeck where
  monitor : String
  key : String
  records : List ActiveNotification
  deriving DecidableEq, Repr

def leaseMs : Nat := 3000

/-- A lease is the time it started and its deadline. -/
structure Decks where
  leases : ExtTreeMap String (Nat × Nat) := ∅
  published : List ToastDeck := []

namespace Decks

def reading (decks : Decks) (monitor : String) : Bool :=
  decks.leases.contains monitor

def deadline (decks : Decks) : Option Nat :=
  (decks.leases.values.map Prod.snd).min?

/-- Give back the popup time that passed while the lease was held. -/
def resume (monitor : String) (started now : Nat)
    (item : ActiveNotification) : ActiveNotification :=
  if item.sourceMonitor = monitor then
    { item with toastExpiresUnixMs := item.toastExpiresUnixMs.map fun limit =>
        saturatingAdd limit (now - max started item.updatedUnixMs) }
  else
    item

def setReading (decks : Decks) (monitor : String) (reading : Bool)
    (now : Nat) (active : ExtTreeMap Nat ActiveNotification) :
    Decks × ExtTreeMap Nat ActiveNotification :=
  if reading then
    let started := (decks.leases[monitor]?.getD (now, now)).1
    ({ decks with leases :=
        decks.leases.insert monitor (started, saturatingAdd now leaseMs) },
      active)
  else
    match decks.leases[monitor]? with
    | some (started, _) =>
        ({ decks with leases := decks.leases.erase monitor },
          active.map fun _ item => resume monitor started now item)
    | none => (decks, active)

/-- Monitors whose lease is over, in the order of the lease table. -/
def expiredMonitors (decks : Decks) (now : Nat) : List String :=
  (decks.leases.toList.filter fun lease => lease.2.2 ≤ now).map Prod.fst

def expire (decks : Decks) (now : Nat)
    (active : ExtTreeMap Nat ActiveNotification) :
    Decks × ExtTreeMap Nat ActiveNotification :=
  (decks.expiredMonitors now).foldl
    (fun state monitor => state.1.setReading monitor false now state.2)
    (decks, active)

/-! ## Projection -/

def eligible (dnd : Bool) (item : ActiveNotification) : Bool :=
  item.toastVisible && (!dnd || item.dndBypass)

/-- The current record of a card that stays on its deck. -/
def currentOf (records : List ActiveNotification) (dnd : Bool)
    (monitor : String) (old : ActiveNotification) :
    Option ActiveNotification :=
  (records.filter (eligible dnd)).find? fun item =>
    item.id == old.id && item.sourceMonitor == monitor &&
      item.createdUnixMs == old.createdUnixMs

/-- A replacement is an arrival, not an acknowledged dismissal: it leaves the
old card in place, inert. -/
def refreshCard (records : List ActiveNotification) (dnd : Bool)
    (monitor : String) (old : ActiveNotification) :
    Option ActiveNotification :=
  (currentOf records dnd monitor old).map fun current =>
    if current.updatedUnixMs = old.updatedUnixMs then current
    else { old with interactionBlocked := true }

def refreshDeck (records : List ActiveNotification) (dnd : Bool)
    (deck : ToastDeck) : Option ToastDeck :=
  let kept := deck.records.filterMap (refreshCard records dnd deck.monitor)
  if kept.isEmpty then none else some { deck with records := kept }

/-- Newest first. -/
def newerOrEqual (first second : ActiveNotification) : Prop :=
  second.createdUnixMs < first.createdUnixMs ∨
    second.createdUnixMs = first.createdUnixMs ∧ second.id ≤ first.id

instance : DecidableRel newerOrEqual := fun _ _ =>
  inferInstanceAs (Decidable (_ ∨ _))

/-- Push onto the first deck of the monitor and key. -/
def pushCard (item : ActiveNotification) :
    List ToastDeck → Option (List ToastDeck)
  | [] => none
  | deck :: decks =>
      if deck.monitor = item.sourceMonitor ∧ deck.key = item.appKey then
        some ({ deck with records := deck.records ++ [item] } :: decks)
      else
        (pushCard item decks).map (deck :: ·)

def placeCard (next : List ToastDeck) (item : ActiveNotification) :
    List ToastDeck :=
  match pushCard item next with
  | some pushed => pushed
  | none =>
      if (next.filter fun deck =>
          deck.monitor = item.sourceMonitor).length < 3 then
        next ++ [⟨item.sourceMonitor, item.appKey, [item]⟩]
      else
        next

/-- Decks that a reading lease freezes. -/
def frozen (decks : Decks) (records : List ActiveNotification) (dnd : Bool) :
    List ToastDeck :=
  (decks.published.filter fun deck => decks.reading deck.monitor).filterMap
    (refreshDeck records dnd)

/-- Eligible records of monitors that are not being read, newest first. -/
def ordered (decks : Decks) (records : List ActiveNotification) (dnd : Bool) :
    List ActiveNotification :=
  ((records.filter (eligible dnd)).filter fun item =>
    !decks.reading item.sourceMonitor).insertionSort newerOrEqual

def project (decks : Decks) (records : List ActiveNotification)
    (dnd : Bool) : List ToastDeck × Decks :=
  let next := (decks.ordered records dnd).foldl placeCard
    (decks.frozen records dnd)
  (next, { decks with published := next })

end Decks

end BarDaemon.Notifications
