import BarDaemon.KeyedStacks
import BarDaemon.NaiveDates
import BarDaemon.NotificationRows

/-!
# The notification timeline

Previews in date buckets, of which one is shown in windows of bounded stacks
of repeated notifications.
-/

namespace BarDaemon.Notifications.Timelines

open Std

/-! ## Dates -/

section Dates

-- The local date of an instant, in the time zone of the system.
variable (zone : Nat → Option NaiveDate)

def localDate (created : Nat) : Option NaiveDate :=
  zone (min created i64Max)

def date (created : Nat) : String :=
  ((localDate zone created).map NaiveDate.text).getD ""

/-- `PERIODS` -/
def periods : List String :=
  ["today", "week", "month", "older"]

def period (created : Nat) (today : NaiveDate) : String :=
  match localDate zone created with
  | none => "older"
  | some day =>
      let week := (today.subDays? today.daysFromMonday).getD today
      if !day.before today then "today"
      else if !day.before week then "week"
      else if day.year = today.year ∧ day.month = today.month then "month"
      else "older"

end Dates

/-! ## Entries -/

def window : Nat := 20
def stackLimit : Nat := 50

structure DateBucket where
  key : String
  count : Nat
deriving DecidableEq, Repr

structure TimelineEntry where
  key : String
  preview : Preview
  members : List Position
deriving DecidableEq, Repr

/-- The fields of a query that a timeline reads. -/
structure CenterQuery where
  query : String
  offset : Nat
  appKey : Option String
  date : Option String
  periodGroups : Bool
  periodDay : Option String
  timelineAnchor : Option String
  groupSimilar : Bool
deriving DecidableEq, Repr

structure Timeline where
  epoch : String
  revision : String
  query : String
  appKey : String
  dates : List DateBucket
  periodDay : String
  recent : Option (List Preview)
  date : String
  count : Nat
  totalRows : Nat
  offset : Nat
  nextOffset : Option Nat
  anchorReached : Bool
  entries : List TimelineEntry
deriving DecidableEq, Repr

def positionOf (row : Preview) : Position :=
  { id := row.id, created := row.createdUnixMs }

def entryOf (row : Preview) : TimelineEntry where
  key := toString row.id ++ ":" ++ toString row.createdUnixMs
  preview := row
  members := [positionOf row]

/-- The entries so far, and the index of the last stack of each date and
repeat key. -/
structure Stacking where
  entries : List TimelineEntry
  last : List ((String × RepeatKey) × Nat)

section Stack

variable (zone : Nat → Option NaiveDate) (groupSimilar : Bool)

/-- Stack one row. Its repeat key is taken out of it. -/
def stackRow (state : Stacking) (row : Preview) : Stacking :=
  if groupSimilar then
    let bare := { row with repeatKey := none }
    match row.repeatKey with
    | none => ⟨state.entries ++ [entryOf bare], state.last⟩
    | some repeats =>
        let key := (date zone row.createdUnixMs, repeats)
        match (state.last.lookup key).filter fun index =>
            state.entries[index]?.any fun entry =>
              entry.members.length < stackLimit with
        | some index =>
            ⟨state.entries.modify index fun entry =>
              { entry with members := entry.members ++ [positionOf row] },
              state.last⟩
        | none => ⟨state.entries ++ [entryOf bare],
            (key, state.entries.length) :: state.last⟩
  else ⟨state.entries ++ [entryOf row], state.last⟩

def stack (rows : List Preview) : List TimelineEntry :=
  (rows.foldl (stackRow zone groupSimilar) ⟨[], []⟩).entries

end Stack

/-! ## Projection -/

/-- Rows by their key, in order. -/
def bucketsBy (keyOf : Preview → String) (rows : List Preview) :
    ExtTreeMap String (List Preview) :=
  rows.foldl (fun buckets row =>
    buckets.alter (keyOf row) fun bucket =>
      some (bucket.getD [] ++ [row])) ∅

section Projection

variable (zone : Nat → Option NaiveDate)

def bucketKey (query : CenterQuery) (today : NaiveDate) (row : Preview) :
    String :=
  if query.periodGroups then period zone row.createdUnixMs today
  else date zone row.createdUnixMs

def dateBuckets (query : CenterQuery)
    (buckets : ExtTreeMap String (List Preview)) : List DateBucket :=
  if query.periodGroups then
    periods.map fun key => ⟨key, (buckets[key]?.map List.length).getD 0⟩
  else buckets.toList.reverse.map fun (key, rows) => ⟨key, rows.length⟩

def selectedDate (query : CenterQuery)
    (buckets : ExtTreeMap String (List Preview)) (dates : List DateBucket) :
    String :=
  if query.periodGroups then query.date.getD ""
  else ((query.date.filter buckets.contains).or
    (dates.head?.map DateBucket.key)).getD ""

def projectAt (rows : List Preview) (query : CenterQuery) (epoch : String)
    (revision : Nat) (today : NaiveDate) : Except HistoryError Timeline :=
  let periodDay := if query.periodGroups then today.text else ""
  if query.periodGroups && 0 < query.offset &&
      query.periodDay != some periodDay then .error .stale
  else
    let recent := if query.periodGroups then some (rows.take 3) else none
    let others := if query.periodGroups then rows.drop 3 else rows
    let buckets := bucketsBy (bucketKey zone query today) others
    let dates := dateBuckets query buckets
    let selected := selectedDate query buckets dates
    let bucket := buckets[selected]?.getD []
    let entries := stack zone query.groupSimilar bucket
    let stop := min (query.offset + window) entries.length
    .ok {
      epoch := epoch
      revision := toString revision
      query := query.query
      appKey := query.appKey.getD ""
      dates := dates
      periodDay := periodDay
      recent := recent
      date := selected
      count := bucket.length
      totalRows := entries.length
      offset := query.offset
      nextOffset := if stop < entries.length then some stop else none
      anchorReached := query.timelineAnchor.all fun key =>
        (entries.findIdx? fun entry => entry.key == key).all fun index =>
          index < stop
      entries := (entries.drop query.offset).take window }

end Projection

end BarDaemon.Notifications.Timelines
