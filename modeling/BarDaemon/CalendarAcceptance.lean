import BarDaemon.CalendarComponents

/-!
# Accepted calendar files

A file whose properties are valid is accepted if and only if it is well nested
and its events complete. Each event that is not cancelled is then read once.
-/

namespace BarDaemon.Calendars

open CharacterLists FallibleSteps

variable {Date Moment Zone : Type} {chrono : Chrono Date Moment Zone}
  {source : CalendarSource} {path contents : Text}

/-! ### Files -/

theorem lineItems_of_readLines {lines : List Text} {reading after : Reading}
    (read : readLines chrono source path lines reading = .ok after) :
    ∃ items, lineItems lines = some items := by
  induction lines generalizing reading with
  | nil => exact ⟨[], rfl⟩
  | cons line lines ih =>
      obtain ⟨next, taken, rest⟩ := bind_eq_ok_iff.mp read
      obtain ⟨items, found⟩ := ih rest
      rw [lineItems]
      split
      · exact ⟨items, found⟩
      · rename_i shown
        rw [readLine, if_neg shown] at taken
        cases divided : splitOnce ':' line with
        | none =>
            rw [divided] at taken
            cases taken
        | some parts => exact ⟨_, congrArg (Option.map _) found⟩

/-- Only lines with a colon, and blank ones, are accepted. -/
theorem contentItems_of_parseCalendar {read : List ActivityEvent}
    (parsed : parseCalendar chrono source path contents = .ok read) :
    ∃ items, contentItems contents = some items := by
  obtain ⟨after, lines, _⟩ := bind_eq_ok_iff.mp parsed
  exact lineItems_of_readLines lines

/-- What the reader makes of a well-nested file. -/
theorem Nested.parseCalendar_eq_ok_iff {items : List Item}
    {events : List (List Property)} {read : List ActivityEvent}
    (nested : Nested none items [] events)
    (given : contentItems contents = some items) :
    parseCalendar chrono source path contents = .ok read ↔
      items ≠ [] ∧ readEvents chrono source path events = .ok read := by
  rw [parseCalendar, readLines_eq chrono source path given,
    nested.read_file rfl rfl rfl]
  simp only [bind_assoc, pure_bind, Bool.false_or, List.nil_append]
  constructor
  · intro parsed
    obtain ⟨found, readOk, rest⟩ := bind_eq_ok_iff.mp parsed
    obtain ⟨saw, rest⟩ := ensure_then_eq_ok_iff.mp rest
    cases rest
    constructor
    · rintro rfl
      cases saw
    · exact readOk
  · rintro ⟨some_, readOk⟩
    rw [readOk, ok_bind, List.isEmpty_eq_false_iff.mpr some_]
    rfl

/-- The reader accepts the well-nested files only. -/
theorem nested_of_parseCalendar {items : List Item} {read : List ActivityEvent}
    (given : contentItems contents = some items)
    (parsed : parseCalendar chrono source path contents = .ok read) :
    ∃ events, Nested none items [] events := by
  obtain ⟨after, taken, rest⟩ := bind_eq_ok_iff.mp parsed
  rw [readLines_eq chrono source path given] at taken
  obtain ⟨_, rest⟩ := ensure_then_eq_ok_iff.mp rest
  obtain ⟨closed, _⟩ := ensure_then_eq_ok_iff.mp rest
  have unwinds : Unwinds [] items :=
    unwinds_of_readItems taken rfl (List.isEmpty_iff.mp closed)
  exact unwinds

/-! ### Valid properties -/

def PropertyValid (chrono : Chrono Date Moment Zone) (key value : Text) : Prop :=
  ∃ builder, parseEventProperty chrono {} key value = .ok builder

/-- Take a valid property. -/
def takeProperty (chrono : Chrono Date Moment Zone) (builder : EventBuilder)
    (property : Property) : EventBuilder :=
  ((parseEventProperty chrono builder property.1 property.2).toOption).getD
    builder

/-- What the properties of an event say, if they are valid. -/
def built (chrono : Chrono Date Moment Zone) (own : List Property) :
    EventBuilder :=
  own.foldl (takeProperty chrono) {}

/-- Whether a property is valid does not depend on those before it. -/
theorem parseEventProperty_isOk (builder other : EventBuilder)
    (key value : Text) :
    (parseEventProperty chrono builder key value).isOk =
      (parseEventProperty chrono other key value).isOk := by
  have time (first second : ParsedTime → EventBuilder) :
      ((parseTime chrono key value).map first).isOk =
        ((parseTime chrono key value).map second).isOk := by
    cases parseTime chrono key value <;> rfl
  simp only [parseEventProperty]
  split_ifs
  all_goals first | rfl | exact time _ _

theorem PropertyValid.taken {property : Property}
    (valid : PropertyValid chrono property.1 property.2)
    (builder : EventBuilder) :
    parseEventProperty chrono builder property.1 property.2 =
      .ok (takeProperty chrono builder property) := by
  obtain ⟨first, parsed⟩ := valid
  have same := @parseEventProperty_isOk _ _ _ chrono builder {} property.1
    property.2
  rw [parsed] at same
  rw [takeProperty]
  cases found : parseEventProperty chrono builder property.1 property.2 with
  | error causes =>
      rw [found] at same
      cases same
  | ok next => rfl

theorem build_of_valid {own : List Property}
    (valid : ∀ property ∈ own, PropertyValid chrono property.1 property.2)
    (builder : EventBuilder) :
    build chrono path builder own =
      .ok (own.foldl (takeProperty chrono) builder) := by
  induction own generalizing builder with
  | nil => rfl
  | cons property own ih =>
      obtain ⟨first, others⟩ := List.forall_mem_cons.mp valid
      rw [build, first.taken builder, List.foldl_cons]
      exact ih others _

/-- The properties of events are those of the file. -/
theorem Nested.properties_mem {parent : Option Text} {items : List Item}
    {own : List Property} {events : List (List Property)}
    (nested : Nested parent items own events) :
    ∀ part ∈ own :: events, ∀ property ∈ part,
      Item.property property.1 property.2 ∈ items := by
  induction nested with
  | nil =>
      intro part among property found
      obtain rfl := List.mem_singleton.mp among
      cases found
  | property _ ih =>
      intro part among property found
      rcases List.mem_cons.mp among with rfl | later
      · rcases List.mem_cons.mp found with rfl | found
        · exact List.mem_cons_self
        · exact List.mem_cons_of_mem _ (ih _ List.mem_cons_self _ found)
      · exact List.mem_cons_of_mem _
          (ih _ (List.mem_cons_of_mem _ later) _ found)
  | @component _ opened closed inner innerOwn innerEvents items own events
      _ _ _ _ first second =>
      intro part among property found
      have inside : part ∈ innerOwn :: innerEvents ∨ part ∈ own :: events := by
        rcases List.mem_cons.mp among with rfl | among
        · exact .inr List.mem_cons_self
        · rcases List.mem_append.mp among with among | among
          · unfold eventsOf at among
            split at among
            · exact .inl among
            · exact .inl (List.mem_cons_of_mem _ among)
          · exact .inr (List.mem_cons_of_mem _ among)
      rcases inside with inside | outside
      · exact List.mem_append_left _
          (List.mem_cons_of_mem _ (first part inside property found))
      · exact List.mem_append_right _
          (List.mem_cons_of_mem _ (second part outside property found))

/-! ### Complete events -/

/-- An event with a start and, if it has an end, one that fits the start. -/
def EventBuilder.Complete (builder : EventBuilder) : Prop :=
  ∃ start, builder.start = some start ∧
    ∀ stop, builder.stop = some stop → start.allDay = stop.allDay ∧
      start.unixMs ≤ stop.unixMs ∧
      (start.allDay = true → start.unixMs < stop.unixMs)

/-- The end that an event has without one of its own. -/
def defaultStop (chrono : Chrono Date Moment Zone) (start : ParsedTime) :
    ParsedTime :=
  ⟨start.unixMs + if start.allDay then 86400000 else 0,
    start.date.bind chrono.dayAfter, start.allDay, none⟩

theorem fits_getD (chrono : Chrono Date Moment Zone) {start : ParsedTime}
    {given : Option ParsedTime}
    (fits : ∀ stop, given = some stop → start.allDay = stop.allDay ∧
      start.unixMs ≤ stop.unixMs ∧
      (start.allDay = true → start.unixMs < stop.unixMs)) :
    ∀ stop, given.getD (defaultStop chrono start) = stop →
      (start.allDay == stop.allDay) = true ∧
      decide (start.unixMs ≤ stop.unixMs) = true ∧
      (!start.allDay || decide (start.unixMs < stop.unixMs)) = true := by
  rintro stop rfl
  cases given with
  | none =>
      rw [Option.getD_none, defaultStop]
      cases start.allDay with
      | false => simp
      | true =>
          simp only [if_true, decide_eq_true_eq, Bool.not_true, Bool.false_or]
          exact ⟨rfl, by omega, by omega⟩
  | some stop =>
      obtain ⟨mode, order, filled⟩ := fits stop rfl
      rw [Option.getD_some, ← mode]
      cases allDay : start.allDay with
      | false => simp [order]
      | true => simp [order, filled allDay]

theorem finishEvent_of_cancelled {builder : EventBuilder}
    (cancelled : builder.cancelled = true) :
    finishEvent chrono source path builder = .ok none := by
  rw [finishEvent, if_pos cancelled]
  rfl

theorem finishEvent_none {builder : EventBuilder}
    (finished : finishEvent chrono source path builder = .ok none) :
    ¬builder.cancelled = false := by
  intro lasting
  have kept : ¬builder.cancelled = true := by
    rw [lasting]
    decide
  rw [finishEvent, if_neg kept] at finished
  cases started : builder.start with
  | none =>
      rw [started] at finished
      cases finished
  | some start =>
      simp only [started, ensure_then_eq_ok_iff] at finished
      cases finished.2.2.2

theorem finishEvent_isOk_iff {builder : EventBuilder}
    (lasting : builder.cancelled = false) :
    (∃ event, finishEvent chrono source path builder = .ok (some event)) ↔
      builder.Complete := by
  have kept : ¬builder.cancelled = true := by
    rw [lasting]
    decide
  rw [finishEvent, if_neg kept, EventBuilder.Complete]
  cases builder.start with
  | none => simp
  | some start =>
      constructor
      · rintro ⟨event, finished⟩
        obtain ⟨mode, finished⟩ := ensure_then_eq_ok_iff.mp finished
        obtain ⟨order, finished⟩ := ensure_then_eq_ok_iff.mp finished
        obtain ⟨filled, _⟩ := ensure_then_eq_ok_iff.mp finished
        refine ⟨start, rfl, fun stop same => ?_⟩
        rw [same, Option.getD_some] at mode order filled
        refine ⟨eq_of_beq mode, of_decide_eq_true order, fun allDay => ?_⟩
        rw [allDay, Bool.not_true, Bool.false_or] at filled
        exact of_decide_eq_true filled
      · rintro ⟨_, same, fits⟩
        cases same
        obtain ⟨mode, order, filled⟩ := fits_getD chrono fits _ rfl
        exact ⟨_, ensure_then_eq_ok_iff.mpr ⟨mode, ensure_then_eq_ok_iff.mpr
          ⟨order, ensure_then_eq_ok_iff.mpr ⟨filled, rfl⟩⟩⟩⟩

/-- One event was read for each of these builders. -/
def ReadFrom (chrono : Chrono Date Moment Zone) (source : CalendarSource)
    (path : Text) : List EventBuilder → List ActivityEvent → Prop :=
  List.Forall₂ fun builder event =>
    finishEvent chrono source path builder = .ok (some event)

theorem readEvents_of_valid {events : List (List Property)}
    (valid : ∀ own ∈ events, ∀ property ∈ own,
      PropertyValid chrono property.1 property.2) :
    ((∃ read, readEvents chrono source path events = .ok read) ↔
      ∀ own ∈ events, (built chrono own).cancelled = true ∨
        (built chrono own).Complete) ∧
    ∀ read, readEvents chrono source path events = .ok read →
      ReadFrom chrono source path
        ((events.map (built chrono)).filter (!·.cancelled)) read := by
  induction events with
  | nil =>
      constructor
      · simp [readEvents]
      · intro read same
        cases same
        exact .nil
  | cons own events ih =>
      obtain ⟨first, others⟩ := List.forall_mem_cons.mp valid
      obtain ⟨accepted, found⟩ := ih others
      have event : readEvent chrono source path own =
          finishEvent chrono source path (built chrono own) := by
        rw [readEvent, build_of_valid first]
        rfl
      rw [List.forall_mem_cons, ← accepted, List.map_cons]
      simp only [readEvents, event]
      cases lasting : (built chrono own).cancelled with
      | true =>
          rw [finishEvent_of_cancelled lasting, ok_bind,
            List.filter_cons_of_neg (by rw [lasting]; decide)]
          have same : (do
              let others ← readEvents chrono source path events
              return (none : Option ActivityEvent).toList ++ others) =
              readEvents chrono source path events := by
            cases readEvents chrono source path events <;> rfl
          rw [same]
          constructor
          · simp only [true_or, true_and]
          · exact found
      | false =>
          rw [List.filter_cons_of_pos (by rw [lasting]; rfl)]
          simp only [bind_eq_ok_iff, Bool.false_eq_true, false_or,
            ← @finishEvent_isOk_iff _ _ _ chrono source path _ lasting]
          constructor
          · constructor
            · rintro ⟨_, event, finished, others, rest, _⟩
              cases event with
              | none => exact absurd lasting (finishEvent_none finished)
              | some event => exact ⟨⟨event, finished⟩, others, rest⟩
            · rintro ⟨⟨event, finished⟩, others, rest⟩
              exact ⟨_, some event, finished, others, rest, rfl⟩
          · rintro _ ⟨event, finished, others, rest, equal⟩
            cases equal
            cases event with
            | none => exact absurd lasting (finishEvent_none finished)
            | some event => exact .cons finished (found others rest)

/-- A file whose events have valid properties of their own is accepted if and
only if it is well nested and each of its events is cancelled or complete. What
is read is one event for each that is not cancelled, from its own properties,
in the order of the file. -/
theorem parseCalendar_accepts_iff {items : List Item}
    (given : contentItems contents = some items)
    (valid : ∀ events, Nested none items [] events → ∀ own ∈ events,
      ∀ property ∈ own, PropertyValid chrono property.1 property.2) :
    ((∃ read, parseCalendar chrono source path contents = .ok read) ↔
      items ≠ [] ∧ ∃ events, Nested none items [] events ∧
        ∀ own ∈ events, (built chrono own).cancelled = true ∨
          (built chrono own).Complete) ∧
    ∀ events, Nested none items [] events →
      ∀ read, parseCalendar chrono source path contents = .ok read →
        ReadFrom chrono source path
          ((events.map (built chrono)).filter (!·.cancelled)) read := by
  constructor
  · constructor
    · rintro ⟨read, parsed⟩
      obtain ⟨events, nested⟩ := nested_of_parseCalendar given parsed
      obtain ⟨some_, found⟩ := (nested.parseCalendar_eq_ok_iff given).mp parsed
      exact ⟨some_, events, nested,
        (readEvents_of_valid (valid events nested)).1.mp ⟨read, found⟩⟩
    · rintro ⟨some_, events, nested, complete⟩
      obtain ⟨read, found⟩ :=
        (readEvents_of_valid (valid events nested)).1.mpr complete
      exact ⟨read, (nested.parseCalendar_eq_ok_iff given).mpr ⟨some_, found⟩⟩
  · intro events nested read parsed
    obtain ⟨_, found⟩ := (nested.parseCalendar_eq_ok_iff given).mp parsed
    exact (readEvents_of_valid (valid events nested)).2 read found

/-- The items of a file with a calendar and one event. -/
def eventItems (properties : List Item) : List Item :=
  [.opens "VCALENDAR".toList, .opens "VEVENT".toList] ++ properties ++
    [.closes "VEVENT".toList, .closes "VCALENDAR".toList]

theorem eventItems_nested {key value : Text} :
    Nested none (eventItems [.property key value]) [] [[(key, value)]] := by
  have event : Nested (some "VCALENDAR".toList)
      (.opens "VEVENT".toList :: [.property key value] ++
        .closes "VEVENT".toList :: []) [] ([[(key, value)]] ++ []) :=
    .component ⟨by decide, fun _ => rfl, by decide, by decide⟩ rfl
      (.property .nil) .nil
  have calendar : Nestable none (upper "VCALENDAR".toList) := rfl
  exact .component calendar rfl event .nil

/-- A file with a meeting at the moment. -/
theorem meeting_is_accepted :
    ∃ read, parseCalendar oneMoment ⟨"work".toList, [], []⟩ "a.ics".toList
      ("BEGIN:VCALENDAR\nBEGIN:VEVENT\nDTSTART:20260115T090000Z\n" ++
        "END:VEVENT\nEND:VCALENDAR\n").toList = .ok read := by
  have valid : ∀ events, Nested none (eventItems
        [.property "DTSTART".toList "20260115T090000Z".toList]) [] events →
      ∀ own ∈ events, ∀ property ∈ own,
        PropertyValid oneMoment property.1 property.2 := by
    intro events nested own among property found
    have member := nested.properties_mem own (List.mem_cons_of_mem _ among)
      property found
    simp only [eventItems, List.cons_append, List.nil_append, List.mem_cons,
      reduceCtorEq, false_or, or_false, List.not_mem_nil,
      Item.property.injEq] at member
    rw [member.1, member.2]
    exact ⟨_, rfl⟩
  refine (parseCalendar_accepts_iff rfl valid).1.mpr
    ⟨by decide, _, eventItems_nested, ?_⟩
  intro own among
  obtain rfl := List.mem_singleton.mp among
  exact .inr ⟨_, rfl, nofun⟩

/-- A well-nested file is not accepted when its event has no start. -/
theorem event_without_start :
    contentItems ("BEGIN:VCALENDAR\nBEGIN:VEVENT\nSUMMARY:Missing start\n" ++
        "END:VEVENT\nEND:VCALENDAR\n").toList =
      some (eventItems
        [.property "SUMMARY".toList "Missing start".toList]) ∧
    PropertyValid oneMoment "SUMMARY".toList "Missing start".toList ∧
    Nested none (eventItems
        [.property "SUMMARY".toList "Missing start".toList]) []
      [[("SUMMARY".toList, "Missing start".toList)]] ∧
    parseCalendar oneMoment ⟨"work".toList, [], []⟩ "a.ics".toList
      ("BEGIN:VCALENDAR\nBEGIN:VEVENT\nSUMMARY:Missing start\n" ++
        "END:VEVENT\nEND:VCALENDAR\n").toList =
      .error ["VEVENT is missing DTSTART"] :=
  ⟨rfl, ⟨_, rfl⟩, eventItems_nested, rfl⟩

end BarDaemon.Calendars
