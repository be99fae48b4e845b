import BarDaemon.CalendarFolding

/-!
# Components of calendar files

A file is well nested when its lines derive from a grammar of components.
The reader, a machine with a stack, accepts these files and no others, if
their events complete.
-/

namespace BarDaemon.Calendars

open CharacterLists FallibleSteps

abbrev Property := Text × Text

/-! ### Well-nested files -/

/-- Where a component may begin; a file has no name. A to-do has no place. -/
def Nestable : Option Text → Text → Prop
  | none, name => name = "VCALENDAR".toList
  | some parent, name =>
      name ≠ "VCALENDAR".toList ∧
      (name = "VEVENT".toList → parent = "VCALENDAR".toList) ∧
      name ≠ [] ∧ name ≠ "VTODO".toList

/-- The events of a component, each given by its own properties. -/
def eventsOf (name : Text) (own : List Property)
    (events : List (List Property)) : List (List Property) :=
  if name = "VEVENT".toList then own :: events else events

/-- The contents of a component: its own properties and, in the order of the
file, the events among its components. -/
inductive Nested :
    Option Text → List Item → List Property → List (List Property) → Prop
  | nil {parent} : Nested parent [] [] []
  | property {name key value items own events} :
      Nested (some name) items own events →
      Nested (some name) (.property key value :: items) ((key, value) :: own)
        events
  | component {parent opened closed inner innerOwn innerEvents} {items own events} :
      Nestable parent (upper opened) →
      upper closed = upper opened →
      Nested (some (upper opened)) inner innerOwn innerEvents →
      Nested parent items own events →
      Nested parent (.opens opened :: inner ++ .closes closed :: items) own
        (eventsOf (upper opened) innerOwn innerEvents ++ events)

theorem Nestable.not_event {parent name : Text}
    (nestable : Nestable (some parent) name)
    (other : parent ≠ "VCALENDAR".toList) : name ≠ "VEVENT".toList :=
  fun same => other (nestable.2.1 same)

/-! ### Items of a file -/

/-- The items of lines, without the blank ones. -/
def lineItems : List Text → Option (List Item)
  | [] => some []
  | line :: lines =>
      if line.all isWhitespace then lineItems lines
      else
        match splitOnce ':' line with
        | none => none
        | some (key, value) =>
            (lineItems lines).map fun items => itemOf key value :: items

def contentItems (contents : Text) : Option (List Item) :=
  lineItems (unfoldLines contents)

section Reading

variable {Date Moment Zone : Type} (chrono : Chrono Date Moment Zone)
  (source : CalendarSource) (path : Text)

def readItems : List Item → Reading → Except Failure Reading
  | [], reading => .ok reading
  | item :: items, reading => do
      readItems items (← readItem chrono source path reading item)

theorem readLines_eq {lines : List Text} {items : List Item}
    (given : lineItems lines = some items) (reading : Reading) :
    readLines chrono source path lines reading =
      readItems chrono source path items reading := by
  induction lines generalizing items reading with
  | nil =>
      cases given
      rfl
  | cons line lines ih =>
      rw [lineItems] at given
      rw [readLines, readLine]
      split at given
      · rename_i blank
        rw [if_pos blank, ok_bind, ih given]
      · rename_i shown
        rw [if_neg shown]
        cases divided : splitOnce ':' line with
        | none =>
            rw [divided] at given
            cases given
        | some parts =>
            rw [divided] at given
            obtain ⟨others, rest, rfl⟩ := Option.map_eq_some_iff.mp given
            simp [readItems, ih rest]

/-- The builder of an event, from its own properties. -/
def build (builder : EventBuilder) : List Property → Except Failure EventBuilder
  | [] => .ok builder
  | (key, value) :: own => do
      build (← context (inFile path "parse event")
        (parseEventProperty chrono builder key value)) own

/-- An event, from its own properties. -/
def readEvent (own : List Property) : Except Failure (Option ActivityEvent) := do
  finishEvent chrono source path (← build chrono path {} own)

def readEvents : List (List Property) → Except Failure (List ActivityEvent)
  | [] => .ok []
  | own :: events => do
      let event ← readEvent chrono source path own
      let others ← readEvents events
      return event.toList ++ others

end Reading

/-! ### Single items -/

theorem placed_eq_ok_iff {components : List Text} {name : Text} {done : Unit} :
    name ≠ "VTODO".toList ∧ placed components name = .ok done ∧ name ≠ [] ↔
      Nestable components.getLast? name := by
  unfold placed Nestable
  cases components.getLast? with
  | none =>
      rw [ensure_eq_ok_iff, beq_iff_eq]
      constructor
      · exact fun begun => begun.2.1
      · rintro rfl
        exact ⟨by decide, rfl, by decide⟩
  | some parent =>
      rw [ensure_then_eq_ok_iff, ensure_eq_ok_iff, Bool.or_eq_true,
        bne_iff_ne, bne_iff_ne, beq_iff_eq, or_iff_not_imp_left, not_not]
      constructor
      · rintro ⟨notTodo, ⟨notFile, direct⟩, some_⟩
        exact ⟨notFile, direct, some_, notTodo⟩
      · rintro ⟨notFile, direct, some_, notTodo⟩
        exact ⟨notTodo, ⟨notFile, direct⟩, some_⟩

theorem beginComponent_eq_ok_iff {components after : List Text} {value : Text} :
    beginComponent components value = .ok after ↔
      Nestable components.getLast? (upper value) ∧
        components ++ [upper value] = after := by
  rw [← @placed_eq_ok_iff _ _ (), beginComponent, ensure_then_eq_ok_iff,
    bind_eq_ok_iff, bne_iff_ne]
  simp only [ensure_then_eq_ok_iff, Bool.not_eq_true',
    List.isEmpty_eq_false_iff]
  constructor
  · rintro ⟨notTodo, _, placed, some_, added⟩
    exact ⟨⟨notTodo, placed, some_⟩, Except.ok.inj added⟩
  · rintro ⟨⟨notTodo, placed, some_⟩, added⟩
    exact ⟨notTodo, (), placed, some_, congrArg Except.ok added⟩

section Steps

variable {Date Moment Zone : Type} {chrono : Chrono Date Moment Zone}
  {source : CalendarSource} {path : Text} {reading : Reading}
  {opened closed key value : Text}

def Reading.inside (reading : Reading) (name : Text) : Reading :=
  { reading with
    components := reading.components ++ [name]
    sawCalendar := true }

theorem readItem_opens
    (nestable : Nestable reading.components.getLast? (upper opened)) :
    readItem chrono source path reading (.opens opened) =
      .ok (reading.inside (upper opened)) := by
  rw [readItem, beginComponent_eq_ok_iff.mpr ⟨nestable, rfl⟩]
  rfl

/-- A component that ends is the last one. -/
theorem readItem_closes (same : upper closed = upper opened)
    (other : upper opened ≠ "VEVENT".toList) (saw : reading.sawCalendar = true) :
    readItem chrono source path (reading.inside (upper opened))
      (.closes closed) = .ok reading := by
  rw [readItem, same, Reading.inside]
  simp only [List.getLast?_concat, beq_self_eq_true, ensure, if_true, ok_bind,
    if_neg other, List.dropLast_concat, ← saw]
  rfl

theorem readItem_closes_event (same : upper closed = upper opened)
    (event : upper opened = "VEVENT".toList)
    (saw : reading.sawCalendar = true) (current : EventBuilder) :
    readItem chrono source path
        { reading.inside (upper opened) with current := current }
        (.closes closed) =
      (do
        let finished ← finishEvent chrono source path current
        return { reading with
          events := reading.events ++ finished.toList
          current := {} }) := by
  rw [readItem, same, Reading.inside]
  simp only [List.getLast?_concat, beq_self_eq_true, ensure, if_true, ok_bind,
    if_pos event, List.dropLast_concat, ← saw]

end Steps

/-! ### Nested contents -/

section Contents

variable {Date Moment Zone : Type} {chrono : Chrono Date Moment Zone}
  {source : CalendarSource} {path : Text} {parent : Option Text}
  {items : List Item} {own : List Property} {events : List (List Property)}
  {reading : Reading}

theorem Reading.inside_last (reading : Reading) (name : Text) :
    (reading.inside name).components.getLast? = some name :=
  List.getLast?_concat

/-- Events are only among the components of a calendar. -/
theorem Nested.no_events (nested : Nested parent items own events) {name : Text}
    (inside : parent = some name) (notFile : name ≠ "VCALENDAR".toList) :
    events = [] := by
  induction nested generalizing name with
  | nil => rfl
  | property _ ih => exact ih inside notFile
  | component nestable _ _ _ inner rest =>
      subst inside
      rw [eventsOf, if_neg (nestable.not_event notFile),
        inner rfl nestable.1, rest rfl notFile]
      rfl

/-- A component is passed over when its contents are. -/
theorem readItems_component {opened closed : Text} {inner : List Item}
    (place : Nestable reading.components.getLast? (upper opened))
    (same : upper closed = upper opened)
    (notEvent : upper opened ≠ "VEVENT".toList)
    (saw : reading.sawCalendar = true)
    (content : ∀ rest,
      readItems chrono source path (inner ++ rest)
          (reading.inside (upper opened)) =
        readItems chrono source path rest (reading.inside (upper opened)))
    (rest : List Item) :
    readItems chrono source path
        (.opens opened :: inner ++ .closes closed :: items ++ rest) reading =
      readItems chrono source path (items ++ rest) reading := by
  rw [List.append_assoc, List.cons_append, List.cons_append, readItems,
    readItem_opens place, ok_bind, content, readItems,
    readItem_closes same notEvent saw, ok_bind]

theorem Reading.isEmpty_of_last {name : Text}
    (last : reading.components.getLast? = some name) :
    reading.components.isEmpty = false := by
  cases components : reading.components with
  | nil =>
      rw [components] at last
      cases last
  | cons => rfl

/-- A component other than a calendar or an event says nothing. -/
theorem Nested.read_other (nested : Nested parent items own events)
    {name : Text} (inside : parent = some name)
    (notFile : name ≠ "VCALENDAR".toList) (notEvent : name ≠ "VEVENT".toList)
    (last : reading.components.getLast? = some name)
    (saw : reading.sawCalendar = true) (rest : List Item) :
    readItems chrono source path (items ++ rest) reading =
      readItems chrono source path rest reading := by
  induction nested generalizing name reading rest with
  | nil => rfl
  | property _ ih =>
      have skipped : some name ≠ some "VEVENT".toList :=
        fun same => notEvent (Option.some.inj same)
      rw [List.cons_append, readItems, readItem, last, if_neg skipped,
        Reading.isEmpty_of_last last]
      exact ih inside notFile notEvent last saw rest
  | @component _ opened closed inner _ _ items _ _ nestable same _ _ first
      second =>
      subst inside
      have notEvent' := nestable.not_event notFile
      have place : Nestable reading.components.getLast? (upper opened) := by
        rw [last]
        exact nestable
      rw [readItems_component place same notEvent' saw
        (first rfl nestable.1 notEvent' (reading.inside_last _) rfl)]
      exact second rfl notFile notEvent last saw rest

/-- An event is built from its own properties. -/
theorem Nested.read_event (nested : Nested parent items own events)
    (inside : parent = some "VEVENT".toList)
    (last : reading.components.getLast? = some "VEVENT".toList)
    (saw : reading.sawCalendar = true) (rest : List Item) :
    readItems chrono source path (items ++ rest) reading =
      (do
        let current ← build chrono path reading.current own
        readItems chrono source path rest
          { reading with current := current }) := by
  induction nested generalizing reading rest with
  | nil => rfl
  | @property _ key value items own _ _ ih =>
      rw [List.cons_append, readItems, readItem, build, last, if_pos rfl,
        Reading.isEmpty_of_last last]
      simp only [Bool.not_false, ensure, if_true, ok_bind]
      cases parsed : context (inFile path "parse event")
          (parseEventProperty chrono reading.current key value) with
      | error causes => rfl
      | ok current =>
          have later := @ih { reading with current := current } inside last saw
            rest
          exact later
  | @component _ opened closed inner _ _ items _ _ nestable same nested _ _
      second =>
      subst inside
      have notEvent := nestable.not_event (by decide)
      have place : Nestable reading.components.getLast? (upper opened) := by
        rw [last]
        exact nestable
      rw [readItems_component place same notEvent saw (nested.read_other rfl
        nestable.1 notEvent (reading.inside_last _) rfl)]
      exact second rfl last saw rest

/-- The events of a calendar are read in the order of the file. -/
theorem Nested.read_calendar (nested : Nested parent items own events)
    (inside : parent = some "VCALENDAR".toList)
    (last : reading.components.getLast? = some "VCALENDAR".toList)
    (fresh : reading.current = {}) (saw : reading.sawCalendar = true)
    (rest : List Item) :
    readItems chrono source path (items ++ rest) reading =
      (do
        let read ← readEvents chrono source path events
        readItems chrono source path rest
          { reading with events := reading.events ++ read }) := by
  induction nested generalizing reading rest with
  | nil =>
      rw [readEvents, ok_bind, List.append_nil]
      rfl
  | property _ ih =>
      rw [List.cons_append, readItems, readItem, last, if_neg (by decide),
        Reading.isEmpty_of_last last]
      exact ih inside last fresh saw rest
  | @component _ opened closed inner innerOwn innerEvents items _ events
      nestable same nested _ _ second =>
      subst inside
      have place : Nestable reading.components.getLast? (upper opened) := by
        rw [last]
        exact nestable
      have none : innerEvents = [] := nested.no_events rfl nestable.1
      by_cases event : upper opened = "VEVENT".toList
      · have current : (reading.inside (upper opened)).current = {} := fresh
        rw [eventsOf, if_pos event, none, List.append_assoc, List.cons_append,
          List.cons_append, readItems, readItem_opens place, ok_bind,
          nested.read_event (congrArg some event)
            (event ▸ reading.inside_last (upper opened)) rfl, current]
        simp only [readItems, readItem_closes_event same event saw,
          List.cons_append, readEvents, readEvent]
        cases build chrono path {} innerOwn with
        | error causes => rfl
        | ok current =>
            cases finished : finishEvent chrono source path current with
            | error causes =>
                simp only [ok_bind, finished]
                rfl
            | ok event =>
                have later := @second
                  { reading with
                    events := reading.events ++ event.toList
                    current := {} } rfl last rfl saw rest
                simp only [ok_bind, finished, bind_assoc, pure_bind]
                rw [later, fresh, List.nil_append]
                simp only [List.append_assoc]
      · rw [readItems_component place same event saw (nested.read_other rfl
          nestable.1 event (reading.inside_last _) rfl), eventsOf,
          if_neg event, none]
        exact second rfl last fresh saw rest

theorem readEvents_append (first second : List (List Property)) :
    readEvents chrono source path (first ++ second) =
      (do
        let read ← readEvents chrono source path first
        let others ← readEvents chrono source path second
        return read ++ others) := by
  induction first with
  | nil =>
      rw [readEvents, ok_bind, List.nil_append]
      exact (bind_pure _).symm
  | cons own first ih =>
      simp only [List.cons_append, readEvents, ih, bind_assoc, pure_bind,
        List.append_assoc]

/-- The events of a file are those of its calendars. -/
theorem Nested.read_file (nested : Nested parent items own events)
    (outside : parent = none) (last : reading.components = [])
    (fresh : reading.current = {}) :
    readItems chrono source path items reading =
      (do
        let read ← readEvents chrono source path events
        return { reading with
          events := reading.events ++ read
          sawCalendar := reading.sawCalendar || !items.isEmpty }) := by
  induction nested generalizing reading with
  | nil =>
      rw [readEvents, ok_bind, List.append_nil, readItems, List.isEmpty_nil,
        Bool.not_true, Bool.or_false]
      rfl
  | property => cases outside
  | @component _ opened closed inner innerOwn innerEvents items _ events
      nestable same nested _ _ second =>
      subst outside
      have place : Nestable reading.components.getLast? (upper opened) := by
        rw [last]
        exact nestable
      have calendar : upper opened = "VCALENDAR".toList := nestable
      have notEvent : upper opened ≠ "VEVENT".toList := by
        rw [calendar]
        decide
      have current : (reading.inside (upper opened)).current = {} := fresh
      rw [eventsOf, if_neg notEvent, List.cons_append, readItems,
        readItem_opens place, ok_bind,
        nested.read_calendar (congrArg some calendar)
          (calendar ▸ reading.inside_last (upper opened)) current rfl,
        readEvents_append]
      cases readEvents chrono source path innerEvents with
      | error causes => rfl
      | ok read =>
          let after : Reading :=
            { reading with
              events := reading.events ++ read
              sawCalendar := true }
          have ended : readItem chrono source path
              (after.inside (upper opened)) (.closes closed) = .ok after :=
            readItem_closes same notEvent rfl
          have later := @second after rfl last fresh
          simp only [ok_bind, readItems, bind_assoc, pure_bind]
          refine (congrArg (· >>= readItems chrono source path items) ended).trans
            ?_
          rw [ok_bind, later]
          simp only [after, List.append_assoc, Bool.true_or, List.isEmpty_cons,
            Bool.not_false, Bool.or_true]

end Contents

/-! ### What the reader accepts -/

/-- Items that end the open components, the last one first, and then the
file. -/
def Unwinds : List Text → List Item → Prop
  | [], items => ∃ events, Nested none items [] events
  | top :: below, items => ∃ inner closed rest own events,
      items = inner ++ .closes closed :: rest ∧ upper closed = top ∧
        Nested (some top) inner own events ∧ Unwinds below rest

theorem Unwinds.property {top key value : Text} {below : List Text}
    {items : List Item} (unwinds : Unwinds (top :: below) items) :
    Unwinds (top :: below) (.property key value :: items) := by
  obtain ⟨inner, closed, rest, own, events, rfl, same, nested, later⟩ := unwinds
  exact ⟨.property key value :: inner, closed, rest, _, events, rfl, same,
    nested.property, later⟩

/-- A component that begins among the items ends among them. -/
theorem Unwinds.opens {opened : Text} {stack : List Text} {items : List Item}
    (nestable : Nestable stack.head? (upper opened))
    (unwinds : Unwinds (upper opened :: stack) items) :
    Unwinds stack (.opens opened :: items) := by
  obtain ⟨inner, closed, rest, _, _, rfl, same, nested, later⟩ := unwinds
  cases stack with
  | nil =>
      obtain ⟨events, outer⟩ := later
      exact ⟨_, .component nestable same nested outer⟩
  | cons top below =>
      obtain ⟨more, ends, others, own, events, rfl, equal, outer, below⟩ := later
      refine ⟨.opens opened :: inner ++ .closes closed :: more, ends, others,
        own, _, ?_, equal, .component nestable same nested outer, below⟩
      simp only [List.cons_append, List.append_assoc]

theorem Unwinds.closes {closed : Text} {below : List Text} {items : List Item}
    (unwinds : Unwinds below items) :
    Unwinds (upper closed :: below) (.closes closed :: items) :=
  ⟨[], closed, items, [], [], rfl, rfl, .nil, unwinds⟩

section Acceptance

variable {Date Moment Zone : Type} {chrono : Chrono Date Moment Zone}
  {source : CalendarSource} {path : Text} {reading after : Reading}

theorem readItem_opens_ok {opened : Text}
    (read : readItem chrono source path reading (.opens opened) = .ok after) :
    Nestable reading.components.getLast? (upper opened) ∧
      after.components = reading.components ++ [upper opened] := by
  obtain ⟨components, begun, equal⟩ := bind_eq_ok_iff.mp read
  obtain ⟨nestable, rfl⟩ := beginComponent_eq_ok_iff.mp begun
  cases equal
  exact ⟨nestable, rfl⟩

theorem readItem_closes_ok {closed : Text}
    (read : readItem chrono source path reading (.closes closed) = .ok after) :
    reading.components.getLast? = some (upper closed) ∧
      after.components = reading.components.dropLast := by
  obtain ⟨last, rest⟩ := ensure_then_eq_ok_iff.mp read
  constructor
  · exact eq_of_beq last
  · split at rest
    · obtain ⟨_, _, equal⟩ := bind_eq_ok_iff.mp rest
      cases equal
      rfl
    · cases rest
      rfl

theorem readItem_property_ok {key value : Text}
    (read : readItem chrono source path reading (.property key value) =
      .ok after) :
    reading.components ≠ [] ∧ after.components = reading.components := by
  obtain ⟨some_, rest⟩ := ensure_then_eq_ok_iff.mp read
  constructor
  · simpa using some_
  · split at rest
    · obtain ⟨_, _, equal⟩ := bind_eq_ok_iff.mp rest
      cases equal
      rfl
    · cases rest
      rfl

/-- What the reader takes to its end unwinds its stack. -/
theorem unwinds_of_readItems {items : List Item} {stack : List Text}
    (read : readItems chrono source path items reading = .ok after)
    (open_ : reading.components = stack.reverse)
    (done : after.components = []) : Unwinds stack items := by
  induction items generalizing reading stack with
  | nil =>
      cases read
      rw [open_, List.reverse_eq_nil_iff] at done
      subst done
      exact ⟨[], .nil⟩
  | cons item items ih =>
      obtain ⟨next, taken, rest⟩ := bind_eq_ok_iff.mp read
      cases item with
      | opens opened =>
          obtain ⟨nestable, components⟩ := readItem_opens_ok taken
          rw [open_, List.getLast?_reverse] at nestable
          apply Unwinds.opens nestable
          apply ih rest
          rw [components, open_, List.reverse_cons]
      | closes closed =>
          obtain ⟨last, components⟩ := readItem_closes_ok taken
          rw [open_, List.getLast?_reverse] at last
          obtain ⟨below, rfl⟩ := List.head?_eq_some_iff.mp last
          apply Unwinds.closes
          apply ih rest
          rw [components, open_, List.reverse_cons, List.dropLast_concat]
      | property key value =>
          obtain ⟨some_, components⟩ := readItem_property_ok taken
          cases stack with
          | nil => exact absurd open_ some_
          | cons top below =>
              apply Unwinds.property
              apply ih rest
              rw [components, open_]

end Acceptance

end BarDaemon.Calendars
