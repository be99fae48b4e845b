import BarDaemon.CalendarLines

/-!
# Folded content lines

A content line may be folded over physical lines, at any of its characters.
What a file says does not depend on it.
-/

namespace BarDaemon.Calendars

open CharacterLists FallibleSteps

/-! ### Foldings -/

/-- A line end and a blank, between the characters of a line. -/
structure Fold where
  ending : LineEnd
  marker : Char
  blank : isFold marker = true
  /-- The characters after it. -/
  chunk : Text

def Fold.text (fold : Fold) : Text :=
  fold.ending.text ++ fold.marker :: fold.chunk

/-- A line with the places where it is folded. -/
structure Folding where
  first : Text
  folds : List Fold

def Folding.text (folding : Folding) : Text :=
  folding.first ++ folding.folds.flatMap Fold.text

/-- The line without its folds. -/
def Folding.line (folding : Folding) : Text :=
  folding.first ++ folding.folds.flatMap Fold.chunk

/-- A line starts where the file does or after a line feed. -/
def StartsLine (before : Text) : Prop :=
  before = [] ∨ before.getLast? = some '\n'

/-! ### Physical lines -/

theorem lines_of_starts {before : Text} (starts : StartsLine before)
    (rest : Text) : lines (before ++ rest) = lines before ++ lines rest := by
  rcases starts with rfl | last
  · rfl
  · obtain ⟨before, rfl⟩ := List.getLast?_eq_some_iff.mp last
    rw [List.append_assoc]
    exact lines_feed before rest

def Fold.physical (fold : Fold) : Text :=
  fold.marker :: fold.chunk

theorem isFold_iff {marker : Char} :
    isFold marker = true ↔ marker = ' ' ∨ marker = '\t' := by
  simp [isFold]

theorem Fold.marker_ne (fold : Fold) :
    fold.marker ≠ '\n' ∧ fold.marker ≠ '\r' := by
  rcases isFold_iff.mp fold.blank with same | same <;> rw [same] <;> decide

/-- The characters of a line do not break it. -/
def Unbroken (text : Text) : Prop :=
  ∀ char ∈ text, char ≠ '\n' ∧ char ≠ '\r'

theorem Unbroken.noFeed {text : Text} (unbroken : Unbroken text) : '\n' ∉ text :=
  fun found => (unbroken _ found).1 rfl

theorem Unbroken.noReturn {text : Text} (unbroken : Unbroken text) :
    '\r' ∉ text :=
  fun found => (unbroken _ found).2 rfl

theorem Unbroken.append_iff {first rest : Text} :
    Unbroken (first ++ rest) ↔ Unbroken first ∧ Unbroken rest :=
  List.forall_mem_append

/-- The physical lines of a folded line. -/
theorem lines_folded {first : Text} {folds : List Fold} (tail : Tail)
    (unbroken : Unbroken (first ++ folds.flatMap Fold.chunk))
    (shown : first ++ folds.flatMap Fold.chunk ≠ []) :
    lines (first ++ folds.flatMap Fold.text ++ tail.text) =
      first :: folds.map Fold.physical ++ tail.lines := by
  induction folds generalizing first with
  | nil =>
      rw [List.flatMap_nil, List.append_nil] at unbroken shown ⊢
      exact lines_tail unbroken.noFeed unbroken.noReturn tail fun _ => shown
  | cons fold folds ih =>
      rw [List.flatMap_cons, Unbroken.append_iff, Unbroken.append_iff]
        at unbroken
      obtain ⟨plain, chunk, others⟩ := unbroken
      have rest : Unbroken (fold.physical ++ folds.flatMap Fold.chunk) := by
        apply Unbroken.append_iff.mpr
        exact ⟨List.forall_mem_cons.mpr ⟨fold.marker_ne, chunk⟩, others⟩
      calc lines (first ++ (fold :: folds).flatMap Fold.text ++ tail.text)
        _ = lines (first ++ fold.ending.text ++
              (fold.physical ++ folds.flatMap Fold.text ++ tail.text)) := by
            simp [Fold.text, Fold.physical]
        _ = first :: (fold.physical :: folds.map Fold.physical ++
              tail.lines) := by
            rw [lines_append plain.noFeed plain.noReturn,
              ih rest (List.cons_ne_nil _ _)]
        _ = _ := by simp only [List.map_cons, List.cons_append]

/-! ### Unfolding -/

theorem trimReturns_of_unbroken {line : Text} (unbroken : Unbroken line) :
    trimReturns line = line := by
  rw [trimReturns, List.rdropWhile_eq_self_iff]
  intro some_
  simpa using (unbroken _ (List.getLast_mem some_)).2

/-- A fold is taken back. -/
theorem unfoldLine_fold (unfolded : List Text) (line : Text) {fold : Fold}
    (unbroken : Unbroken fold.chunk) :
    unfoldLine (unfolded ++ [line]) fold.physical =
      unfolded ++ [line ++ fold.chunk] := by
  have whole : Unbroken fold.physical :=
    List.forall_mem_cons.mpr ⟨fold.marker_ne, unbroken⟩
  rw [unfoldLine, trimReturns_of_unbroken whole, List.getLast?_concat,
    Fold.physical]
  simp only [fold.blank, if_true, List.dropLast_concat]

theorem foldl_unfoldLine (unfolded : List Text) {first : Text}
    {folds : List Fold} (unbroken : Unbroken (folds.flatMap Fold.chunk)) :
    (folds.map Fold.physical).foldl unfoldLine (unfolded ++ [first]) =
      unfolded ++ [first ++ folds.flatMap Fold.chunk] := by
  induction folds generalizing first with
  | nil => simp
  | cons fold folds ih =>
      obtain ⟨chunk, others⟩ := Unbroken.append_iff.mp unbroken
      rw [List.map_cons, List.foldl_cons, unfoldLine_fold _ _ chunk, ih others,
        List.flatMap_cons, List.append_assoc]

/-- A line that does not start with a blank is a new one. -/
theorem unfoldLine_new (unfolded : List Text) {line : Text}
    (unbroken : Unbroken line)
    (notBlank : ∀ char, line.head? = some char → isFold char = false) :
    unfoldLine unfolded line = unfolded ++ [line] := by
  rw [unfoldLine, trimReturns_of_unbroken unbroken]
  split
  · rename_i marker rest _ _
    rw [if_neg (by rw [notBlank marker rfl]; decide)]
  · rfl

/-- A folded line is read as the line without its folds. -/
theorem unfoldLines_folding {before : Text} (starts : StartsLine before)
    {folding : Folding} (tail : Tail) (unbroken : Unbroken folding.line)
    (notBlank : ∃ char, folding.line.head? = some char ∧ isFold char = false) :
    unfoldLines (before ++ folding.text ++ tail.text) =
      tail.lines.foldl unfoldLine (unfoldLines before ++ [folding.line]) := by
  obtain ⟨char, head, notBlank⟩ := notBlank
  have shown : folding.line ≠ [] := by
    intro none
    rw [none] at head
    cases head
  obtain ⟨plain, chunks⟩ := Unbroken.append_iff.mp unbroken
  have starting : ∀ other, folding.first.head? = some other →
      isFold other = false := by
    intro other same
    rw [Folding.line, List.head?_append, same, Option.some_or] at head
    rwa [Option.some.inj head]
  rw [unfoldLines, List.append_assoc, lines_of_starts starts, Folding.text,
    lines_folded tail unbroken shown, List.foldl_append, List.foldl_append,
    List.foldl_cons, unfoldLine_new _ plain starting,
    foldl_unfoldLine _ chunks]
  rfl

/-! ### Reading by use -/

section Reading

variable {Date Moment Zone : Type} (chrono : Chrono Date Moment Zone)
  (source : CalendarSource) (path : Text)

/-- A property is taken by its name, its value and, for a time, its
parameters. -/
theorem parseEventProperty_congr {key other value : Text}
    (name : propertyName key = propertyName other)
    (params : isTime (propertyName key) = true →
      parameters key = parameters other) (builder : EventBuilder) :
    parseEventProperty chrono builder key value =
      parseEventProperty chrono builder other value := by
  by_cases time : isTime (propertyName key) = true
  · have times : parseTime chrono key value = parseTime chrono other value := by
      rw [parseTime, parseTime, params time]
    rw [parseEventProperty, parseEventProperty, name, times]
  · have notTime : propertyName other ≠ "DTSTART".toList ∧
        propertyName other ≠ "DTEND".toList := by
      rw [name] at time
      exact not_or.mp fun either => time (decide_eq_true either)
    unfold parseEventProperty
    rw [name]
    -- The names before the times, the times, and the rest.
    apply ite_congr rfl (fun _ => rfl)
    intro _
    apply ite_congr rfl (fun _ => rfl)
    intro _
    apply ite_congr rfl (fun same => absurd same notTime.1)
    intro _
    exact ite_congr rfl (fun same => absurd same notTime.2) fun _ => rfl

theorem readItem_congr {item other : Item} (same : item.use = other.use)
    (reading : Reading) :
    readItem chrono source path reading item =
      readItem chrono source path reading other := by
  cases item with
  | opens component =>
      cases other with
      | opens => rw [LineUse.opens.inj same]
      | closes => cases same
      | property => cases same
  | closes component =>
      cases other with
      | opens => cases same
      | closes => rw [LineUse.closes.inj same]
      | property => cases same
  | property key value =>
      cases other with
      | opens => cases same
      | closes => cases same
      | property other rest =>
          obtain ⟨name, params, rfl⟩ := LineUse.property.inj same
          have params : isTime (propertyName key) = true →
              parameters key = parameters other := by
            intro time
            rw [← name, if_pos time, if_pos time] at params
            exact Option.some.inj params
          rw [readItem, readItem, parseEventProperty_congr chrono name params]

/-- Lines of one use are read alike. -/
theorem readLine_congr {line other : Text} {use : LineUse}
    (first : lineUse line = some use) (second : lineUse other = some use)
    (reading : Reading) :
    readLine chrono source path reading line =
      readLine chrono source path reading other := by
  obtain ⟨⟨key, value⟩, divided, used⟩ := Option.map_eq_some_iff.mp first
  obtain ⟨⟨otherKey, otherValue⟩, otherDivided, otherUsed⟩ :=
    Option.map_eq_some_iff.mp second
  have shown {key value line : Text}
      (divided : splitOnce ':' line = some (key, value)) :
      line.all isWhitespace = false := by
    rw [(splitOnce_eq_some divided).1, List.all_append, List.all_cons]
    simp [show isWhitespace ':' = false by decide]
  rw [readLine, readLine, shown divided, shown otherDivided, divided,
    otherDivided]
  exact readItem_congr chrono source path (used.trans otherUsed.symm) reading

end Reading

/-! ### Content lines of files -/

theorem ParameterValue.control_free {value : ParameterValue} {char : Char}
    (found : char ∈ value.text) : ¬IsControl char := by
  cases value with
  | plain text safe => exact (safe char found).1
  | quoted text safe =>
      have inside : char = '"' ∨ char ∈ text := by
        simpa [ParameterValue.text, or_comm] using found
      rcases inside with rfl | inside
      · simp [IsControl]
      · exact (safe char inside).1

theorem IsName.control_free {name : Text} (named : IsName name) {char : Char}
    (found : char ∈ name) : char ≠ '\n' ∧ char ≠ '\r' := by
  constructor
  · rintro rfl
    exact named.not_mem (by decide) found
  · rintro rfl
    exact named.not_mem (by decide) found

theorem unbroken_of_control_free {text : Text}
    (free : ∀ char ∈ text, ¬IsControl char) : Unbroken text := by
  intro char found
  constructor
  · rintro rfl
    exact free _ found (by simp [IsControl])
  · rintro rfl
    exact free _ found (by simp [IsControl])

theorem Unbroken.cons {char : Char} {text : Text}
    (first : char ≠ '\n' ∧ char ≠ '\r') (unbroken : Unbroken text) :
    Unbroken (char :: text) :=
  List.forall_mem_cons.mpr ⟨first, unbroken⟩

theorem Unbroken.flatMap {Part : Type} {parts : List Part} {text : Part → Text}
    (each : ∀ part ∈ parts, Unbroken (text part)) :
    Unbroken (parts.flatMap text) := by
  intro char found
  obtain ⟨part, among, inside⟩ := List.mem_flatMap.mp found
  exact each part among char inside

theorem ParameterValue.unbroken (value : ParameterValue) :
    Unbroken value.text :=
  unbroken_of_control_free fun _ => ParameterValue.control_free

theorem Parameter.unbroken (parameter : Parameter) : Unbroken parameter.text := by
  have others : Unbroken
      (parameter.others.flatMap fun value => ',' :: value.text) :=
    Unbroken.flatMap fun value _ => .cons (by decide) value.unbroken
  have values : Unbroken parameter.valueText :=
    Unbroken.append_iff.mpr ⟨parameter.value.unbroken, others⟩
  exact Unbroken.append_iff.mpr
    ⟨fun _ => parameter.named.control_free, .cons (by decide) values⟩

theorem ContentLine.unbroken (line : ContentLine) : Unbroken line.text := by
  have parameters : Unbroken (parametersText line.parameters) :=
    Unbroken.flatMap fun parameter _ => .cons (by decide) parameter.unbroken
  have key : Unbroken line.key :=
    Unbroken.append_iff.mpr ⟨fun _ => line.named.control_free, parameters⟩
  exact Unbroken.append_iff.mpr
    ⟨key, .cons (by decide) (unbroken_of_control_free line.safe)⟩

theorem ContentLine.not_blank (line : ContentLine) :
    ∃ char, line.text.head? = some char ∧ isFold char = false := by
  obtain ⟨char, rest, equal⟩ := List.exists_cons_of_ne_nil line.named.1
  have head : line.text.head? = some char := by
    simp [ContentLine.text, ContentLine.key, equal]
  have notBlank : isFold char ≠ true := by
    intro blank
    have found : char ∈ line.name := by simp [equal]
    rcases isFold_iff.mp blank with rfl | rfl
    · exact line.named.not_mem (by decide) found
    · exact line.named.not_mem (by decide) found
  exact ⟨char, head, Bool.eq_false_iff.mpr notBlank⟩

/-- What a file says is the same wherever the line is folded. -/
def ContentLine.FoldsAway (line : ContentLine) : Prop :=
  ∀ (Date Moment Zone : Type) (chrono : Chrono Date Moment Zone)
    (source : CalendarSource) (path before : Text) (tail : Tail)
    (folding : Folding), StartsLine before → folding.line = line.text →
      parseCalendar chrono source path (before ++ folding.text ++ tail.text) =
        parseCalendar chrono source path (before ++ line.text ++ tail.text)

theorem ContentLine.foldsAway (line : ContentLine) : line.FoldsAway := by
  intro Date Moment Zone chrono source path before tail folding starts same
  have whole (other : Folding) (equal : other.line = line.text) :
      unfoldLines (before ++ other.text ++ tail.text) =
        tail.lines.foldl unfoldLine (unfoldLines before ++ [line.text]) := by
    rw [← equal]
    apply unfoldLines_folding starts
    · rw [equal]
      exact line.unbroken
    · rw [equal]
      exact line.not_blank
  have flat : (Folding.mk line.text []).line = line.text := List.append_nil _
  have unfolded := whole ⟨line.text, []⟩ flat
  rw [show (Folding.mk line.text []).text = line.text from List.append_nil _]
    at unfolded
  rw [parseCalendar, parseCalendar, whole folding same, unfolded]

/-- A content line is used by its own name, parameters and value, wherever it
is folded, if and only if it is separable. -/
theorem ContentLine.read_as_written_iff (line : ContentLine) :
    (lineUse line.text = some line.use ∧ line.FoldsAway) ↔
      line.Separable := by
  constructor
  · rintro ⟨used, _⟩
    exact separable_of_use used
  · intro separable
    exact ⟨lineUse_of_separable separable, line.foldsAway⟩

/-- A summary with the place of its rich text. -/
def altrepLine : ContentLine where
  name := "SUMMARY".toList
  named := ⟨by decide, forall_mem_of_all (by decide)⟩
  parameters := [{
    name := "ALTREP".toList
    named := ⟨by decide, forall_mem_of_all (by decide)⟩
    value := .quoted "cid:part".toList (forall_mem_of_all (by decide))
    others := [] }]
  value := "Hello".toList
  safe := forall_mem_of_all (by decide)

/-- Dates and times of a file with the moment 2026-01-15 09:00:00 only. -/
def oneMoment : Chrono Unit Unit Unit where
  date _ := .error ["input contains invalid characters"]
  midnightMs _ := 0
  showDate _ := []
  dayAfter _ := none
  moment text :=
    if text = "20260115T090000".toList then .ok ()
    else .error ["input contains invalid characters"]
  shortMoment _ := .error ["input contains invalid characters"]
  utcMs _ := 1768467600000
  zone _ := .error ["failed to parse timezone"]
  zoneName _ := []
  localMs _ _ := none
  systemZone := none

/-- The summary of a meeting begins in the middle of its parameter. -/
theorem summary_of_altrep :
    splitUnquoted false altrepLine.text =
      some ("SUMMARY;ALTREP=\"cid:part\"".toList, "Hello".toList) ∧
    altrepLine.use = .property "SUMMARY".toList none "Hello".toList ∧
    lineUse altrepLine.text =
      some (.property "SUMMARY".toList none "part\":Hello".toList) ∧
    (parseCalendar oneMoment ⟨"work".toList, [], []⟩ "a.ics".toList
        ("BEGIN:VCALENDAR\nBEGIN:VEVENT\n".toList ++ altrepLine.text ++
          ("\nDTSTART:20260115T090000Z\nEND:VEVENT\n" ++
            "END:VCALENDAR\n").toList)).map (·.map ActivityEvent.title) =
      .ok ["part\":Hello".toList] :=
  ⟨by decide, by decide, by decide, by decide +kernel⟩

end BarDaemon.Calendars
