import BarDaemon.CalendarEvents

/-!
# Content lines

A content line is a name, parameters and a value. Here is what the reader
uses of one, and which lines it takes apart as they were written.
-/

namespace BarDaemon.Calendars

open CharacterLists FallibleSteps

/-! ### Well-formed lines -/

def IsControl (char : Char) : Prop :=
  char ≠ '\t' ∧ char.val < 32 ∨ char.val = 127

instance : DecidablePred IsControl :=
  fun _ => inferInstanceAs (Decidable (_ ∨ _))

def IsName (text : Text) : Prop :=
  text ≠ [] ∧ ∀ char ∈ text, char.isAlphanum ∨ char = '-'

inductive ParameterValue
  | plain (text : Text) (safe : ∀ char ∈ text,
      ¬IsControl char ∧ char ≠ '"' ∧ char ≠ ';' ∧ char ≠ ':' ∧ char ≠ ',')
  | quoted (text : Text) (safe : ∀ char ∈ text, ¬IsControl char ∧ char ≠ '"')

def ParameterValue.text : ParameterValue → Text
  | .plain text _ => text
  | .quoted text _ => '"' :: text ++ ['"']

structure Parameter where
  name : Text
  named : IsName name
  value : ParameterValue
  /-- More values, each after a comma. -/
  others : List ParameterValue

def Parameter.values (parameter : Parameter) : List ParameterValue :=
  parameter.value :: parameter.others

def Parameter.valueText (parameter : Parameter) : Text :=
  parameter.value.text ++ parameter.others.flatMap fun value =>
    ',' :: value.text

def Parameter.text (parameter : Parameter) : Text :=
  parameter.name ++ '=' :: parameter.valueText

structure ContentLine where
  name : Text
  named : IsName name
  parameters : List Parameter
  value : Text
  safe : ∀ char ∈ value, ¬IsControl char

def parametersText (parameters : List Parameter) : Text :=
  parameters.flatMap fun parameter => ';' :: parameter.text

def ContentLine.key (line : ContentLine) : Text :=
  line.name ++ parametersText line.parameters

def ContentLine.text (line : ContentLine) : Text :=
  line.key ++ ':' :: line.value

/-- The text before and after the first colon outside of double quotes. -/
def splitUnquoted (quoted : Bool) : Text → Option (Text × Text)
  | [] => none
  | char :: rest =>
      if char = ':' ∧ quoted = false then some ([], rest)
      else (splitUnquoted (quoted ^^ (char == '"')) rest).map fun parts =>
        (char :: parts.1, parts.2)

theorem IsName.not_mem {name : Text} (named : IsName name) {char : Char}
    (other : ¬(char.isAlphanum ∨ char = '-')) : char ∉ name :=
  fun found => other (named.2 char found)

section Quotes

variable {rest : Text} {parts : Text × Text}

theorem splitUnquoted_plain (text : Text) (quoted : Bool)
    (plain : ∀ char ∈ text, char ≠ '"' ∧ (quoted = false → char ≠ ':'))
    (divided : splitUnquoted quoted rest = some parts) :
    splitUnquoted quoted (text ++ rest) = some (text ++ parts.1, parts.2) := by
  induction text with
  | nil => exact divided
  | cons char text ih =>
      obtain ⟨⟨notQuote, notColon⟩, others⟩ := List.forall_mem_cons.mp plain
      have inside : ¬(char = ':' ∧ quoted = false) :=
        fun ends => notColon ends.2 ends.1
      have same : (quoted ^^ (char == '"')) = quoted := by
        rw [beq_eq_false_iff_ne.mpr notQuote, Bool.xor_false]
      rw [List.cons_append, splitUnquoted, if_neg inside, same, ih others]
      rfl

theorem splitUnquoted_quote (quoted : Bool)
    (divided : splitUnquoted (!quoted) rest = some parts) :
    splitUnquoted quoted ('"' :: rest) = some ('"' :: parts.1, parts.2) := by
  have inside : ¬('"' = ':' ∧ quoted = false) := fun ends => by
    cases ends.1
  rw [splitUnquoted, if_neg inside, beq_self_eq_true, Bool.xor_true, divided]
  rfl

theorem splitUnquoted_value (value : ParameterValue)
    (divided : splitUnquoted false rest = some parts) :
    splitUnquoted false (value.text ++ rest) =
      some (value.text ++ parts.1, parts.2) := by
  cases value with
  | plain text safe =>
      apply splitUnquoted_plain _ false _ divided
      intro char found
      obtain ⟨_, notQuote, _, notColon, _⟩ := safe char found
      exact ⟨notQuote, fun _ => notColon⟩
  | quoted text safe =>
      have closed : splitUnquoted true ('"' :: rest) =
          some ('"' :: parts.1, parts.2) :=
        splitUnquoted_quote true divided
      have inner := splitUnquoted_plain text true
        (fun char found => ⟨(safe char found).2, nofun⟩) closed
      have whole := splitUnquoted_quote false inner
      simpa [ParameterValue.text] using whole

theorem splitUnquoted_cons (char : Char) (plain : char ≠ '"' ∧ char ≠ ':')
    (divided : splitUnquoted false rest = some parts) :
    splitUnquoted false (char :: rest) = some (char :: parts.1, parts.2) :=
  splitUnquoted_plain [char] false
    (fun _ found => by
      obtain rfl := List.mem_singleton.mp found
      exact ⟨plain.1, fun _ => plain.2⟩) divided

theorem splitUnquoted_values (values : List ParameterValue)
    (divided : splitUnquoted false rest = some parts) :
    splitUnquoted false ((values.flatMap fun value => ',' :: value.text) ++ rest) =
      some ((values.flatMap fun value => ',' :: value.text) ++ parts.1,
        parts.2) := by
  induction values with
  | nil => exact divided
  | cons value values ih =>
      have whole := splitUnquoted_cons ',' (by decide)
        (splitUnquoted_value value ih)
      simpa using whole

theorem splitUnquoted_name {name : Text} (named : IsName name)
    (divided : splitUnquoted false rest = some parts) :
    splitUnquoted false (name ++ rest) = some (name ++ parts.1, parts.2) := by
  apply splitUnquoted_plain _ false _ divided
  intro char found
  constructor
  · rintro rfl
    exact named.not_mem (by decide) found
  · rintro _ rfl
    exact named.not_mem (by decide) found

theorem splitUnquoted_parameters (parameters : List Parameter)
    (divided : splitUnquoted false rest = some parts) :
    splitUnquoted false (parametersText parameters ++ rest) =
      some (parametersText parameters ++ parts.1, parts.2) := by
  induction parameters with
  | nil => exact divided
  | cons parameter parameters ih =>
      have values := splitUnquoted_value parameter.value
        (splitUnquoted_values parameter.others ih)
      have whole := splitUnquoted_cons ';' (by decide)
        (splitUnquoted_name parameter.named
          (splitUnquoted_cons '=' (by decide) values))
      simpa [parametersText, Parameter.text, Parameter.valueText] using whole

end Quotes

/-- The value of a content line is what follows the first colon outside of
double quotes. -/
theorem ContentLine.splitUnquoted_text (line : ContentLine) :
    splitUnquoted false line.text = some (line.key, line.value) := by
  have colon : splitUnquoted false (':' :: line.value) =
      some ([], line.value) := rfl
  have whole := splitUnquoted_name line.named
    (splitUnquoted_parameters line.parameters colon)
  simpa [ContentLine.text, ContentLine.key] using whole

/-! ### What a line is used for -/

inductive LineUse
  | opens (component : Text)
  | closes (component : Text)
  /-- Of the parameters, only those of times are used. -/
  | property (name : Text) (parameters : Option (List (Text × Text)))
      (value : Text)
deriving DecidableEq, Repr

/-- Whether a property is a time, in upper case. -/
def isTime (name : Text) : Bool :=
  name = "DTSTART".toList ∨ name = "DTEND".toList

/-- What a line is used for, by its name, parameters and value. -/
def useOf (name : Text) (parameters : List (Text × Text)) (value : Text) :
    LineUse :=
  .property name (if isTime name then some parameters else none) value

/-- What the reader uses an item for. -/
def Item.use : Item → LineUse
  | .opens component => .opens component
  | .closes component => .closes component
  | .property key value => useOf (propertyName key) (parameters key) value

/-- What the reader uses a line for. -/
def lineUse (line : Text) : Option LineUse :=
  (splitOnce ':' line).map fun parts => (itemOf parts.1 parts.2).use

/-- What a content line is for: the names compare without case. -/
def ContentLine.use (line : ContentLine) : LineUse :=
  if upper line.name = "BEGIN".toList then .opens line.value
  else if upper line.name = "END".toList then .closes line.value
  else useOf (upper line.name)
    (line.parameters.map fun parameter =>
      (parameter.name, parameter.valueText))
    line.value

/-! ### What the reader takes apart as written -/

def ParameterValue.quotedText : ParameterValue → Option Text
  | .plain _ _ => none
  | .quoted text _ => some text

/-- The texts of the quoted values of a line. -/
def ContentLine.quotedTexts (line : ContentLine) : List Text :=
  line.parameters.flatMap fun parameter =>
    parameter.values.filterMap ParameterValue.quotedText

/-- Quoted values have no colon, those of times no semicolon, and the lines
that delimit components have no parameters. -/
structure ContentLine.Separable (line : ContentLine) : Prop where
  colons : ∀ text ∈ line.quotedTexts, ':' ∉ text
  semicolons : isTime (upper line.name) = true →
    ∀ text ∈ line.quotedTexts, ';' ∉ text
  delimiters : upper line.name = "BEGIN".toList ∨
    upper line.name = "END".toList → line.parameters = []

/-- A colon or semicolon of a value is one of its quoted text. -/
theorem ParameterValue.mem_text {char : Char} (separates : char = ':' ∨ char = ';')
    (value : ParameterValue) :
    char ∈ value.text ↔ ∃ text, value.quotedText = some text ∧ char ∈ text := by
  cases value with
  | plain text safe =>
      constructor
      · intro found
        obtain ⟨_, _, notSemicolon, notColon, _⟩ := safe char found
        exact separates.elim (absurd · notColon) (absurd · notSemicolon)
      · rintro ⟨_, never, _⟩
        cases never
  | quoted text safe =>
      have notQuote : char ≠ '"' := by
        rcases separates with rfl | rfl <;> decide
      simp [ParameterValue.text, ParameterValue.quotedText, notQuote]

theorem Parameter.mem_valueText {char : Char}
    (separates : char = ':' ∨ char = ';') (parameter : Parameter) :
    char ∈ parameter.valueText ↔
      ∃ text ∈ parameter.values.filterMap ParameterValue.quotedText,
        char ∈ text := by
  have notComma : char ≠ ',' := by
    rcases separates with rfl | rfl <;> decide
  simp only [Parameter.valueText, Parameter.values, List.mem_append,
    List.mem_flatMap, List.mem_cons, notComma, false_or, List.mem_filterMap,
    ParameterValue.mem_text separates]
  constructor
  · rintro (⟨text, quoted, found⟩ | ⟨value, among, text, quoted, found⟩)
    · exact ⟨text, ⟨_, .inl rfl, quoted⟩, found⟩
    · exact ⟨text, ⟨value, .inr among, quoted⟩, found⟩
  · rintro ⟨text, ⟨value, rfl | among, quoted⟩, found⟩
    · exact .inl ⟨text, quoted, found⟩
    · exact .inr ⟨value, among, text, quoted, found⟩

theorem Parameter.mem_text {char : Char} (separates : char = ':' ∨ char = ';')
    (parameter : Parameter) :
    char ∈ parameter.text ↔
      ∃ text ∈ parameter.values.filterMap ParameterValue.quotedText,
        char ∈ text := by
  have notName : char ∉ parameter.name := by
    apply parameter.named.not_mem
    rcases separates with rfl | rfl <;> decide
  have notEqual : char ≠ '=' := by
    rcases separates with rfl | rfl <;> decide
  rw [← parameter.mem_valueText separates]
  simp [Parameter.text, notName, notEqual]

theorem ContentLine.colon_mem_key (line : ContentLine) :
    ':' ∈ line.key ↔ ∃ text ∈ line.quotedTexts, ':' ∈ text := by
  have notName : ':' ∉ line.name := line.named.not_mem (by decide)
  simp only [ContentLine.key, parametersText, ContentLine.quotedTexts,
    List.mem_append, notName, false_or, List.mem_flatMap, List.mem_cons,
    show ':' ≠ ';' by decide, Parameter.mem_text (.inl rfl)]
  constructor
  · rintro ⟨parameter, among, text, quoted, found⟩
    exact ⟨text, ⟨parameter, among, quoted⟩, found⟩
  · rintro ⟨text, ⟨parameter, among, quoted⟩, found⟩
    exact ⟨parameter, among, text, quoted, found⟩

/-! ### Parts of the key -/

theorem split_key (first : Text) (parameters : List Parameter) :
    split ';' (first ++ parametersText parameters) =
      split ';' first ++
        parameters.flatMap fun parameter => split ';' parameter.text := by
  induction parameters generalizing first with
  | nil => simp [parametersText]
  | cons parameter parameters ih =>
      calc split ';' (first ++ parametersText (parameter :: parameters))
        _ = split ';' (first ++ ';' ::
              (parameter.text ++ parametersText parameters)) := by
            simp [parametersText]
        _ = split ';' first ++ (split ';' parameter.text ++
              parameters.flatMap fun other => split ';' other.text) := by
            rw [split_append, ih]
        _ = _ := by rw [List.flatMap_cons]

theorem ContentLine.split_key (line : ContentLine) :
    split ';' line.key =
      line.name :: line.parameters.flatMap fun parameter =>
        split ';' parameter.text := by
  rw [ContentLine.key, Calendars.split_key,
    split_of_not_mem (line.named.not_mem (by decide))]
  rfl

theorem ContentLine.propertyName_key (line : ContentLine) :
    propertyName line.key = upper line.name := by
  rw [propertyName, line.split_key]
  rfl

theorem ContentLine.parameters_key (line : ContentLine) :
    Calendars.parameters line.key =
      (line.parameters.flatMap fun parameter =>
        split ';' parameter.text).filterMap (splitOnce '=') := by
  rw [Calendars.parameters, line.split_key]
  rfl

theorem Parameter.splitOnce_text (parameter : Parameter) :
    splitOnce '=' parameter.text =
      some (parameter.name, parameter.valueText) :=
  splitOnce_append (parameter.named.not_mem (by decide)) _

/-- The parameters that the reader finds are those of the line when there is
no quoted semicolon. -/
theorem ContentLine.parameters_key_iff (line : ContentLine) :
    Calendars.parameters line.key = line.parameters.map (fun parameter =>
        (parameter.name, parameter.valueText)) ↔
      ∀ text ∈ line.quotedTexts, ';' ∉ text := by
  rw [line.parameters_key]
  constructor
  · intro same text quoted found
    obtain ⟨parameter, among, quoted⟩ := List.mem_flatMap.mp quoted
    have written : (parameter.name, parameter.valueText) ∈
        line.parameters.map fun parameter =>
          (parameter.name, parameter.valueText) :=
      List.mem_map_of_mem among
    rw [← same] at written
    -- What stands between semicolons has none.
    obtain ⟨part, among, divided⟩ := List.mem_filterMap.mp written
    obtain ⟨_, _, among⟩ := List.mem_flatMap.mp among
    apply not_mem_of_mem_split among
    rw [(splitOnce_eq_some divided).1]
    exact List.mem_append_right _ (List.mem_cons_of_mem _
      ((parameter.mem_valueText (.inr rfl)).mpr ⟨text, quoted, found⟩))
  · intro none
    have whole : ∀ parameter ∈ line.parameters,
        split ';' parameter.text = [parameter.text] := by
      intro parameter among
      apply split_of_not_mem
      rw [parameter.mem_text (.inr rfl)]
      rintro ⟨text, quoted, found⟩
      exact none text (List.mem_flatMap.mpr ⟨parameter, among, quoted⟩) found
    generalize line.parameters = parameters at whole
    induction parameters with
    | nil => rfl
    | cons parameter parameters ih =>
        obtain ⟨first, others⟩ := List.forall_mem_cons.mp whole
        rw [List.flatMap_cons, first, List.singleton_append,
          List.filterMap_cons_some parameter.splitOnce_text, ih others,
          List.map_cons]

theorem upper_append (first second : Text) :
    upper (first ++ second) = upper first ++ upper second :=
  List.map_append

/-- A key with parameters is not the name of a delimiter. -/
theorem ContentLine.upper_key_ne {line : ContentLine}
    (given : line.parameters ≠ []) {word : Text} (plain : ';' ∉ word) :
    upper line.key ≠ word := by
  rintro rfl
  apply plain
  obtain ⟨parameter, others, equal⟩ := List.exists_cons_of_ne_nil given
  rw [ContentLine.key, equal, upper_append]
  exact List.mem_append_right _ List.mem_cons_self

theorem ContentLine.key_eq_name {line : ContentLine}
    (none : line.parameters = []) : line.key = line.name := by
  rw [ContentLine.key, none]
  exact List.append_nil _

/-! ### Uses -/

def LineUse.value : LineUse → Text
  | .opens component => component
  | .closes component => component
  | .property _ _ value => value

theorem ContentLine.use_value (line : ContentLine) :
    line.use.value = line.value := by
  unfold ContentLine.use
  split
  · rfl
  · split <;> rfl

theorem use_itemOf (key value : Text) :
    (itemOf key value).use =
      if upper key = "BEGIN".toList then .opens value
      else if upper key = "END".toList then .closes value
      else useOf (propertyName key) (parameters key) value := by
  unfold itemOf
  split
  · rfl
  · split <;> rfl

theorem ContentLine.lineUse_text {line : ContentLine}
    (colons : ∀ text ∈ line.quotedTexts, ':' ∉ text) :
    lineUse line.text = some (
      if upper line.key = "BEGIN".toList then .opens line.value
      else if upper line.key = "END".toList then .closes line.value
      else useOf (upper line.name) (Calendars.parameters line.key)
        line.value) := by
  have plain : ':' ∉ line.key := by
    rw [line.colon_mem_key]
    rintro ⟨text, quoted, found⟩
    exact colons text quoted found
  rw [lineUse, ContentLine.text, splitOnce_append plain, Option.map_some,
    use_itemOf, line.propertyName_key]

/-- A quoted colon ends the key too early: the value is too long. -/
theorem ContentLine.colons_of_use {line : ContentLine}
    (exact_ : lineUse line.text = some line.use) :
    ∀ text ∈ line.quotedTexts, ':' ∉ text := by
  intro text quoted found
  obtain ⟨first, more, divided, plain⟩ := List.eq_append_cons_of_mem
    (line.colon_mem_key.mpr ⟨text, quoted, found⟩)
  have whole : line.text = first ++ ':' :: (more ++ ':' :: line.value) := by
    simp [ContentLine.text, divided]
  have value : (lineUse line.text).map LineUse.value =
      some (more ++ ':' :: line.value) := by
    rw [lineUse, whole, splitOnce_append plain, Option.map_some,
      Option.map_some, use_itemOf]
    split
    · rfl
    · split <;> rfl
  rw [exact_, Option.map_some, line.use_value] at value
  have long := congrArg List.length (Option.some.inj value)
  simp only [List.length_append, List.length_cons] at long
  omega

theorem ContentLine.lineUse_of_separable {line : ContentLine}
    (separable : line.Separable) : lineUse line.text = some line.use := by
  rw [lineUse_text separable.colons, ContentLine.use]
  have words : ';' ∉ "BEGIN".toList ∧ ';' ∉ "END".toList := by decide
  by_cases given : line.parameters = []
  · rw [key_eq_name given, Calendars.parameters,
      split_of_not_mem (line.named.not_mem (by decide)), given]
    rfl
  · have name : upper line.name ≠ "BEGIN".toList ∧
        upper line.name ≠ "END".toList :=
      ⟨fun same => given (separable.delimiters (.inl same)),
        fun same => given (separable.delimiters (.inr same))⟩
    rw [if_neg (upper_key_ne given words.1), if_neg (upper_key_ne given words.2),
      if_neg name.1, if_neg name.2]
    by_cases time : isTime (upper line.name) = true
    · rw [line.parameters_key_iff.mpr (separable.semicolons time)]
    · simp [useOf, time]

theorem ContentLine.separable_of_use {line : ContentLine}
    (exact_ : lineUse line.text = some line.use) : line.Separable := by
  have colons := colons_of_use exact_
  rw [lineUse_text colons, ContentLine.use] at exact_
  have words : ';' ∉ "BEGIN".toList ∧ ';' ∉ "END".toList := by decide
  have delimiters : upper line.name = "BEGIN".toList ∨
      upper line.name = "END".toList → line.parameters = [] := by
    intro name
    by_contra given
    rw [if_neg (upper_key_ne given words.1),
      if_neg (upper_key_ne given words.2)] at exact_
    rcases name with name | name
    · rw [if_pos name] at exact_
      cases exact_
    · rw [if_neg (by rw [name]; decide), if_pos name] at exact_
      cases exact_
  constructor
  · exact colons
  · intro time
    by_cases given : line.parameters = []
    · intro text quoted
      simp [ContentLine.quotedTexts, given] at quoted
    · have name : upper line.name ≠ "BEGIN".toList ∧
          upper line.name ≠ "END".toList :=
        ⟨fun same => given (delimiters (.inl same)),
          fun same => given (delimiters (.inr same))⟩
      rw [if_neg (upper_key_ne given words.1),
        if_neg (upper_key_ne given words.2), if_neg name.1, if_neg name.2,
        useOf, useOf, if_pos time, if_pos time] at exact_
      injection exact_ with exact_
      injection exact_ with _ same _
      exact line.parameters_key_iff.mp (Option.some.inj same)
  · exact delimiters

end BarDaemon.Calendars
