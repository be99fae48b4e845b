import Mathlib.Data.List.Basic

/-!
# Texts as lists of characters

Searching, splitting and replacing in a text, as the methods of `str` do it
on its characters.
-/

namespace BarDaemon.CharacterLists

abbrev Text := List Char

/-! ### Splitting -/

/-- `str::split_once` with a character. -/
def splitOnce (separator : Char) : Text → Option (Text × Text)
  | [] => none
  | char :: rest =>
      if char = separator then some ([], rest)
      else (splitOnce separator rest).map fun parts =>
        (char :: parts.1, parts.2)

/-- `str::split` with a character; there is always a first part. -/
def split (separator : Char) : Text → List Text
  | [] => [[]]
  | char :: rest =>
      if char = separator then [] :: split separator rest
      else
        match split separator rest with
        | [] => [[char]]
        | part :: parts => (char :: part) :: parts

/-- A property of all characters, as it is tested. -/
theorem forall_mem_of_all {P : Char → Prop} [DecidablePred P] {text : Text}
    (all : (text.all fun char => decide (P char)) = true) :
    ∀ char ∈ text, P char :=
  fun char among => of_decide_eq_true (List.all_eq_true.mp all char among)

theorem splitOnce_append {separator : Char} {first : Text}
    (absent : separator ∉ first) (rest : Text) :
    splitOnce separator (first ++ separator :: rest) = some (first, rest) := by
  induction first with
  | nil => simp [splitOnce]
  | cons char first ih =>
      obtain ⟨different, later⟩ := List.ne_and_not_mem_of_not_mem_cons absent
      simp [splitOnce, Ne.symm different, ih later]

/-- The first part ends before the first separator. -/
theorem splitOnce_eq_some {separator : Char} {text first rest : Text}
    (divided : splitOnce separator text = some (first, rest)) :
    text = first ++ separator :: rest ∧ separator ∉ first := by
  induction text generalizing first with
  | nil => cases divided
  | cons char text ih =>
      unfold splitOnce at divided
      split at divided
      · rename_i same
        cases divided
        subst same
        exact ⟨rfl, List.not_mem_nil⟩
      · rename_i different
        obtain ⟨⟨start, others⟩, inner, equal⟩ :=
          Option.map_eq_some_iff.mp divided
        cases equal
        obtain ⟨rfl, absent⟩ := ih inner
        exact ⟨rfl, List.not_mem_cons_of_ne_of_not_mem (Ne.symm different)
          absent⟩

theorem split_of_not_mem {separator : Char} {text : Text}
    (absent : separator ∉ text) : split separator text = [text] := by
  induction text with
  | nil => rfl
  | cons char text ih =>
      obtain ⟨different, later⟩ := List.ne_and_not_mem_of_not_mem_cons absent
      simp [split, Ne.symm different, ih later]

theorem split_ne_nil (separator : Char) (text : Text) :
    split separator text ≠ [] := by
  cases text with
  | nil => exact List.cons_ne_nil _ _
  | cons char text =>
      unfold split
      split
      · exact List.cons_ne_nil _ _
      · split <;> exact List.cons_ne_nil _ _

/-- The parts of two texts with a separator between them. -/
theorem split_append (separator : Char) (first rest : Text) :
    split separator (first ++ separator :: rest) =
      split separator first ++ split separator rest := by
  induction first with
  | nil => simp [split]
  | cons char first ih =>
      by_cases same : char = separator
      · simp [split, same, ih]
      · cases parts : split separator first with
        | nil => exact absurd parts (split_ne_nil separator first)
        | cons part others => simp [split, same, ih, parts]

theorem not_mem_of_mem_split {separator : Char} {text part : Text}
    (found : part ∈ split separator text) : separator ∉ part := by
  induction text generalizing part with
  | nil =>
      obtain rfl := List.mem_singleton.mp found
      exact List.not_mem_nil
  | cons char text ih =>
      unfold split at found
      split at found
      · rcases List.mem_cons.mp found with rfl | later
        · exact List.not_mem_nil
        · exact ih later
      · rename_i different
        split at found
        · rename_i none
          exact absurd none (split_ne_nil separator text)
        · rename_i first others equal
          rw [equal] at ih
          rcases List.mem_cons.mp found with rfl | later
          · exact List.not_mem_cons_of_ne_of_not_mem (Ne.symm different)
              (ih List.mem_cons_self)
          · exact ih (List.mem_cons_of_mem _ later)

/-! ### Replacing -/

/-- `str::replace` of a pair of characters by a single one. -/
def replacePair (first second by_ : Char) : Text → Text
  | char :: next :: rest =>
      if char = first ∧ next = second then
        by_ :: replacePair first second by_ rest
      else char :: replacePair first second by_ (next :: rest)
  | [char] => [char]
  | [] => []

section Replacing

variable {first second by_ : Char}

theorem replacePair_pair (rest : Text) :
    replacePair first second by_ (first :: second :: rest) =
      by_ :: replacePair first second by_ rest := by
  simp [replacePair]

theorem replacePair_cons_of_ne {char : Char} (different : char ≠ first)
    (rest : Text) :
    replacePair first second by_ (char :: rest) =
      char :: replacePair first second by_ rest := by
  cases rest with
  | nil => rfl
  | cons next rest => simp [replacePair, different]

theorem replacePair_cons_of_head {rest : Text} {char : Char}
    (other : rest.head? ≠ some second) :
    replacePair first second by_ (char :: rest) =
      char :: replacePair first second by_ rest := by
  cases rest with
  | nil => rfl
  | cons next rest =>
      have different : next ≠ second := fun same => other (by rw [same]; rfl)
      simp [replacePair, different]

/-- A replacement is the only new first character. -/
theorem replacePair_head_ne {char : Char} (other : char ≠ by_) {text : Text}
    (head : text.head? ≠ some char) :
    (replacePair first second by_ text).head? ≠ some char := by
  intro same
  unfold replacePair at same
  split at same
  · split at same
    · exact other (Option.some.inj same).symm
    · exact head same
  · exact head same
  · cases same

end Replacing

/-! ### Lines -/

/-- `str::lines` -/
def lines : Text → List Text
  | [] => []
  | '\n' :: rest => [] :: lines rest
  | '\r' :: '\n' :: rest => [] :: lines rest
  | char :: rest =>
      match lines rest with
      | [] => [[char]]
      | line :: others => (char :: line) :: others

/-- A line ends with a line feed, or with one that follows a carriage
return. -/
inductive LineEnd
  | lf
  | crlf
deriving DecidableEq, Repr

def LineEnd.text : LineEnd → Text
  | .lf => ['\n']
  | .crlf => ['\r', '\n']

theorem lines_end (ending : LineEnd) (rest : Text) :
    lines (ending.text ++ rest) = [] :: lines rest := by
  cases ending <;> rfl

theorem lines_char {char : Char} {rest : Text} (notFeed : char ≠ '\n')
    (notEnd : char = '\r' → rest.head? ≠ some '\n') :
    lines (char :: rest) =
      match lines rest with
      | [] => [[char]]
      | line :: others => (char :: line) :: others := by
  conv_lhs => unfold lines
  split
  · rename_i never
    cases never
  · rename_i same
    cases same
    exact absurd rfl notFeed
  · rename_i same
    cases same
    exact absurd rfl (notEnd rfl)
  · rename_i same
    cases same
    rfl

theorem lines_ne_nil {text : Text} (some_ : text ≠ []) : lines text ≠ [] := by
  unfold lines
  split
  · exact absurd rfl some_
  · exact List.cons_ne_nil _ _
  · exact List.cons_ne_nil _ _
  · split <;> exact List.cons_ne_nil _ _

/-- A line holds no line feed. -/
theorem not_mem_of_mem_lines {text line : Text} (found : line ∈ lines text) :
    '\n' ∉ line := by
  induction text using lines.induct generalizing line with
  | case1 => exact absurd found List.not_mem_nil
  | case2 rest ih =>
      rcases List.mem_cons.mp found with rfl | later
      · exact List.not_mem_nil
      · exact ih later
  | case3 rest ih =>
      rcases List.mem_cons.mp found with rfl | later
      · exact List.not_mem_nil
      · exact ih later
  | case4 char rest notFeed notEnd none ih =>
      rw [lines_char notFeed (not_ends notEnd), none] at found
      obtain rfl := List.mem_singleton.mp found
      exact List.not_mem_cons_of_ne_of_not_mem (Ne.symm notFeed)
        List.not_mem_nil
  | case5 char rest notFeed notEnd part parts whole ih =>
      rw [whole] at ih
      rw [lines_char notFeed (not_ends notEnd), whole] at found
      rcases List.mem_cons.mp found with rfl | later
      · exact List.not_mem_cons_of_ne_of_not_mem (Ne.symm notFeed)
          (ih List.mem_cons_self)
      · exact ih (List.mem_cons_of_mem _ later)
where
  not_ends {char : Char} {rest : Text}
      (notEnd : ∀ others, char = '\r' → rest = '\n' :: others → False) :
      char = '\r' → rest.head? ≠ some '\n' := by
    intro isReturn head
    obtain ⟨others, same⟩ := List.head?_eq_some_iff.mp head
    exact notEnd others isReturn same

/-- The lines up to a line feed do not depend on what follows it. -/
theorem lines_feed (text rest : Text) :
    lines (text ++ '\n' :: rest) = lines (text ++ ['\n']) ++ lines rest := by
  induction text with
  | nil => rfl
  | cons char text ih =>
      by_cases feed : char = '\n'
      · subst feed
        exact congrArg (List.cons []) ih
      · by_cases ends : char = '\r' ∧ text.head? = some '\n'
        · obtain ⟨rfl, head⟩ := ends
          obtain ⟨text, rfl⟩ := List.head?_eq_some_iff.mp head
          exact ih
        · by_cases last : char = '\r' ∧ text = []
          · obtain ⟨rfl, rfl⟩ := last
            rfl
          · have notEnd (others : Text) :
                char = '\r' → (text ++ '\n' :: others).head? ≠ some '\n' := by
              intro isReturn
              cases text with
              | nil => exact absurd ⟨isReturn, rfl⟩ last
              | cons next text =>
                  exact fun head => ends ⟨isReturn, head⟩
            have some_ : lines (text ++ ['\n']) ≠ [] :=
              lines_ne_nil (List.append_ne_nil_of_right_ne_nil _
                (List.cons_ne_nil _ _))
            rw [List.cons_append, List.cons_append,
              lines_char feed (notEnd rest), lines_char feed (notEnd []), ih]
            cases parts : lines (text ++ ['\n']) with
            | nil => exact absurd parts some_
            | cons line others => rfl

/-- A line is found before its end, which takes a carriage return from it. -/
theorem lines_ended {line : Text} (noFeed : '\n' ∉ line) (ending : LineEnd)
    (whole : ending = .lf → line.getLast? ≠ some '\r') (rest : Text) :
    lines (line ++ ending.text ++ rest) = line :: lines rest := by
  induction line with
  | nil => exact lines_end ending rest
  | cons char line ih =>
      obtain ⟨notFeed, noFeed⟩ := List.ne_and_not_mem_of_not_mem_cons noFeed
      have later : ending = .lf → line.getLast? ≠ some '\r' := by
        intro same last
        apply whole same
        rw [List.getLast?_cons, last]
        rfl
      have notEnd : char = '\r' →
          (line ++ ending.text ++ rest).head? ≠ some '\n' := by
        intro isReturn
        cases line with
        | cons next line =>
            intro same
            cases same
            exact noFeed List.mem_cons_self
        | nil =>
            cases ending with
            | crlf => exact fun never => nomatch never
            | lf => exact absurd (congrArg some isReturn) (whole rfl)
      rw [List.cons_append, List.cons_append, lines_char (Ne.symm notFeed) notEnd,
        ih noFeed later]

/-- A line without line breaks is found before its end. -/
theorem lines_append {line : Text} (noFeed : '\n' ∉ line)
    (noReturn : '\r' ∉ line) (ending : LineEnd) (rest : Text) :
    lines (line ++ ending.text ++ rest) = line :: lines rest :=
  lines_ended noFeed ending
    (fun _ last => noReturn (List.mem_of_getLast? last)) rest

/-- What follows a line: the end of the text, or a line end and more. -/
inductive Tail
  | stop
  | ended (ending : LineEnd) (rest : Text)
deriving DecidableEq, Repr

def Tail.text : Tail → Text
  | .stop => []
  | .ended ending rest => ending.text ++ rest

def Tail.lines : Tail → List Text
  | .stop => []
  | .ended _ rest => CharacterLists.lines rest

/-- An empty line is found only before a line end. -/
theorem lines_tail {line : Text} (noFeed : '\n' ∉ line) (noReturn : '\r' ∉ line)
    (tail : Tail) (shown : tail = .stop → line ≠ []) :
    lines (line ++ tail.text) = line :: tail.lines := by
  cases tail with
  | ended ending rest =>
      rw [Tail.text, ← List.append_assoc]
      exact lines_append noFeed noReturn ending rest
  | stop =>
      rw [Tail.text, List.append_nil, Tail.lines]
      induction line with
      | nil => exact absurd rfl (shown rfl)
      | cons char line ih =>
          obtain ⟨notFeed, noFeed⟩ := List.ne_and_not_mem_of_not_mem_cons noFeed
          obtain ⟨notReturn, noReturn⟩ :=
            List.ne_and_not_mem_of_not_mem_cons noReturn
          rw [lines_char (Ne.symm notFeed)
            fun same => absurd same (Ne.symm notReturn)]
          by_cases last : line = []
          · rw [last]
            rfl
          · rw [ih noFeed noReturn fun _ => last]

end BarDaemon.CharacterLists
