import BarDaemon.CharacterLists

/-!
# Text of iCalendar files

Values are decoded by a chain of replacements.  Decoding undoes the escapes
unless a backslash of the text stands before an `n`.
-/

namespace BarDaemon.Calendars

open CharacterLists

/-- `decode_text` -/
def decodeText (value : Text) : Text :=
  replacePair '\\' '\\' '\\'
    (replacePair '\\' ';' ';'
      (replacePair '\\' ',' ','
        (replacePair '\\' 'N' '\n' (replacePair '\\' 'n' '\n' value))))

/-- The escapes of a TEXT value. -/
def escapeCharacter : Char → Text
  | '\\' => ['\\', '\\']
  | ',' => ['\\', ',']
  | ';' => ['\\', ';']
  | '\n' => ['\\', 'n']
  | char => [char]

def escapeText (text : Text) : Text :=
  text.flatMap escapeCharacter

/-- An `n` after a backslash is read as a line break. -/
def misread (backslash : Bool) : Text → Text
  | [] => []
  | char :: rest =>
      (if backslash ∧ (char = 'n' ∨ char = 'N') then '\n' else char) ::
        misread (char == '\\') rest

/-! ### One character at a time -/

theorem decodeText_cons {char : Char} (plain : char ≠ '\\') (rest : Text) :
    decodeText (char :: rest) = char :: decodeText rest := by
  simp only [decodeText, replacePair_cons_of_ne plain]

theorem decodeText_comma (rest : Text) :
    decodeText ('\\' :: ',' :: rest) = ',' :: decodeText rest := by
  simp [decodeText, replacePair, replacePair_cons_of_ne]

theorem decodeText_semicolon (rest : Text) :
    decodeText ('\\' :: ';' :: rest) = ';' :: decodeText rest := by
  simp [decodeText, replacePair, replacePair_cons_of_ne]

theorem decodeText_break (rest : Text) :
    decodeText ('\\' :: 'n' :: rest) = '\n' :: decodeText rest := by
  simp [decodeText, replacePair, replacePair_cons_of_ne]

/-- An escaped backslash before an `n` loses its first half. -/
theorem decodeText_backslash_n (rest : Text) :
    decodeText ('\\' :: '\\' :: 'n' :: rest) =
      '\\' :: '\n' :: decodeText rest := by
  simp [decodeText, replacePair, replacePair_cons_of_ne]

theorem decodeText_backslash_N (rest : Text) :
    decodeText ('\\' :: '\\' :: 'N' :: rest) =
      '\\' :: '\n' :: decodeText rest := by
  simp [decodeText, replacePair, replacePair_cons_of_ne]

/-- An escaped backslash is decoded where the next character is not taken for
the end of another escape. -/
theorem decodeText_backslash {rest : Text}
    (head : ∀ char ∈ ['n', 'N', ',', ';'], rest.head? ≠ some char) :
    decodeText ('\\' :: '\\' :: rest) = '\\' :: decodeText rest := by
  have backslash {char : Char} (other : char ≠ '\\') (text : Text) :
      ('\\' :: text : Text).head? ≠ some char :=
    fun same => other (Option.some.inj same).symm
  have second : (replacePair '\\' 'n' '\n' rest).head? ≠ some 'N' :=
    replacePair_head_ne (by decide) (head 'N' (by decide))
  have third : (replacePair '\\' 'N' '\n'
      (replacePair '\\' 'n' '\n' rest)).head? ≠ some ',' :=
    replacePair_head_ne (by decide)
      (replacePair_head_ne (by decide) (head ',' (by decide)))
  have fourth : (replacePair '\\' ',' ',' (replacePair '\\' 'N' '\n'
      (replacePair '\\' 'n' '\n' rest))).head? ≠ some ';' :=
    replacePair_head_ne (by decide) (replacePair_head_ne (by decide)
      (replacePair_head_ne (by decide) (head ';' (by decide))))
  unfold decodeText
  rw [replacePair_cons_of_head (backslash (by decide) _),
    replacePair_cons_of_head (head 'n' (by decide)),
    replacePair_cons_of_head (backslash (by decide) _),
    replacePair_cons_of_head second,
    replacePair_cons_of_head (backslash (by decide) _),
    replacePair_cons_of_head third,
    replacePair_cons_of_head (backslash (by decide) _),
    replacePair_cons_of_head fourth, replacePair_pair]

/-! ### Whole texts -/

theorem escapeText_cons (char : Char) (rest : Text) :
    escapeText (char :: rest) = escapeCharacter char ++ escapeText rest :=
  List.flatMap_cons

theorem escapeCharacter_of_plain {char : Char} (backslash : char ≠ '\\')
    (comma : char ≠ ',') (semicolon : char ≠ ';') (break_ : char ≠ '\n') :
    escapeCharacter char = [char] := by
  unfold escapeCharacter
  split <;> first | rfl | contradiction

/-- What an escape of another character cannot be taken for. -/
theorem escapeText_head_ne {text : Text} (notN : text.head? ≠ some 'n')
    (notUpper : text.head? ≠ some 'N') :
    ∀ char ∈ ['n', 'N', ',', ';'], (escapeText text).head? ≠ some char := by
  intro char listed
  cases text with
  | nil => exact fun never => nomatch never
  | cons first rest =>
      rw [escapeText_cons]
      unfold escapeCharacter
      intro same
      split at same <;> cases same <;> simp_all

theorem misread_of_head_ne {text : Text} (notN : text.head? ≠ some 'n')
    (notUpper : text.head? ≠ some 'N') :
    misread true text = misread false text := by
  cases text with
  | nil => rfl
  | cons char rest =>
      simp only [List.head?_cons, ne_eq, Option.some.injEq] at notN notUpper
      simp [misread, notN, notUpper]

/-- Decoding an escaped text reads it, with the error in question. -/
theorem decodeText_escapeText (text : Text) :
    decodeText (escapeText text) = misread false text ∧
      decodeText ('\\' :: '\\' :: escapeText text) =
        '\\' :: misread true text := by
  induction text with
  | nil => exact ⟨rfl, rfl⟩
  | cons char rest ih =>
      obtain ⟨alone, behind⟩ := ih
      have read : decodeText (escapeText (char :: rest)) =
          misread false (char :: rest) := by
        rw [escapeText_cons]
        by_cases backslash : char = '\\'
        · subst backslash
          exact behind
        · have next : misread false (char :: rest) =
              char :: misread false rest := by
            have other : (char == '\\') = false := beq_false_of_ne backslash
            simp [misread, other]
          rw [next, ← alone]
          by_cases comma : char = ','
          · subst comma
            exact decodeText_comma _
          · by_cases semicolon : char = ';'
            · subst semicolon
              exact decodeText_semicolon _
            · by_cases break_ : char = '\n'
              · subst break_
                exact decodeText_break _
              · rw [escapeCharacter_of_plain backslash comma semicolon break_]
                exact decodeText_cons backslash _
      refine ⟨read, ?_⟩
      by_cases lower : char = 'n'
      · subst lower
        rw [escapeText_cons]
        refine (decodeText_backslash_n (escapeText rest)).trans ?_
        rw [alone]
        rfl
      · by_cases upper : char = 'N'
        · subst upper
          rw [escapeText_cons]
          refine (decodeText_backslash_N (escapeText rest)).trans ?_
          rw [alone]
          rfl
        · have notN : (char :: rest).head? ≠ some 'n' :=
            fun same => lower (Option.some.inj same)
          have notUpper : (char :: rest).head? ≠ some 'N' :=
            fun same => upper (Option.some.inj same)
          rw [decodeText_backslash (escapeText_head_ne notN notUpper), read,
            misread_of_head_ne notN notUpper]

/-- A text is read as it is where no backslash stands before an `n`. -/
theorem misread_eq_iff (backslash : Bool) (text : Text) :
    misread backslash text = text ↔
      (backslash = true → text.head? ≠ some 'n' ∧ text.head? ≠ some 'N') ∧
        ¬ ['\\', 'n'] <:+: text ∧ ¬ ['\\', 'N'] <:+: text := by
  induction text generalizing backslash with
  | nil => simp [misread]
  | cons char rest ih =>
      have start (next : Char) : ['\\', next] <+: char :: rest ↔
          char = '\\' ∧ rest.head? = some next := by
        cases rest with
        | nil => simp
        | cons other rest => simp [List.cons_prefix_cons, eq_comm]
      have kept : (if backslash ∧ (char = 'n' ∨ char = 'N') then '\n'
          else char) = char ↔
            (backslash = true → char ≠ 'n' ∧ char ≠ 'N') := by
        split
        · rename_i changed
          obtain ⟨behind, rfl | rfl⟩ := changed <;> simp [behind]
        · rename_i same
          tauto
      unfold misread
      rw [List.cons.injEq, ih, kept, List.infix_cons_iff,
        List.infix_cons_iff, start, start, beq_iff_eq]
      simp only [List.head?_cons, ne_eq, Option.some.injEq]
      tauto

/-- Decoding undoes the escapes of exactly the texts in which no backslash
stands before an `n`. -/
theorem decodeText_escapeText_iff (text : Text) :
    decodeText (escapeText text) = text ↔
      ¬ ['\\', 'n'] <:+: text ∧ ¬ ['\\', 'N'] <:+: text := by
  rw [(decodeText_escapeText text).1, misread_eq_iff]
  simp

/-- A Windows path loses a character. -/
theorem decodeText_of_path :
    ¬ ∀ text, decodeText (escapeText text) = text := by
  intro inverse
  have path := inverse ['C', ':', '\\', 'n', 'e', 'w']
  exact absurd path (by decide)

end BarDaemon.Calendars
