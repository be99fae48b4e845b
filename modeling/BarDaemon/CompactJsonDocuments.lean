import BarDaemon.CompactJsonReading

/-!
# Reading compact JSON documents

A whole document is read back from its text, with every number signed.  So
documents that differ in more than that have different texts.
-/

namespace BarDaemon.CompactJson.Json

mutual

/-- A document with its numbers signed, as a text has them. -/
def signed : Json → Json
  | .null => .null
  | .bool value => .bool value
  | .nat value => .int value
  | .int value => .int value
  | .str value => .str value
  | .arr items => .arr (signedItems items)
  | .obj fields => .obj (signedFields fields)

def signedItems : List Json → List Json
  | [] => []
  | item :: items => signed item :: signedItems items

def signedFields : List (String × Json) → List (String × Json)
  | [] => []
  | (name, value) :: fields => (name, signed value) :: signedFields fields

end

/-! ## The reader -/

mutual

/-- The document at the front of a text that is shorter than the fuel. -/
def read : Nat → List Char → Option (Json × List Char)
  | 0, _ => none
  | _, [] => none
  | fuel + 1, char :: chars =>
      if char.isDigit then
        some ((readNat (char :: chars)).map (fun value => .int (value : Nat)) id)
      else if char = '-' then
        some ((readNat chars).map (fun value => .int (-(value : Nat))) id)
      else if char = '"' then
        (readString (char :: chars)).map (Prod.map .str id)
      else if char = '[' then
        if chars.head? = some ']' then some (.arr [], chars.tail)
        else (readItems fuel chars).map (Prod.map .arr id)
      else if char = '\x7b' then
        if chars.head? = some '\x7d' then some (.obj [], chars.tail)
        else (readFields fuel chars).map (Prod.map .obj id)
      else if char = 'n' then
        (expect "ull".toList chars).map fun rest => (.null, rest)
      else if char = 't' then
        (expect "rue".toList chars).map fun rest => (.bool true, rest)
      else if char = 'f' then
        (expect "alse".toList chars).map fun rest => (.bool false, rest)
      else none

/-- The items up to the closing bracket. -/
def readItems : Nat → List Char → Option (List Json × List Char)
  | 0, _ => none
  | fuel + 1, chars => do
      let (item, rest) ← read fuel chars
      if rest.head? = some ',' then
        (readItems fuel rest.tail).map (Prod.map (item :: ·) id)
      else
        (expect "]".toList rest).map fun rest => ([item], rest)

/-- The members up to the closing brace. -/
def readFields : Nat → List Char → Option (List (String × Json) × List Char)
  | 0, _ => none
  | fuel + 1, chars => do
      let (name, rest) ← readString chars
      let (value, rest) ← read fuel (← expect ":".toList rest)
      if rest.head? = some ',' then
        (readFields fuel rest.tail).map (Prod.map ((name, value) :: ·) id)
      else
        (expect "\x7d".toList rest).map fun rest => ([(name, value)], rest)

end

/-! ## Numbers -/

/-- A number ends where the text goes on. -/
def Stops (rest : List Char) : Prop :=
  ∀ char ∈ rest.head?, char.isDigit = false

theorem stops_nil : Stops [] := by
  simp [Stops]

theorem stops_cons {char : Char} (stops : char.isDigit = false)
    (rest : List Char) : Stops (char :: rest) := by
  simpa [Stops] using stops

theorem readNat_stops (number : Nat) {rest : List Char} (stops : Stops rest) :
    readNat (Nat.toDigits 10 number ++ rest) = (number, rest) := by
  cases rest with
  | cons char rest => exact readNat_append number rest (stops char rfl)
  | nil =>
      have digits : ∀ digit ∈ Nat.toDigits 10 number, digit.isDigit = true :=
        fun _ among => Nat.isDigit_of_mem_toDigits (by decide) (by decide) among
      have taken := @List.takeWhile_append_of_pos _ _ _ [] digits
      have dropped := @List.dropWhile_append_of_pos _ _ _ [] digits
      simp only [List.append_nil, List.takeWhile_nil, List.dropWhile_nil]
        at taken dropped
      rw [List.append_nil, readNat, taken, dropped,
        Nat.ofDigitChars_ten_toDigits]

/-- A number begins with a digit. -/
theorem toDigits_cons (number : Nat) :
    ∃ digit digits, Nat.toDigits 10 number = digit :: digits ∧
      digit.isDigit = true := by
  cases shown : Nat.toDigits 10 number with
  | nil => exact absurd shown Nat.toDigits_ne_nil
  | cons digit digits =>
      have among : digit ∈ Nat.toDigits 10 number := by simp [shown]
      exact ⟨digit, digits, rfl,
        Nat.isDigit_of_mem_toDigits (by decide) (by decide) among⟩

theorem read_digits (fuel number : Nat) {rest : List Char} (stops : Stops rest) :
    read (fuel + 1) (Nat.toDigits 10 number ++ rest) =
      some (.int number, rest) := by
  have whole := readNat_stops number stops
  obtain ⟨digit, digits, shown, isDigit⟩ := toDigits_cons number
  rw [shown, List.cons_append] at whole ⊢
  rw [read, if_pos isDigit, whole]
  rfl

theorem read_negative (fuel number : Nat) {rest : List Char}
    (stops : Stops rest) :
    read (fuel + 1) ('-' :: (Nat.toDigits 10 number ++ rest)) =
      some (.int (-number), rest) := by
  rw [read, readNat_stops number stops]
  simp

/-! ## Documents -/

theorem quoted_eq (value : String) :
    quoted value = '"' :: (value.toList.flatMap escape ++ ['"']) := by
  simp [quoted]

/-- No document begins like a closing bracket. -/
theorem chars_head (document : Json) :
    ∃ char chars, document.chars = char :: chars ∧ char ≠ ']' := by
  have number : ∀ value : Nat, ∃ char chars,
      Nat.toDigits 10 value = char :: chars ∧ char ≠ ']' := by
    intro value
    obtain ⟨digit, digits, shown, isDigit⟩ := toDigits_cons value
    refine ⟨digit, digits, shown, ?_⟩
    rintro rfl
    exact absurd isDigit (by decide)
  cases document with
  | null => simp [chars]
  | bool value => cases value <;> simp [chars]
  | nat value => exact number value
  | int value =>
      by_cases negative : value < 0
      · simp [chars, negative]
      · simpa [chars, negative] using number value.natAbs
  | str value => simp [chars, quoted_eq]
  | arr items => simp [chars]
  | obj fields => simp [chars]

theorem itemChars_head (item : Json) (items : List Json) :
    ∃ char chars, itemChars (item :: items) = char :: chars ∧ char ≠ ']' := by
  obtain ⟨char, chars, shown, other⟩ := chars_head item
  cases items <;> simp [itemChars, shown, other]

theorem fieldChars_head (field : String × Json)
    (fields : List (String × Json)) :
    ∃ chars, fieldChars (field :: fields) = '"' :: chars := by
  cases fields <;> simp [fieldChars, quoted_eq]

theorem read_word_null (fuel : Nat) (rest : List Char) :
    read (fuel + 1) ("null".toList ++ rest) = some (.null, rest) := by
  simp [read, expect, Char.isDigit]

theorem read_word_bool (fuel : Nat) (value : Bool) (rest : List Char) :
    read (fuel + 1) ((Json.bool value).chars ++ rest) =
      some (.bool value, rest) := by
  cases value <;> simp [chars, read, expect, Char.isDigit]

theorem readString_quoted (value : String) (rest : List Char) :
    readString (quoted value ++ rest) = some (value, rest) := by
  have whole := readString_append value rest
  rwa [chars] at whole

theorem read_quoted (fuel : Nat) (value : String) (rest : List Char) :
    read (fuel + 1) (quoted value ++ rest) = some (.str value, rest) := by
  have whole := readString_quoted value rest
  rw [quoted_eq, List.cons_append] at whole
  rw [quoted_eq, List.cons_append, read, whole]
  simp [Char.isDigit]

theorem read_int (fuel : Nat) (value : Int) {rest : List Char}
    (stops : Stops rest) :
    read (fuel + 1) ((Json.int value).chars ++ rest) =
      some (.int value, rest) := by
  by_cases negative : value < 0
  · have same : -(value.natAbs : Int) = value := by omega
    have read := read_negative fuel value.natAbs stops
    rw [same] at read
    simpa [chars, negative] using read
  · have same : (value.natAbs : Int) = value := by omega
    have read := read_digits fuel value.natAbs stops
    rw [same] at read
    simpa [chars, negative] using read

theorem read_arr_of {fuel : Nat} {items : List Json} {rest : List Char}
    (reads : ∀ item others, items = item :: others →
      readItems fuel (itemChars items ++ ']' :: rest) =
        some (signedItems items, rest)) :
    read (fuel + 1) ((Json.arr items).chars ++ rest) =
      some ((Json.arr items).signed, rest) := by
  cases items with
  | nil => simp [chars, itemChars, read, signed, signedItems, Char.isDigit]
  | cons item others =>
      obtain ⟨char, tail, shown, other⟩ := itemChars_head item others
      have inner := reads item others rfl
      rw [shown, List.cons_append] at inner
      simp [chars, read, signed, Char.isDigit, shown, other, inner]

theorem read_obj_of {fuel : Nat} {fields : List (String × Json)}
    {rest : List Char}
    (reads : ∀ field others, fields = field :: others →
      readFields fuel (fieldChars fields ++ '\x7d' :: rest) =
        some (signedFields fields, rest)) :
    read (fuel + 1) ((Json.obj fields).chars ++ rest) =
      some ((Json.obj fields).signed, rest) := by
  cases fields with
  | nil => simp [chars, fieldChars, read, signed, signedFields, Char.isDigit]
  | cons field others =>
      obtain ⟨tail, shown⟩ := fieldChars_head field others
      have inner := reads field others rfl
      rw [shown, List.cons_append] at inner
      simp [chars, read, signed, Char.isDigit, shown, inner]

mutual

/-- A document is read back from its text, whatever follows. -/
theorem read_chars : (document : Json) → {fuel : Nat} → {rest : List Char} →
    document.chars.length < fuel → Stops rest →
      read fuel (document.chars ++ rest) = some (document.signed, rest)
  | document, 0, _, enough, _ => absurd enough (Nat.not_lt_zero _)
  | .null, fuel + 1, rest, _, _ => by
      simpa [chars, signed] using read_word_null fuel rest
  | .bool value, fuel + 1, rest, _, _ => by
      simpa [signed] using read_word_bool fuel value rest
  | .nat value, fuel + 1, rest, _, stops => by
      simpa [chars, signed] using read_digits fuel value stops
  | .int value, fuel + 1, rest, _, stops => by
      simpa [signed] using read_int fuel value stops
  | .str value, fuel + 1, rest, _, _ => by
      simpa [chars, signed] using read_quoted fuel value rest
  | .arr items, fuel + 1, rest, enough, _ => by
      apply read_arr_of
      rintro item others rfl
      apply readItems_chars item others
      simp [chars] at enough
      omega
  | .obj fields, fuel + 1, rest, enough, _ => by
      apply read_obj_of
      rintro field others rfl
      apply readFields_chars field others
      simp [chars] at enough
      omega

theorem readItems_chars : (item : Json) → (items : List Json) →
    {fuel : Nat} → {rest : List Char} →
    (itemChars (item :: items)).length + 1 < fuel →
      readItems fuel (itemChars (item :: items) ++ ']' :: rest) =
        some (signedItems (item :: items), rest)
  | _, _, 0, _, enough => absurd enough (Nat.not_lt_zero _)
  | item, [], fuel + 1, rest, enough => by
      simp [itemChars] at enough
      have first := @read_chars item fuel (']' :: rest) (by omega)
        (stops_cons (by decide) rest)
      simp [readItems, itemChars, first, signedItems, expect]
  | item, next :: items, fuel + 1, rest, enough => by
      simp [itemChars] at enough
      have first := @read_chars item fuel
        (',' :: (itemChars (next :: items) ++ ']' :: rest)) (by omega)
        (stops_cons (by decide) _)
      have others := @readItems_chars next items fuel rest (by omega)
      simp [readItems, itemChars, first, others, signedItems]

theorem readFields_chars : (field : String × Json) →
    (fields : List (String × Json)) → {fuel : Nat} → {rest : List Char} →
    (fieldChars (field :: fields)).length + 1 < fuel →
      readFields fuel (fieldChars (field :: fields) ++ '\x7d' :: rest) =
        some (signedFields (field :: fields), rest)
  | _, _, 0, _, enough => absurd enough (Nat.not_lt_zero _)
  | (name, value), [], fuel + 1, rest, enough => by
      simp [fieldChars] at enough
      have named := readString_quoted name
        (':' :: (value.chars ++ '\x7d' :: rest))
      have first := @read_chars value fuel ('\x7d' :: rest) (by omega)
        (stops_cons (by decide) rest)
      simp [readFields, fieldChars, named, first, signedFields, expect]
  | (name, value), next :: fields, fuel + 1, rest, enough => by
      simp [fieldChars] at enough
      have named := readString_quoted name
        (':' :: (value.chars ++
          ',' :: (fieldChars (next :: fields) ++ '\x7d' :: rest)))
      have first := @read_chars value fuel
        (',' :: (fieldChars (next :: fields) ++ '\x7d' :: rest)) (by omega)
        (stops_cons (by decide) _)
      have others := @readFields_chars next fields fuel rest (by omega)
      simp [readFields, fieldChars, named, first, others, signedFields, expect]

end

/-- Documents with the same text are the same, up to the sign of a number that
has none. -/
theorem signed_eq_of_render_eq {first second : Json}
    (same : first.render = second.render) : first.signed = second.signed := by
  have texts : first.chars = second.chars := String.ofList_injective same
  have reads := read_chars first (Nat.lt_succ_self _) stops_nil
  have other := read_chars second (Nat.lt_succ_self _) stops_nil
  rw [← texts, reads] at other
  simpa using other

/-! ## Encoders -/

section Encoders

variable {Value : Type*} {encode : Value → Json}

/-- Different values are encoded with different texts. -/
def Faithful (encode : Value → Json) : Prop :=
  ∀ first second, (encode first).signed = (encode second).signed →
    first = second

theorem Faithful.eq_of_render_eq (faithful : Faithful encode)
    {first second : Value}
    (same : (encode first).render = (encode second).render) :
    first = second :=
  faithful first second (signed_eq_of_render_eq same)

theorem faithful_str : Faithful .str := by
  intro first second same
  simpa [signed] using same

theorem faithful_int : Faithful .int := by
  intro first second same
  simpa [signed] using same

theorem Faithful.comp (faithful : Faithful encode) {Other : Type*}
    {project : Other → Value} (injective : Function.Injective project) :
    Faithful fun value => encode (project value) :=
  fun _ _ same => injective (faithful _ _ same)

/-- A value that is there is told apart from one that is not. -/
theorem Faithful.option (faithful : Faithful encode)
    (present : ∀ value, (encode value).signed ≠ .null) :
    Faithful (ofOption encode) := by
  intro first second same
  cases first with
  | none =>
      cases second with
      | none => rfl
      | some second => exact absurd same.symm (present second)
  | some first =>
      cases second with
      | none => exact absurd same (present first)
      | some second => rw [faithful first second same]

theorem Faithful.list (faithful : Faithful encode) :
    Faithful fun values : List Value => .arr (values.map encode) := by
  intro first
  induction first with
  | nil =>
      intro second same
      cases second with
      | nil => rfl
      | cons value values => simp [signed, signedItems] at same
  | cons value values ih =>
      intro second same
      cases second with
      | nil => simp [signed, signedItems] at same
      | cons other others =>
          simp only [signed, List.map_cons, signedItems, Json.arr.injEq,
            List.cons.injEq] at same
          obtain ⟨head, tail⟩ := same
          rw [faithful value other head, ih others (by simp [signed, tail])]

end Encoders

end BarDaemon.CompactJson.Json
