import BarDaemon.AgendaCatalogs
import BarDaemon.CompactJsonReading
import BarDaemon.AgendaSummaries

/-!
# Agenda cursors

A cursor holds the whole query, which is lowered and escaped.  It stays short
enough to be taken back.
-/

namespace BarDaemon.Agendas

open CompactJson NaiveDate

/-! ## Lower case -/

/-- `str::to_lowercase` gives each character at most three, and one that is
below 128 a single one. -/
def Lowers (lowercase : String → String) : Prop :=
  ∀ text, ∃ parts : List (List Char),
    (lowercase text).toList = parts.flatten ∧
    List.Forall₂ (fun (char : Char) (part : List Char) =>
      part.length ≤ 3 ∧ (char.toNat < 128 → part.length = 1)) text.toList parts

theorem width_flatMap_escape_le (part : List Char) :
    width (part.flatMap Json.escape) ≤ 6 * part.length := by
  induction part with
  | nil => exact Nat.zero_le _
  | cons char part ih =>
      have first := Json.width_escape_le_six char
      rw [List.flatMap_cons, width_append, List.length_cons]
      omega

/-- Two bytes are the least that a character takes from 128 on. -/
theorem two_le_utf8Size {char : Char} (large : ¬char.toNat < 128) :
    2 ≤ char.utf8Size := by
  have positive := char.utf8Size_pos
  have notOne : char.utf8Size ≠ 1 := by
    intro one
    rw [Char.utf8Size_eq_one_iff, UInt32.le_iff_toNat_le] at one
    exact large (Nat.lt_succ_of_le one)
  omega

theorem width_lowered_le {chars : List Char} {parts : List (List Char)}
    (lowered : List.Forall₂ (fun (char : Char) (part : List Char) =>
      part.length ≤ 3 ∧ (char.toNat < 128 → part.length = 1)) chars parts) :
    width (parts.flatten.flatMap Json.escape) ≤ 9 * width chars := by
  induction lowered with
  | nil => exact Nat.zero_le _
  | @cons char part _ _ fits _ ih =>
      have first := width_flatMap_escape_le part
      have positive := char.utf8Size_pos
      rw [List.flatten_cons, List.flatMap_append, width_append, width_cons]
      by_cases small : char.toNat < 128
      · have single := fits.2 small
        omega
      · have bytes := two_le_utf8Size small
        have few := fits.1
        omega

theorem Lowers.size_le {lowercase : String → String} (lowers : Lowers lowercase)
    (text : String) :
    (Json.str (lowercase text)).size ≤ 9 * byteLength text + 2 := by
  obtain ⟨parts, chars, lowered⟩ := lowers text
  have inner := width_lowered_le lowered
  have quote : width "\"".toList = 1 := by decide
  rw [width_toList] at inner
  rw [Json.size_eq, Json.chars, Json.quoted, chars, width_append, width_append]
  omega

theorem Lowers.empty {lowercase : String → String} (lowers : Lowers lowercase) :
    lowercase "" = "" := by
  obtain ⟨parts, chars, lowered⟩ := lowers ""
  cases lowered
  exact String.toList_inj.mp chars

/-! ## Sizes -/

theorem width_le_of_sublist {part chars : List Char} (within : part.Sublist chars) :
    width part ≤ width chars :=
  (within.map Char.utf8Size).sum_le_sum fun _ _ => Nat.zero_le _

theorem byteLength_trim_le (text : String) :
    byteLength (trim text) ≤ byteLength text := by
  rw [← width_toList, ← width_toList]
  apply width_le_of_sublist
  rw [trim, String.toList_ofList]
  have inner := (List.dropWhile_sublist isWhitespace
    (l := (text.toList.dropWhile isWhitespace).reverse)).reverse
  rw [List.reverse_reverse] at inner
  exact inner.trans (List.dropWhile_sublist isWhitespace)

theorem length_padded_le {wide number digits : Nat} (positive : 0 < digits)
    (fits : wide ≤ digits) (small : number < 10 ^ digits) :
    (padded wide number).length ≤ digits := by
  have short := (Nat.length_toDigits_le_iff (by decide) positive).mpr small
  rw [padded, List.length_append, List.length_replicate]
  omega

theorem length_yearText_le (day : NaiveDate) :
    (yearText day.year).length ≤ 7 := by
  obtain ⟨first, last⟩ := day.year_valid
  unfold minYear at first
  unfold maxYear at last
  have digits := @length_padded_le 4 day.year.natAbs 6 (by decide) (by decide)
    (by omega)
  unfold yearText
  split
  · omega
  · rw [List.length_cons]
    omega

theorem padded_ascii {wide number : Nat} {char : Char}
    (among : char ∈ padded wide number) : char.toNat < 128 := by
  have digit := padded_isDigit among
  have nine : '9'.toNat = 57 := rfl
  rw [Char.isDigit_iff_toNat, nine] at digit
  omega

theorem yearText_ascii {year : Int} {char : Char} (among : char ∈ yearText year) :
    char.toNat < 128 := by
  unfold yearText at among
  split at among
  · exact padded_ascii among
  · rcases List.mem_cons.mp among with rfl | digit
    · split <;> decide
    · exact padded_ascii digit

theorem byteLength_text_le (day : NaiveDate) : byteLength day.text ≤ 13 := by
  have month := day.month_valid
  have days := day.day_valid
  have bounds := daysIn_bounds day.year day.month
  have yearLength := length_yearText_le day
  have monthLength := @length_padded day.month (by omega)
  have dayLength := @length_padded day.day (by omega)
  rw [NaiveDate.text, byteLength_of_ascii]
  · simp only [List.length_append, List.length_cons, monthLength, dayLength]
    omega
  · intro char among
    rcases List.mem_append.mp among with year | rest
    · exact yearText_ascii year
    · rcases List.mem_append.mp rest with first | last
      · rcases List.mem_cons.mp first with rfl | digit
        · decide
        · exact padded_ascii digit
      · rcases List.mem_cons.mp last with rfl | digit
        · decide
        · exact padded_ascii digit

/-! ## Cursors -/

/-- What a cursor is made of is short. -/
structure Fence.Small (fence : Fence) : Prop where
  query : (Json.str fence.query).size ≤ 36866
  day : ∀ text, fence.day = some text → byteLength text ≤ 13
  today : byteLength fence.today ≤ 13
  timezone : byteLength fence.timezone ≤ 128
  imports : byteLength fence.imports ≤ 64

theorem Fence.Small.size_le {fence : Fence} (small : fence.Small) :
    fence.toJson.size ≤ 42000 := by
  have query := small.query
  have day := @size_optionalText_le fence.day 13 small.day
  have today := Json.size_str_le fence.today
  have todayFits := small.today
  have timezone := Json.size_str_le fence.timezone
  have timezoneFits := small.timezone
  have revision := Json.size_nat_le fence.revision
  have imports := Json.size_str_le fence.imports
  have importsFit := small.imports
  have member {name : String} {value : Json} {bound : Nat}
      (named : (Json.str name).size ≤ 10) (fits : value.size ≤ bound) :
      Json.memberSize (name, value) ≤ 10 + bound + 2 :=
    Json.memberSize_le named fits
  have all := Json.size_obj_le [("query", .str fence.query),
    ("day", optionalText fence.day), ("today", .str fence.today),
    ("timezone", .str fence.timezone), ("revision", .nat fence.revision),
    ("imports", .str fence.imports)]
  have first := @member "query" _ _ (by decide) query
  have second := @member "day" _ _ (by decide) day
  have third := @member "today" _ _ (by decide) today
  have fourth := @member "timezone" _ _ (by decide) timezone
  have fifth := @member "revision" _ _ (by decide) revision
  have sixth := @member "imports" _ _ (by decide) imports
  simp only [List.map_cons, List.map_nil, List.sum_cons, List.sum_nil] at all
  rw [Fence.toJson]
  omega

/-- A cursor is short enough to be taken back. -/
theorem Fence.Small.byteLength_cursor_le {fence : Fence} (small : fence.Small)
    {offset : Nat} (fits : offset ≤ u64Max) :
    byteLength (Cursor.mk fence offset).toJson.render ≤ 65536 := by
  have inner := small.size_le
  have number : (Json.nat offset).size ≤ 20 := Json.size_nat_le ⟨offset, fits⟩
  have whole := Json.size_obj_le [("fence", fence.toJson),
    ("offset", .nat offset)]
  have first := @Json.memberSize_le "fence" _ 8 _ (by decide) inner
  have second := @Json.memberSize_le "offset" _ 8 _ (by decide) number
  simp only [List.map_cons, List.map_nil, List.sum_cons, List.sum_nil] at whole
  rw [byteLength, Json.utf8ByteSize_render]
  change (Json.obj [("fence", fence.toJson), ("offset", .nat offset)]).size ≤ _
  omega

/-- `serde_json::from_str` reads back what `to_string` wrote. -/
def ReadsBack (readCursor : String → Except String Cursor) : Prop :=
  ∀ cursor, cursor.offset ≤ u64Max →
    readCursor cursor.toJson.render = .ok cursor

/-! ## Reading -/

open Json in
/-- The day of a cursor, which may be absent. -/
def readDay (chars : List Char) : Option (Option String × List Char) :=
  match expect "null".toList chars with
  | some chars => some (none, chars)
  | none => (readString chars).map fun (day, chars) => (some day, chars)

open Json in
/-- A cursor as it is written. -/
def readWritten (chars : List Char) : Option Cursor := do
  let chars ← expect "\x7b\"fence\":\x7b\"query\":".toList chars
  let (query, chars) ← readString chars
  let chars ← expect ",\"day\":".toList chars
  let (day, chars) ← readDay chars
  let chars ← expect ",\"today\":".toList chars
  let (today, chars) ← readString chars
  let chars ← expect ",\"timezone\":".toList chars
  let (timezone, chars) ← readString chars
  let chars ← expect ",\"revision\":".toList chars
  let (revision, chars) := readNat chars
  let chars ← expect ",\"imports\":".toList chars
  let (imports, chars) ← readString chars
  let chars ← expect "\x7d,\"offset\":".toList chars
  let (offset, _) := readNat chars
  if fits : revision ≤ u64Max then
    some ⟨⟨query, day, today, timezone, ⟨revision, fits⟩, imports⟩, offset⟩
  else none

theorem readDay_append (day : Option String) (chars : List Char) :
    readDay ((optionalText day).chars ++ chars) = some (day, chars) := by
  cases day with
  | none => rfl
  | some text =>
      have inner := Json.readString_append text chars
      change readDay ((Json.str text).chars ++ chars) = _
      have quoted : Json.expect "null".toList ((Json.str text).chars ++ chars) =
          none := rfl
      rw [readDay, quoted]
      dsimp only
      rw [inner]
      rfl

theorem chars_cursor (cursor : Cursor) : cursor.toJson.chars =
    "\x7b\"fence\":\x7b\"query\":".toList ++
      ((Json.str cursor.fence.query).chars ++ (",\"day\":".toList ++
      ((optionalText cursor.fence.day).chars ++ (",\"today\":".toList ++
      ((Json.str cursor.fence.today).chars ++ (",\"timezone\":".toList ++
      ((Json.str cursor.fence.timezone).chars ++ (",\"revision\":".toList ++
      ((Json.nat cursor.fence.revision).chars ++ (",\"imports\":".toList ++
      ((Json.str cursor.fence.imports).chars ++ ("\x7d,\"offset\":".toList ++
      ((Json.nat cursor.offset).chars ++ "\x7d".toList))))))))))))) := by
  change "\x7b".toList ++ (Json.quoted "fence" ++ ":".toList ++
    ("\x7b".toList ++ (Json.quoted "query" ++ ":".toList ++
      (Json.str cursor.fence.query).chars ++ ",".toList ++
      (Json.quoted "day" ++ ":".toList ++
        (optionalText cursor.fence.day).chars ++ ",".toList ++
      (Json.quoted "today" ++ ":".toList ++
        (Json.str cursor.fence.today).chars ++ ",".toList ++
      (Json.quoted "timezone" ++ ":".toList ++
        (Json.str cursor.fence.timezone).chars ++ ",".toList ++
      (Json.quoted "revision" ++ ":".toList ++
        (Json.nat cursor.fence.revision).chars ++ ",".toList ++
      (Json.quoted "imports" ++ ":".toList ++
        (Json.str cursor.fence.imports).chars)))))) ++ "\x7d".toList) ++
    ",".toList ++ (Json.quoted "offset" ++ ":".toList ++
      (Json.nat cursor.offset).chars)) ++ "\x7d".toList = _
  simp only [List.append_assoc]
  rfl

theorem readWritten_chars (cursor : Cursor) :
    readWritten cursor.toJson.chars = some cursor := by
  have revision (chars : List Char) :=
    Json.readNat_append cursor.fence.revision (",\"imports\":".toList.tail ++ chars)
      (rfl : ','.isDigit = false)
  have offset := Json.readNat_append cursor.offset [] (rfl : '\x7d'.isDigit = false)
  change ∀ chars, Json.readNat (_ ++ (",\"imports\":".toList ++ chars)) =
    (_, ",\"imports\":".toList ++ chars) at revision
  change Json.readNat (_ ++ "\x7d".toList) = _ at offset
  rw [readWritten, chars_cursor]
  simp only [Json.expect_append, Json.readString_append, readDay_append,
    Option.bind_eq_bind, Option.bind_some, revision, offset]
  exact dif_pos cursor.fence.revision.property

def readCompact (text : String) : Except String Cursor :=
  match readWritten text.toList with
  | some cursor => .ok cursor
  | none => .error "invalid cursor"

theorem readsBack_readCompact : ReadsBack readCompact := by
  intro cursor _
  have read := readWritten_chars cursor
  rw [readCompact, Json.render, String.toList_ofList, read]

end BarDaemon.Agendas
