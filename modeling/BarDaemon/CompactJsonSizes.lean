import BarDaemon.CompactJson
import BarDaemon.MachineIntegers
import BarDaemon.UnicodeText
import Mathlib.Algebra.BigOperators.Group.List.Basic
import Mathlib.Algebra.Order.BigOperators.Group.List
import Mathlib.Algebra.Order.Ring.Nat

/-!
# Sizes of compact JSON texts

No escape takes more than six bytes for a byte, and the members of an object
take what their names and values take.
-/

namespace BarDaemon.CompactJson

/-! ### Characters -/

/-- The bytes of some characters, in UTF-8. -/
def width (chars : List Char) : Nat :=
  (chars.map Char.utf8Size).sum

@[simp]
theorem width_nil : width [] = 0 :=
  rfl

@[simp]
theorem width_cons (char : Char) (chars : List Char) :
    width (char :: chars) = char.utf8Size + width chars := by
  simp [width]

@[simp]
theorem width_append (first second : List Char) :
    width (first ++ second) = width first + width second := by
  simp [width]

theorem width_toList (value : String) : width value.toList = byteLength value := by
  rw [byteLength, ← String.ofList_toList (s := value), Json.utf8ByteSize_ofList,
    String.toList_ofList]
  rfl

theorem width_flatMap_le {chars : List Char} {encode : Char → List Char}
    {factor : Nat}
    (each : ∀ char ∈ chars, width (encode char) ≤ factor * char.utf8Size) :
    width (chars.flatMap encode) ≤ factor * width chars := by
  induction chars with
  | nil => exact Nat.zero_le _
  | cons char chars ih =>
      have first := each char List.mem_cons_self
      have rest := ih fun other among => each other (List.mem_cons_of_mem _ among)
      rw [List.flatMap_cons, width_append, width_cons, Nat.mul_add]
      omega

/-- Characters below 128 take one byte. -/
theorem width_of_ascii {chars : List Char}
    (ascii : ∀ char ∈ chars, char.toNat < 128) : width chars = chars.length := by
  have bytes := byteLength_of_ascii ascii
  rw [byteLength, Json.utf8ByteSize_ofList] at bytes
  exact bytes

namespace Json

theorem size_eq (document : Json) : document.size = width document.chars :=
  rfl

/-! ### Numbers -/

theorem width_toDigits_le {number digits : Nat} (positive : 0 < digits)
    (small : number < 10 ^ digits) : width (Nat.toDigits 10 number) ≤ digits := by
  have ascii : ∀ char ∈ Nat.toDigits 10 number, char.toNat < 128 := by
    intro char among
    have digit := Nat.isDigit_of_mem_toDigits (by decide) (by decide) among
    have nine : '9'.toNat = 57 := rfl
    rw [Char.isDigit_iff_toNat, nine] at digit
    omega
  rw [width_of_ascii ascii]
  exact (Nat.length_toDigits_le_iff (by decide) positive).mpr small

theorem size_nat_le (number : U64) : (Json.nat number).size ≤ 20 := by
  have small := number.property
  apply width_toDigits_le (by decide)
  unfold u64Max at small
  omega

theorem size_int_le (number : I64) : (Json.int number).size ≤ 20 := by
  have small := number.property
  have digits : width (Nat.toDigits 10 (number : Int).natAbs) ≤ 19 := by
    apply width_toDigits_le (by decide)
    unfold i64Max at small
    omega
  have sign : width "-".toList = 1 := by decide
  rw [size_eq, chars]
  split
  · rw [width_append]
    omega
  · omega

theorem size_bool_le (value : Bool) : (Json.bool value).size ≤ 5 := by
  cases value <;> decide

/-! ### Texts -/

theorem utf8Size_hexDigit {nibble : Nat} (small : nibble < 16) :
    (hexDigit nibble).utf8Size = 1 := by
  have all : ∀ nibble < 16, (hexDigit nibble).utf8Size = 1 := by decide
  exact all nibble small

theorem width_escape_le_six (char : Char) : width (escape char) ≤ 6 := by
  unfold escape
  split
  · decide
  · decide
  · decide
  · decide
  · decide
  · decide
  · decide
  · split
    · rename_i small
      have first := @utf8Size_hexDigit (char.toNat / 16) (by omega)
      have second := @utf8Size_hexDigit (char.toNat % 16) (by omega)
      have start : width "\\u00".toList = 4 := by decide
      rw [width_append, start, width_cons, width_cons, width_nil, first, second]
    · have small := char.utf8Size_le_four
      rw [width_cons, width_nil]
      omega

theorem width_escape_le (char : Char) :
    width (escape char) ≤ 6 * char.utf8Size := by
  have positive := char.utf8Size_pos
  have six := width_escape_le_six char
  omega

theorem size_str_le (value : String) :
    (Json.str value).size ≤ 6 * byteLength value + 2 := by
  have inner := @width_flatMap_le value.toList escape 6
    fun char _ => width_escape_le char
  rw [width_toList] at inner
  rw [size_eq, chars, quoted, width_append, width_append]
  have quote : width "\"".toList = 1 := by decide
  omega

/-! ### Objects -/

/-- The bytes of a member, with the colon and a comma. -/
def memberSize (field : String × Json) : Nat :=
  (Json.str field.1).size + field.2.size + 2

theorem width_fieldChars_le (fields : List (String × Json)) :
    width (fieldChars fields) ≤ (fields.map memberSize).sum := by
  have colon : width ":".toList = 1 := by decide
  have comma : width ",".toList = 1 := by decide
  induction fields with
  | nil => exact Nat.zero_le _
  | cons field fields ih =>
      obtain ⟨name, value⟩ := field
      cases fields with
      | nil =>
          rw [fieldChars, width_append, width_append, colon]
          simp [memberSize, size_eq, chars]
          omega
      | cons next fields =>
          rw [fieldChars, width_append, width_append, width_append,
            width_append, colon, comma, List.map_cons, List.sum_cons]
          simp only [memberSize, size_eq, chars] at ih ⊢
          omega

theorem size_obj_le (fields : List (String × Json)) :
    (Json.obj fields).size ≤ (fields.map memberSize).sum + 2 := by
  have inner := width_fieldChars_le fields
  have opening : width "\x7b".toList = 1 := by decide
  have closing : width "\x7d".toList = 1 := by decide
  rw [size_eq, chars, width_append, width_append]
  omega

theorem memberSize_le {name : String} {value : Json} {named bound : Nat}
    (nameFits : (Json.str name).size ≤ named) (valueFits : value.size ≤ bound) :
    memberSize (name, value) ≤ named + bound + 2 := by
  simp only [memberSize]
  omega

/-- An object of members that are all bounded. -/
theorem size_obj_le_of_forall {fields : List (String × Json)} {bound : Nat}
    (each : ∀ field ∈ fields, memberSize field ≤ bound) :
    (Json.obj fields).size ≤ fields.length * bound + 2 := by
  have whole := size_obj_le fields
  have sum := List.sum_le_card_nsmul (fields.map memberSize) bound
    (List.forall_mem_map.mpr each)
  rw [List.length_map] at sum
  change _ ≤ fields.length * bound at sum
  omega

end Json

end BarDaemon.CompactJson
