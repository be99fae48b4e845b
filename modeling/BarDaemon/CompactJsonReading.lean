import BarDaemon.CompactJson
import Mathlib.Tactic.IntervalCases

/-!
# Reading compact JSON text

Readers of texts and numbers that take what they read off the front of a text.
-/

namespace BarDaemon.CompactJson.Json

/-- The characters after a part, when it comes first. -/
def expect : List Char → List Char → Option (List Char)
  | [], chars => some chars
  | wanted :: part, char :: chars =>
      if wanted = char then expect part chars else none
  | _ :: _, [] => none

theorem expect_append (part chars : List Char) :
    expect part (part ++ chars) = some chars := by
  induction part with
  | nil => rfl
  | cons char part ih =>
      rw [List.cons_append, expect, if_pos rfl]
      exact ih

/-! ### Texts -/

def hexValue (char : Char) : Nat :=
  if char.isDigit then char.toNat - 48 else char.toNat - 87

/-- The character that an escape stands for. -/
def unescape : Char → Char
  | 'b' => '\x08'
  | 't' => '\t'
  | 'n' => '\n'
  | 'f' => '\x0c'
  | 'r' => '\r'
  | char => char

def consChar (char : Char) : List Char × List Char → List Char × List Char
  | (text, chars) => (char :: text, chars)

/-- The characters up to the closing quote, and what follows it. -/
def readQuoted : List Char → Option (List Char × List Char)
  | [] => none
  | '"' :: chars => some ([], chars)
  | '\\' :: 'u' :: '0' :: '0' :: high :: low :: chars =>
      (readQuoted chars).map
        (consChar (Char.ofNat (16 * hexValue high + hexValue low)))
  | '\\' :: char :: chars => (readQuoted chars).map (consChar (unescape char))
  | char :: chars => (readQuoted chars).map (consChar char)

theorem readQuoted_escape (char : Char) (chars : List Char) :
    readQuoted (escape char ++ chars) =
      (readQuoted chars).map (consChar char) := by
  by_cases control : char.toNat < 32
  · rw [← Char.ofNat_toNat char]
    generalize char.toNat = code at control
    interval_cases code <;> rfl
  · by_cases quote : char = '"'
    · subst quote
      rfl
    · by_cases backslash : char = '\\'
      · subst backslash
        rfl
      · have code (other : Char) (different : char ≠ other) :
            char.toNat ≠ other.toNat :=
          fun same => different (Char.toNat_inj.mp same)
        have first := code '"' quote
        have second := code '\\' backslash
        have plain : escape char = [char] := by
          unfold escape
          split <;> simp_all
        rw [plain, List.singleton_append, readQuoted]
        · exact quote
        · exact fun _ _ _ same => absurd same backslash
        · exact fun _ _ same => absurd same backslash

theorem readQuoted_flatMap (text chars : List Char) :
    readQuoted (text.flatMap escape ++ '"' :: chars) = some (text, chars) := by
  induction text with
  | nil => rfl
  | cons char text ih =>
      rw [List.flatMap_cons, List.append_assoc, readQuoted_escape, ih]
      rfl

def readString (chars : List Char) : Option (String × List Char) :=
  match chars with
  | '"' :: chars =>
      (readQuoted chars).map fun (text, chars) => (String.ofList text, chars)
  | _ => none

theorem readString_append (value : String) (chars : List Char) :
    readString ((str value).chars ++ chars) = some (value, chars) := by
  have inner := readQuoted_flatMap value.toList chars
  rw [Json.chars, quoted, List.append_assoc, List.append_assoc]
  change (readQuoted (value.toList.flatMap escape ++ '"' :: chars)).map _ = _
  rw [inner, Option.map_some]
  dsimp only
  rw [String.ofList_toList]

/-! ### Numbers -/

def readNat (chars : List Char) : Nat × List Char :=
  (Nat.ofDigitChars 10 (chars.takeWhile Char.isDigit) 0,
    chars.dropWhile Char.isDigit)

theorem readNat_append (number : Nat) {char : Char} (chars : List Char)
    (stops : char.isDigit = false) :
    readNat ((nat number).chars ++ char :: chars) = (number, char :: chars) := by
  have digits : ∀ digit ∈ Nat.toDigits 10 number, digit.isDigit = true :=
    fun _ among => Nat.isDigit_of_mem_toDigits (by decide) (by decide) among
  rw [readNat, Json.chars, List.takeWhile_append_of_pos digits,
    List.dropWhile_append_of_pos digits,
    List.takeWhile_cons_of_neg (by rw [stops]; decide),
    List.dropWhile_cons_of_neg (by rw [stops]; decide), List.append_nil,
    Nat.ofDigitChars_ten_toDigits]

end BarDaemon.CompactJson.Json
