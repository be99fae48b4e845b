import Mathlib.Algebra.GroupWithZero.Nat
import Mathlib.Data.List.Basic

/-!
# Compact JSON text

The documents that are written, and the text that a compact writer gives them:
no blanks, members in declaration order, and the shortest escapes.  Only
control characters, quotes and backslashes are escaped; everything else is
copied as UTF-8.
-/

namespace BarDaemon.CompactJson

inductive Json
  | null
  | bool (value : Bool)
  | nat (value : Nat)
  | int (value : Int)
  | str (value : String)
  | arr (items : List Json)
  | obj (fields : List (String × Json))

namespace Json

/-- The lower-case hexadecimal digit of a nibble. -/
def hexDigit (nibble : Nat) : Char :=
  if nibble < 10 then Char.ofNat (48 + nibble) else Char.ofNat (87 + nibble)

/-- One character inside a JSON string. -/
def escape (char : Char) : List Char :=
  match char.toNat with
  | 34 => "\\\"".toList
  | 92 => "\\\\".toList
  | 8 => "\\b".toList
  | 9 => "\\t".toList
  | 10 => "\\n".toList
  | 12 => "\\f".toList
  | 13 => "\\r".toList
  | code =>
      if code < 32 then
        "\\u00".toList ++ [hexDigit (code / 16), hexDigit (code % 16)]
      else
        [char]

def quoted (value : String) : List Char :=
  "\"".toList ++ value.toList.flatMap escape ++ "\"".toList

mutual

/-- The text of a document. -/
def chars : Json → List Char
  | .null => "null".toList
  | .bool true => "true".toList
  | .bool false => "false".toList
  | .nat value => Nat.toDigits 10 value
  | .int value =>
      if value < 0 then "-".toList ++ Nat.toDigits 10 value.natAbs
      else Nat.toDigits 10 value.natAbs
  | .str value => quoted value
  | .arr items => "[".toList ++ itemChars items ++ "]".toList
  | .obj fields => "\x7b".toList ++ fieldChars fields ++ "\x7d".toList

def itemChars : List Json → List Char
  | [] => []
  | [item] => chars item
  | item :: next :: rest =>
      chars item ++ ",".toList ++ itemChars (next :: rest)

def fieldChars : List (String × Json) → List Char
  | [] => []
  | [(name, value)] => quoted name ++ ":".toList ++ chars value
  | (name, value) :: next :: rest =>
      quoted name ++ ":".toList ++ chars value ++ ",".toList ++
        fieldChars (next :: rest)

end

def render (document : Json) : String :=
  String.ofList document.chars

/-- Number of bytes written, in UTF-8. -/
def size (document : Json) : Nat :=
  (document.chars.map Char.utf8Size).sum

theorem utf8ByteSize_ofList (chars : List Char) :
    (String.ofList chars).utf8ByteSize = (chars.map Char.utf8Size).sum := by
  induction chars with
  | nil => rfl
  | cons char chars ih =>
      rw [← List.singleton_append, String.ofList_append,
        String.utf8ByteSize_append, ih, ← String.singleton_eq_ofList,
        String.utf8ByteSize_singleton]
      rfl

theorem utf8ByteSize_render (document : Json) :
    document.render.utf8ByteSize = document.size :=
  utf8ByteSize_ofList document.chars

def ofOption {Value : Type*} (encode : Value → Json) : Option Value → Json
  | none => null
  | some value => encode value

end Json

example : (Json.obj [("id", .nat 7), ("text", .str "a\n\"é")]).size = 25 := by
  decide

end BarDaemon.CompactJson
