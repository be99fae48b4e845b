import Mathlib.Data.List.Infix

/-!
# Text operations on UTF-8 strings

Lengths are byte lengths, as in the source.  Trimming removes the characters
with the Unicode `White_Space` property.
-/

namespace BarDaemon

/-- `char::is_whitespace`. -/
def isWhitespace (char : Char) : Bool :=
  let code := char.toNat
  (9 ≤ code && code ≤ 13) || code == 0x20 || code == 0x85 || code == 0xA0 ||
    code == 0x1680 || (0x2000 ≤ code && code ≤ 0x200A) || code == 0x2028 ||
    code == 0x2029 || code == 0x202F || code == 0x205F || code == 0x3000

/-- `str::trim`. -/
def trim (text : String) : String :=
  let suffix := text.toList.dropWhile isWhitespace
  String.ofList (suffix.reverse.dropWhile isWhitespace).reverse

/-- `str::starts_with`. -/
def startsWith (text beginning : String) : Bool :=
  beginning.toList.isPrefixOf text.toList

/-- `str::contains`, which on UTF-8 text finds a run of bytes exactly where it
finds the run of characters. -/
def contains (text part : String) : Bool :=
  decide (part.toList <:+: text.toList)

/-- `str::len`. -/
def byteLength (text : String) : Nat :=
  text.utf8ByteSize

/-- Some character of the text is a control character. -/
def hasControl (text : String) : Bool :=
  text.toList.any fun char =>
    char.toNat < 0x20 || (0x7F ≤ char.toNat && char.toNat < 0xA0)

/-- A character below 128 takes one byte. -/
theorem byteLength_of_ascii {text : List Char}
    (ascii : ∀ char ∈ text, char.toNat < 128) :
    byteLength (String.ofList text) = text.length := by
  induction text with
  | nil => rfl
  | cons char rest ih =>
      have short : char.utf8Size = 1 := by
        rw [Char.utf8Size_eq_one_iff, UInt32.le_iff_toNat_le]
        exact Nat.le_of_lt_succ (ascii char (by simp))
      have tail := ih fun other member => ascii other (by simp [member])
      rw [byteLength] at tail ⊢
      rw [String.ofList_cons, String.utf8ByteSize_append,
        String.utf8ByteSize_singleton, short, tail, List.length_cons]
      omega

example : trim " \t DP-1\x0a" = "DP-1" := by
  decide

end BarDaemon
