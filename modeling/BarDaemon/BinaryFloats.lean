import Mathlib.Algebra.Group.Nat.Defs

/-!
# Binary64 numbers as bit patterns

Comparisons of binary64 numbers are exact on their bit patterns: the
magnitudes of two numbers are ordered as their unsigned bits are.  Arithmetic,
parsing and printing are not defined here.
-/

namespace BarDaemon

/-- The 64 bits of a number, as an unsigned integer. -/
structure Binary64 where
  bits : Fin (2 ^ 64)
deriving DecidableEq, Repr

namespace Binary64

/-- The bits without the sign. -/
def magnitude (number : Binary64) : Nat :=
  number.bits.val % 2 ^ 63

/-- The magnitude of the infinities.  Larger ones are not numbers. -/
def infinity : Nat :=
  0x7FF0000000000000

/-- `f64::is_finite`. -/
def isFinite (number : Binary64) : Bool :=
  number.magnitude < infinity

def isNaN (number : Binary64) : Bool :=
  infinity < number.magnitude

/-- A position on the number line; both zeros are at 0. -/
def position (number : Binary64) : Int :=
  if number.bits.val < 2 ^ 63 then number.magnitude else -number.magnitude

/-- `==` of the source. -/
def equals (left right : Binary64) : Bool :=
  !left.isNaN && !right.isNaN && left.position == right.position

/-- `<=` of the source. -/
def atMost (left right : Binary64) : Bool :=
  !left.isNaN && !right.isNaN && left.position ≤ right.position

/-- `<` of the source. -/
def below (left right : Binary64) : Bool :=
  !left.isNaN && !right.isNaN && left.position < right.position

/-- `RangeInclusive::contains`. -/
def within (number low high : Binary64) : Bool :=
  low.atMost number && number.atMost high

def ofBits (bits : Nat) : Binary64 :=
  ⟨Fin.ofNat (2 ^ 64) bits⟩

/-- The number that equals a natural number below 2^53. -/
def ofNat (number : Nat) : Binary64 :=
  if number = 0 then ofBits 0
  else
    let exponent := Nat.log2 number
    ofBits ((1023 + exponent) * 2 ^ 52 +
      (number - 2 ^ exponent) * 2 ^ (52 - exponent))

/-- The number with the other sign. -/
def opposite (number : Binary64) : Binary64 :=
  ofBits (number.bits.val + 2 ^ 63)

/-! ### Distances -/

/-- The size of a finite number, in units of the smallest one, 2^-1074. -/
def size (number : Binary64) : Nat :=
  let exponent := number.magnitude / 2 ^ 52
  let fraction := number.magnitude % 2 ^ 52
  if exponent = 0 then fraction
  else (2 ^ 52 + fraction) * 2 ^ (exponent - 1)

/-- The value of a finite number, in the same units. -/
def value (number : Binary64) : Int :=
  if number.bits.val < 2 ^ 63 then number.size else -number.size

/-- The magnitude nearest to a size; of two that are as near, the even one. -/
def nearest (size : Nat) : Nat :=
  let shift := Nat.log2 size - 52
  let whole := size / 2 ^ shift
  let rest := size % 2 ^ shift
  let up := 2 ^ shift < 2 * rest || (2 ^ shift == 2 * rest && whole % 2 == 1)
  min (shift * 2 ^ 52 + whole + if up then 1 else 0) infinity

/-- `as f64` of an integer. -/
def ofInt (number : Int) : Binary64 :=
  let magnitude := ofBits (nearest (number.natAbs * 2 ^ 1074))
  if number < 0 then magnitude.opposite else magnitude

/-- `(left - right).abs()` of finite numbers. -/
def distance (left right : Binary64) : Binary64 :=
  ofBits (nearest (left.value - right.value).natAbs)

theorem distance_self (number : Binary64) : number.distance number = ofBits 0 := by
  rw [distance, Int.sub_self]
  rfl

/-! ### Numbers -/

theorem equals_self {number : Binary64} (finite : number.isFinite = true) :
    number.equals number = true := by
  have ordered : number.isNaN = false := by
    simp only [isFinite, decide_eq_true_eq] at finite
    simp only [isNaN, decide_eq_false_iff_not]
    omega
  simp [equals, ordered]

/-- A number that is within a range is a number. -/
theorem equals_self_of_within {number low high : Binary64}
    (bounded : number.within low high = true) :
    number.equals number = true := by
  have ordered : number.isNaN = false := by
    simp only [within, atMost, Bool.and_eq_true] at bounded
    simpa using bounded.1.1.2
  simp [equals, ordered]

end Binary64

end BarDaemon
