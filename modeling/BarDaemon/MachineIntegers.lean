import Mathlib.Algebra.GroupWithZero.Nat

/-!
# Fixed-width counters and wall-clock readings

Counters and timestamps are natural numbers; the operations that can leave a
machine width state it.  A wall-clock reading is bounded by the last instant
that a UTC calendar time can represent, so it is the one timestamp whose size
the program never has to check.
-/

namespace BarDaemon

def u32Max : Nat := 4294967295

def u64Max : Nat := 18446744073709551615

def i64Max : Nat := 9223372036854775807

abbrev U64 := { value : Nat // value ≤ u64Max }

abbrev I64 := { value : Int // -(i64Max : Int) - 1 ≤ value ∧ value ≤ i64Max }

theorem one_le_u64Max : 1 ≤ u64Max := by decide

theorem zero_i64 : -(i64Max : Int) - 1 ≤ 0 ∧ (0 : Int) ≤ i64Max := by decide

/-- `u64::saturating_add`. -/
def saturatingAdd (first second : Nat) : Nat :=
  min (first + second) u64Max

/-- `u64::wrapping_add`. -/
def wrappingAdd (first second : Nat) : Nat :=
  (first + second) % (u64Max + 1)

/-- `u64::saturating_mul`. -/
def saturatingMul (first second : Nat) : Nat :=
  min (first * second) u64Max

/-- `+` of `u64`, where an overflow stops the program. -/
def checkedAdd (first second : Nat) : Option Nat :=
  if first + second ≤ u64Max then some (first + second) else none

/-- `-` of `u64`, where an underflow stops the program. -/
def checkedSub (first second : Nat) : Option Nat :=
  if second ≤ first then some (first - second) else none

/-- `*` of `u64`, where an overflow stops the program. -/
def checkedMul (first second : Nat) : Option Nat :=
  if first * second ≤ u64Max then some (first * second) else none

/-- `/` of `u64`, where a division by zero stops the program. -/
def checkedDiv (first second : Nat) : Option Nat :=
  if second = 0 then none else some (first / second)

theorem saturatingAdd_eq {first second : Nat}
    (fits : first + second ≤ u64Max) :
    saturatingAdd first second = first + second :=
  Nat.min_eq_left fits

theorem le_saturatingAdd {first second : Nat} (fits : first ≤ u64Max) :
    first ≤ saturatingAdd first second :=
  Nat.le_min.mpr ⟨Nat.le_add_right first second, fits⟩

/-- The last millisecond of the calendar, `262142-12-31T23:59:59.999Z`. -/
def lastUnixMs : Nat := 8210266876799999

/-- A value that `unix_ms` can return: the UTC clock in milliseconds, with
instants before the epoch read as zero. -/
abbrev UnixMs := { value : Nat // value ≤ lastUnixMs }

end BarDaemon
