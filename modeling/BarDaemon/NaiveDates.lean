import BarDaemon.CharacterLists
import Mathlib.Data.Int.Basic
import Mathlib.Data.List.Basic

/-!
# Dates without a time zone

Dates of the proleptic Gregorian calendar and their texts, which tell dates
apart.
-/

namespace BarDaemon

def isLeapYear (year : Int) : Bool :=
  year % 4 == 0 && (year % 100 != 0 || year % 400 == 0)

def daysIn (year : Int) (month : Nat) : Nat :=
  if month = 2 then (if isLeapYear year then 29 else 28)
  else if month = 4 ∨ month = 6 ∨ month = 9 ∨ month = 11 then 30
  else 31

/-- The years of the first and of the last date. -/
def minYear : Int := -262143
def maxYear : Int := 262142

/-- `NaiveDate` -/
@[ext]
structure NaiveDate where
  year : Int
  month : Nat
  day : Nat
  year_valid : minYear ≤ year ∧ year ≤ maxYear
  month_valid : 1 ≤ month ∧ month ≤ 12
  day_valid : 1 ≤ day ∧ day ≤ daysIn year month
deriving DecidableEq, Repr

theorem daysIn_bounds (year : Int) (month : Nat) :
    28 ≤ daysIn year month ∧ daysIn year month ≤ 31 := by
  unfold daysIn
  split
  · split <;> omega
  · split <;> omega

namespace NaiveDate

/-! ### Order and arithmetic -/

/-- `<` of the source. -/
def before (left right : NaiveDate) : Bool :=
  left.year < right.year || (left.year == right.year &&
    (left.month < right.month ||
      (left.month == right.month && left.day < right.day)))

theorem year_2026_valid : minYear ≤ 2026 ∧ 2026 ≤ maxYear := by decide

theorem january_valid : 1 ≤ 1 ∧ 1 ≤ 12 := by decide

theorem march_valid : 1 ≤ 3 ∧ 3 ≤ 12 := by decide

theorem december_valid : 1 ≤ 12 ∧ 12 ≤ 12 := by decide

/-- The date of a year, month and day, when there is one. -/
def make? (year : Int) (month day : Nat) : Option NaiveDate :=
  if valid : (minYear ≤ year ∧ year ≤ maxYear) ∧ (1 ≤ month ∧ month ≤ 12) ∧
      1 ≤ day ∧ day ≤ daysIn year month then
    some ⟨year, month, day, valid.1, valid.2.1, valid.2.2⟩
  else none

theorem make?_self (date : NaiveDate) :
    make? date.year date.month date.day = some date :=
  dif_pos ⟨date.year_valid, date.month_valid, date.day_valid⟩

/-- `pred_opt` -/
def pred? (date : NaiveDate) : Option NaiveDate :=
  if 1 < date.day then make? date.year date.month (date.day - 1)
  else if 1 < date.month then
    make? date.year (date.month - 1) (daysIn date.year (date.month - 1))
  else make? (date.year - 1) 12 31

/-- `succ_opt` -/
def succ? (date : NaiveDate) : Option NaiveDate :=
  if date.day < daysIn date.year date.month then
    make? date.year date.month (date.day + 1)
  else if date.month < 12 then make? date.year (date.month + 1) 1
  else make? (date.year + 1) 1 1

/-- `checked_sub_days` -/
def subDays? : Nat → NaiveDate → Option NaiveDate
  | 0, date => some date
  | days + 1, date => date.pred?.bind (subDays? days)

/-- `checked_add_days` -/
def addDays? : Nat → NaiveDate → Option NaiveDate
  | 0, date => some date
  | days + 1, date => date.succ?.bind (addDays? days)

/-- The days since the first of March of the year 0. -/
def dayNumber (date : NaiveDate) : Int :=
  let year := if date.month ≤ 2 then date.year - 1 else date.year
  let month := (date.month + 9) % 12
  365 * year + year / 4 - year / 100 + year / 400 +
    ((153 * month + 2) / 5 + date.day - 1 : Nat)

/-- `weekday().num_days_from_monday()`; that first of March was a Wednesday. -/
def daysFromMonday (date : NaiveDate) : Nat :=
  ((date.dayNumber + 2) % 7).toNat

/-! ### Texts -/

/-- Decimal digits after zeros, up to a width. -/
def padded (width number : Nat) : List Char :=
  List.replicate (width - (Nat.toDigits 10 number).length) '0' ++
    Nat.toDigits 10 number

/-- A year that has not four digits has a sign. -/
def yearText (year : Int) : List Char :=
  if 0 ≤ year ∧ year ≤ 9999 then padded 4 year.natAbs
  else (if year < 0 then '-' else '+') :: padded 4 year.natAbs

/-- `to_string` -/
def text (date : NaiveDate) : String :=
  String.ofList (yearText date.year ++
    ('-' :: padded 2 date.month ++ '-' :: padded 2 date.day))

theorem ofDigitChars_padded (width number : Nat) :
    Nat.ofDigitChars 10 (padded width number) 0 = number := by
  rw [padded, Nat.ofDigitChars_append, Nat.ofDigitChars_replicate_zero,
    Nat.mul_zero, Nat.ofDigitChars_ten_toDigits]

theorem padded_injective {width first second : Nat}
    (same : padded width first = padded width second) : first = second := by
  rw [← ofDigitChars_padded width first, same, ofDigitChars_padded]

theorem padded_isDigit {width number : Nat} {char : Char}
    (among : char ∈ padded width number) : char.isDigit = true := by
  rcases List.mem_append.mp among with zero | digit
  · rw [List.eq_of_mem_replicate zero]
    rfl
  · exact Nat.isDigit_of_mem_toDigits (by decide) (by decide) digit

theorem length_padded {number : Nat} (small : number < 100) :
    (padded 2 number).length = 2 := by
  have all : ∀ number < 100, (padded 2 number).length = 2 := by
    decide +kernel
  exact all number small

theorem yearText_injective {first second : Int}
    (same : yearText first = yearText second) : first = second := by
  have signed {year : Int} {number : Nat} {sign : Char}
      (notDigit : sign.isDigit = false) :
      padded 4 number ≠ sign :: padded 4 year.natAbs := by
    intro equal
    have digit : sign.isDigit = true :=
      padded_isDigit (by rw [equal]; exact List.mem_cons_self)
    rw [digit] at notDigit
    cases notDigit
  have signs (year : Int) :
      (if year < 0 then '-' else '+').isDigit = false := by
    split <;> rfl
  rw [yearText, yearText] at same
  by_cases firstFour : 0 ≤ first ∧ first ≤ 9999 <;>
    by_cases secondFour : 0 ≤ second ∧ second ≤ 9999
  · rw [if_pos firstFour, if_pos secondFour] at same
    have equal := padded_injective same
    omega
  · rw [if_pos firstFour, if_neg secondFour] at same
    exact absurd same (signed (signs second))
  · rw [if_neg firstFour, if_pos secondFour] at same
    exact absurd same.symm (signed (signs first))
  · rw [if_neg firstFour, if_neg secondFour] at same
    obtain ⟨sign, digits⟩ := List.cons.inj same
    have equal := padded_injective digits
    by_cases firstSign : first < 0 <;> by_cases secondSign : second < 0 <;>
      simp only [firstSign, secondSign, if_true, if_false] at sign
    · omega
    · exact absurd sign (by decide)
    · exact absurd sign (by decide)
    · omega

/-- Different dates have different texts. -/
theorem text_injective {first second : NaiveDate}
    (same : first.text = second.text) : first = second := by
  have whole := String.ofList_injective same
  have small (date : NaiveDate) : date.month < 100 ∧ date.day < 100 := by
    have := date.month_valid
    have := date.day_valid
    have := daysIn_bounds date.year date.month
    omega
  have lengths (date : NaiveDate) :
      ('-' :: padded 2 date.month ++ '-' :: padded 2 date.day).length = 6 := by
    simp [length_padded (small date).1, length_padded (small date).2]
  obtain ⟨years, rest⟩ := List.append_inj' whole
    ((lengths first).trans (lengths second).symm)
  obtain ⟨months, days⟩ := List.append_inj (List.cons.inj rest).2
    (by rw [length_padded (small first).1, length_padded (small second).1])
  apply NaiveDate.ext
  · exact yearText_injective years
  · exact padded_injective months
  · exact padded_injective (List.cons.inj days).2

/-! ### Reading -/

/-- Decimal digits, at least one. -/
def readDigits (digits : List Char) : Option Nat :=
  if !digits.isEmpty && digits.all Char.isDigit then
    some (Nat.ofDigitChars 10 digits 0)
  else none

/-- A year, month and day after a sign. -/
def readFields (negative : Bool) (fields : List Char) : Option NaiveDate :=
  match CharacterLists.split '-' fields with
  | [year, month, day] => do
      let year ← readDigits year
      let month ← readDigits month
      let day ← readDigits day
      make? (if negative then -year else year) month day
  | _ => none

def readText : List Char → Option NaiveDate
  | '-' :: fields => readFields true fields
  | '+' :: fields => readFields false fields
  | fields => readFields false fields

/-- `date`: what is not the text of a date is refused. -/
def date (value : String) : Except String NaiveDate :=
  match readText value.toList with
  | some day =>
      if day.text = value then .ok day else .error "expected YYYY-MM-DD"
  | none => .error "expected YYYY-MM-DD"

theorem readDigits_padded (width number : Nat) :
    readDigits (padded width number) = some number := by
  have shown : padded width number ≠ [] :=
    List.append_ne_nil_of_right_ne_nil _ Nat.toDigits_ne_nil
  have digits : (padded width number).all Char.isDigit = true :=
    List.all_eq_true.mpr fun _ among => padded_isDigit among
  rw [readDigits, digits, List.isEmpty_eq_false_iff.mpr shown,
    ofDigitChars_padded]
  rfl

theorem hyphen_not_mem_padded (width number : Nat) :
    '-' ∉ padded width number :=
  fun among => absurd (padded_isDigit among) (by decide)

theorem readFields_padded (negative : Bool) (width year month day : Nat) :
    readFields negative (padded width year ++
        ('-' :: padded 2 month ++ '-' :: padded 2 day)) =
      make? (if negative then -year else year) month day := by
  have parts : CharacterLists.split '-' (padded width year ++
      ('-' :: padded 2 month ++ '-' :: padded 2 day)) =
        [padded width year, padded 2 month, padded 2 day] := by
    rw [List.cons_append, CharacterLists.split_append,
      CharacterLists.split_append,
      CharacterLists.split_of_not_mem (hyphen_not_mem_padded width year),
      CharacterLists.split_of_not_mem (hyphen_not_mem_padded 2 month),
      CharacterLists.split_of_not_mem (hyphen_not_mem_padded 2 day)]
    rfl
  rw [readFields, parts]
  simp only [readDigits_padded]
  rfl

theorem readText_unsigned {text : List Char}
    (digit : ∀ char, text.head? = some char → char.isDigit = true) :
    readText text = readFields false text := by
  unfold readText
  split
  · exact absurd (digit '-' rfl) (by decide)
  · exact absurd (digit '+' rfl) (by decide)
  · rfl

/-- The text of a date is read back. -/
theorem date_text (day : NaiveDate) : date day.text = .ok day := by
  have found : readText day.text.toList = some day := by
    rw [text, String.toList_ofList, yearText]
    by_cases four : 0 ≤ day.year ∧ day.year ≤ 9999
    · rw [if_pos four, readText_unsigned, readFields_padded,
        if_neg (by decide), Int.natAbs_of_nonneg four.1]
      · exact make?_self day
      · intro char head
        have shown : padded 4 day.year.natAbs ≠ [] :=
          List.append_ne_nil_of_right_ne_nil _ Nat.toDigits_ne_nil
        rw [List.head?_append_of_ne_nil _ shown] at head
        exact padded_isDigit (List.mem_of_mem_head? head)
    · rw [if_neg four]
      by_cases negative : day.year < 0
      · rw [if_pos negative]
        apply (readFields_padded true 4 _ day.month day.day).trans
        have year : -(day.year.natAbs : Int) = day.year := by omega
        rw [if_pos rfl, year]
        exact make?_self day
      · rw [if_neg negative]
        apply (readFields_padded false 4 _ day.month day.day).trans
        have year : (day.year.natAbs : Int) = day.year := by omega
        rw [if_neg (by decide), year]
        exact make?_self day
  rw [date, found]
  exact if_pos rfl

theorem text_of_date {value : String} {day : NaiveDate}
    (read : date value = .ok day) : day.text = value := by
  rw [date] at read
  split at read
  · split at read
    · rename_i same
      cases read
      exact same
    · cases read
  · cases read

theorem text_ne_empty (date : NaiveDate) : date.text ≠ "" := by
  intro empty
  have chars := congrArg String.toList empty
  rw [text, String.toList_ofList] at chars
  simp at chars

end NaiveDate

end BarDaemon
