import BarDaemon.NaiveDateSuccession

/-!
# The order of the texts of dates

Among dates whose years have four digits the texts are in the order of the
dates.
-/

namespace BarDaemon.NaiveDate

theorem digit_bounds {char : Char} (digit : char.isDigit = true) :
    48 ≤ char.toNat ∧ char.toNat ≤ 57 :=
  Char.isDigit_iff_toNat.mp digit

/-- Digits of the same width are in the order of their numbers. -/
theorem digits_lt {first second : List Char}
    (firstDigits : ∀ char ∈ first, char.isDigit = true)
    (secondDigits : ∀ char ∈ second, char.isDigit = true)
    (width : first.length = second.length) {start other : Nat}
    (less : Nat.ofDigitChars 10 first start <
      Nat.ofDigitChars 10 second other) :
    start < other ∨ (start = other ∧ first < second) := by
  induction first generalizing second start other with
  | nil =>
      obtain rfl := List.length_eq_zero_iff.mp width.symm
      rw [Nat.ofDigitChars_nil, Nat.ofDigitChars_nil] at less
      exact .inl less
  | cons char chars ih =>
      cases second with
      | nil => cases width
      | cons digit digits =>
          rw [Nat.ofDigitChars_cons, Nat.ofDigitChars_cons] at less
          have rest := ih
            (fun other among => firstDigits other (List.mem_cons_of_mem _ among))
            (fun other among => secondDigits other (List.mem_cons_of_mem _ among))
            (Nat.succ.inj width) less
          have low := digit_bounds (firstDigits char List.mem_cons_self)
          have high := digit_bounds (secondDigits digit List.mem_cons_self)
          have zero : '0'.toNat = 48 := rfl
          rw [zero] at rest
          have compare : char < digit ↔ char.toNat < digit.toNat := Iff.rfl
          rw [List.cons_lt_cons_iff, compare]
          rcases rest with earlier | ⟨same, ordered⟩
          · by_cases starts : start < other
            · exact .inl starts
            · exact .inr ⟨by omega, .inl (by omega)⟩
          · have char_eq : char = digit := Char.toNat_inj.mp (by omega)
            exact .inr ⟨by omega, .inr ⟨char_eq, ordered⟩⟩

theorem append_lt_append {first second : List Char}
    (width : first.length = second.length) (less : first < second)
    (rest other : List Char) : first ++ rest < second ++ other := by
  induction first generalizing second with
  | nil =>
      obtain rfl := List.length_eq_zero_iff.mp width.symm
      exact absurd less (List.lt_irrefl [])
  | cons char chars ih =>
      cases second with
      | nil => cases width
      | cons digit digits =>
          rw [List.cons_append, List.cons_append, List.cons_lt_cons_iff]
          rcases List.cons_lt_cons_iff.mp less with lower | ⟨same, less⟩
          · exact .inl lower
          · exact .inr ⟨same, ih (Nat.succ.inj width) less⟩

theorem length_padded_of_lt {width number : Nat} (positive : 0 < width)
    (fits : number < 10 ^ width) : (padded width number).length = width := by
  have short := (Nat.length_toDigits_le_iff (by decide) positive).mpr fits
  rw [padded, List.length_append, List.length_replicate]
  omega

theorem padded_lt {width first second : Nat} (positive : 0 < width)
    (fits : second < 10 ^ width) (less : first < second) :
    padded width first < padded width second := by
  have numbers : Nat.ofDigitChars 10 (padded width first) 0 <
      Nat.ofDigitChars 10 (padded width second) 0 := by
    rw [ofDigitChars_padded, ofDigitChars_padded]
    exact less
  have width : (padded width first).length = (padded width second).length := by
    rw [length_padded_of_lt positive fits,
      length_padded_of_lt positive (less.trans fits)]
  rcases digits_lt (fun _ => padded_isDigit) (fun _ => padded_isDigit) width
    numbers with impossible | ⟨_, ordered⟩
  · exact absurd impossible (Nat.lt_irrefl 0)
  · exact ordered

/-- The text of a date whose year has four digits. -/
theorem text_of_four {day : NaiveDate} (four : 0 ≤ day.year ∧ day.year ≤ 9999) :
    day.text.toList = padded 4 day.year.natAbs ++
      ('-' :: (padded 2 day.month ++ '-' :: padded 2 day.day)) := by
  rw [text, String.toList_ofList, yearText, if_pos four]
  rfl

theorem length_text {day : NaiveDate} (four : 0 ≤ day.year ∧ day.year ≤ 9999) :
    day.text.toList.length = 10 := by
  have month := day.month_valid
  have days := daysIn_bounds day.year day.month
  have valid := day.day_valid
  rw [text_of_four four]
  simp only [List.length_append, List.length_cons]
  rw [length_padded_of_lt (by decide) (by omega), length_padded (by omega),
    length_padded (by omega)]

/-- Every character of such a text is an ASCII one. -/
theorem text_ascii {day : NaiveDate} (four : 0 ≤ day.year ∧ day.year ≤ 9999) :
    ∀ char ∈ day.text.toList, char.toNat < 128 := by
  have small {width number : Nat} {char : Char}
      (among : char ∈ padded width number) : char.toNat < 128 := by
    have digit := digit_bounds (padded_isDigit among)
    omega
  intro char among
  rw [text_of_four four] at among
  simp only [List.mem_append, List.mem_cons] at among
  rcases among with year | rfl | month | rfl | day
  · exact small year
  · decide
  · exact small month
  · decide
  · exact small day

theorem text_lt_text {first last : NaiveDate}
    (four : 0 ≤ first.year ∧ last.year ≤ 9999)
    (earlier : first.before last = true) :
    first.text.toList < last.text.toList := by
  have month := last.month_valid
  have day := last.day_valid
  have days := daysIn_bounds last.year last.month
  have firstMonth := first.month_valid
  have firstDay := first.day_valid
  have firstDays := daysIn_bounds first.year first.month
  have ordered := (before_iff first last).mp earlier
  unfold place at ordered
  rw [@text_of_four first (by omega),
    @text_of_four last (by omega)]
  by_cases year : first.year < last.year
  · apply append_lt_append
    · rw [length_padded_of_lt (by decide) (by omega),
        length_padded_of_lt (by decide) (by omega)]
    · exact padded_lt (by decide) (by omega) (by omega)
  have sameYear : first.year = last.year := by omega
  rw [sameYear]
  apply List.append_left_lt
  rw [List.cons_lt_cons_iff]
  refine .inr ⟨rfl, ?_⟩
  by_cases earlierMonth : first.month < last.month
  · apply append_lt_append
    · rw [length_padded (by omega), length_padded (by omega)]
    · exact padded_lt (by decide) (by omega) earlierMonth
  have sameMonth : first.month = last.month := by omega
  rw [sameMonth]
  apply List.append_left_lt
  rw [List.cons_lt_cons_iff]
  refine .inr ⟨rfl, ?_⟩
  exact padded_lt (by decide) (by omega) (by omega)

/-- The texts of dates are in the order of the dates. -/
theorem text_le_text {first last : NaiveDate}
    (four : 0 ≤ first.year ∧ last.year ≤ 9999)
    (ordered : last.before first = false) : first.text ≤ last.text := by
  by_cases earlier : first.before last = true
  · have less : first.text < last.text := text_lt_text four earlier
    exact fun greater =>
      String.lt_irrefl _ (String.lt_trans less greater)
  · rw [Bool.eq_false_iff, Ne, before_iff] at ordered
    rw [before_iff] at earlier
    obtain rfl : first = last := place_injective (by omega)
    exact String.le_refl _

end BarDaemon.NaiveDate
