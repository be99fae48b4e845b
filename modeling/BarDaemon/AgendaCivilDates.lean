import BarDaemon.AgendaPages
import BarDaemon.NaiveDateTexts

/-!
# Civil dates, as they are accepted and as they are projected

The validator takes more spellings of a date than the projection reads.
-/

namespace BarDaemon.Agendas

open CompactJson FallibleSteps NaiveDate

/-! ## Spellings -/

/-- The numbers of a text of four, two and two digits. -/
def fieldsOf (text : String) : Option (List Char × List Char × List Char) :=
  match text.toList with
  | [y1, y2, y3, y4, '-', m1, m2, '-', d1, d2] =>
      if [y1, y2, y3, y4, m1, m2, d1, d2].all Char.isDigit then
        some ([y1, y2, y3, y4], [m1, m2], [d1, d2])
      else none
  | _ => none

/-- A text that is written `YYYY-MM-DD`. -/
def Plain (text : String) : Prop :=
  (fieldsOf text).isSome = true

/-- What `parse_from_str` does with such texts: it takes those of dates. -/
def Calendar.ReadsPlain (calendar : Calendar) : Prop :=
  ∀ text years months days, fieldsOf text = some (years, months, days) →
    calendar.parsesDate text = true →
      (make? (Nat.ofDigitChars 10 years 0) (Nat.ofDigitChars 10 months 0)
        (Nat.ofDigitChars 10 days 0)).isSome = true

/-- The numbers of digits of one width tell them apart. -/
theorem digits_injective {first second : List Char}
    (firstDigits : ∀ char ∈ first, char.isDigit = true)
    (secondDigits : ∀ char ∈ second, char.isDigit = true)
    (width : first.length = second.length) {start other : Nat}
    (same : Nat.ofDigitChars 10 first start =
      Nat.ofDigitChars 10 second other) :
    start = other ∧ first = second := by
  induction first generalizing second start other with
  | nil =>
      obtain rfl := List.length_eq_zero_iff.mp width.symm
      exact ⟨same, rfl⟩
  | cons char chars ih =>
      cases second with
      | nil => cases width
      | cons digit digits =>
          rw [Nat.ofDigitChars_cons, Nat.ofDigitChars_cons] at same
          obtain ⟨value, rest⟩ := ih
            (fun other among => firstDigits other (List.mem_cons_of_mem _ among))
            (fun other among => secondDigits other (List.mem_cons_of_mem _ among))
            (Nat.succ.inj width) same
          have low := digit_bounds (firstDigits char List.mem_cons_self)
          have high := digit_bounds (secondDigits digit List.mem_cons_self)
          have zero : '0'.toNat = 48 := rfl
          rw [zero] at value
          have char_eq : char = digit := Char.toNat_inj.mp (by omega)
          exact ⟨by omega, by rw [char_eq, rest]⟩

theorem fieldsOf_eq_some {text : String} {years months days : List Char}
    (fields : fieldsOf text = some (years, months, days)) :
    text.toList = years ++ ('-' :: (months ++ '-' :: days)) ∧
      years.length = 4 ∧ months.length = 2 ∧ days.length = 2 ∧
      ∀ char ∈ years ++ (months ++ days), char.isDigit = true := by
  unfold fieldsOf at fields
  split at fields
  · rename_i y1 y2 y3 y4 m1 m2 d1 d2 shape
    split at fields
    · rename_i digits
      obtain ⟨rfl, rfl, rfl⟩ := fields
      exact ⟨shape, rfl, rfl, rfl, fun char among =>
        List.all_eq_true.mp digits char among⟩
    · cases fields
  · cases fields

theorem fieldsOf_joined {years months days : List Char}
    (fourYears : years.length = 4) (twoMonths : months.length = 2)
    (twoDays : days.length = 2)
    (digits : ∀ char ∈ years ++ (months ++ days), char.isDigit = true) :
    fieldsOf (String.ofList (years ++ ('-' :: (months ++ '-' :: days)))) =
      some (years, months, days) := by
  obtain ⟨y1, y2, y3, y4, rfl⟩ := List.length_eq_four.mp fourYears
  obtain ⟨m1, m2, rfl⟩ := List.length_eq_two.mp twoMonths
  obtain ⟨d1, d2, rfl⟩ := List.length_eq_two.mp twoDays
  have all : [y1, y2, y3, y4, m1, m2, d1, d2].all Char.isDigit = true :=
    List.all_eq_true.mpr digits
  unfold fieldsOf
  rw [String.toList_ofList]
  exact if_pos all

theorem ofDigitChars_lt {digits : List Char}
    (all : ∀ char ∈ digits, char.isDigit = true) (start : Nat) :
    Nat.ofDigitChars 10 digits start < (start + 1) * 10 ^ digits.length := by
  induction digits generalizing start with
  | nil => rw [Nat.ofDigitChars_nil, List.length_nil]; omega
  | cons char chars ih =>
      have bounds := digit_bounds (all char List.mem_cons_self)
      have zero : '0'.toNat = 48 := rfl
      have rest := ih (fun other among => all other (List.mem_cons_of_mem _ among))
        (10 * start + (char.toNat - '0'.toNat))
      have scaled : (10 * start + (char.toNat - '0'.toNat) + 1) *
          10 ^ chars.length ≤ (start + 1) * 10 * 10 ^ chars.length :=
        Nat.mul_le_mul_right _ (by omega)
      rw [Nat.ofDigitChars_cons, List.length_cons, Nat.pow_succ',
        ← Nat.mul_assoc]
      exact rest.trans_le scaled

/-- The digits of a number that has so many. -/
theorem padded_ofDigitChars {digits : List Char} {width number : Nat}
    (all : ∀ char ∈ digits, char.isDigit = true)
    (length : digits.length = width) (positive : 0 < width)
    (value : number = Nat.ofDigitChars 10 digits 0) :
    padded width number = digits := by
  have fits := ofDigitChars_lt all 0
  rw [Nat.zero_add, Nat.one_mul, length, ← value] at fits
  exact (digits_injective (fun _ => padded_isDigit) all
    ((length_padded_of_lt positive fits).trans length.symm)
    ((ofDigitChars_padded _ _).trans value)).2

/-- A plain text that is taken is the text of a date. -/
theorem text_of_plain {calendar : Calendar} (reads : calendar.ReadsPlain)
    {value : String} (plain : Plain value)
    (taken : calendar.parsesDate value = true) :
    ∃ day : NaiveDate, day.text = value ∧ 0 ≤ day.year ∧ day.year ≤ 9999 := by
  obtain ⟨⟨years, months, days⟩, fields⟩ := Option.isSome_iff_exists.mp plain
  obtain ⟨day, made⟩ := Option.isSome_iff_exists.mp
    (reads value years months days fields taken)
  obtain ⟨shape, fourYears, twoMonths, twoDays, digits⟩ :=
    fieldsOf_eq_some fields
  obtain ⟨year, month, dayOf⟩ := of_make? made
  have yearDigits : ∀ char ∈ years, char.isDigit = true := fun char among =>
    digits char (List.mem_append_left _ among)
  have monthDigits : ∀ char ∈ months, char.isDigit = true := fun char among =>
    digits char (List.mem_append_right _ (List.mem_append_left _ among))
  have dayDigits : ∀ char ∈ days, char.isDigit = true := fun char among =>
    digits char (List.mem_append_right _ (List.mem_append_right _ among))
  have small := ofDigitChars_lt yearDigits 0
  rw [fourYears] at small
  have four : 0 ≤ day.year ∧ day.year ≤ 9999 := by omega
  refine ⟨day, String.toList_injective ?_, four⟩
  rw [text_of_four four, shape,
    padded_ofDigitChars yearDigits fourYears (by decide) (by omega),
    padded_ofDigitChars monthDigits twoMonths (by decide) month,
    padded_ofDigitChars dayDigits twoDays (by decide) dayOf]

theorem length_le_width (chars : List Char) : chars.length ≤ width chars := by
  induction chars with
  | nil => exact Nat.le_refl 0
  | cons char chars ih =>
      have size := char.utf8Size_pos
      rw [List.length_cons, width_cons]
      omega

/-- The text of a date in ten bytes is plain. -/
theorem plain_text {day : NaiveDate} (ten : byteLength day.text = 10) :
    Plain day.text ∧ 0 ≤ day.year ∧ day.year ≤ 9999 := by
  have month := day.month_valid
  have valid := day.day_valid
  have days := daysIn_bounds day.year day.month
  have four : 0 ≤ day.year ∧ day.year ≤ 9999 := by
    by_contra signed
    have yearWidth : 4 ≤ (padded 4 day.year.natAbs).length := by
      rw [padded, List.length_append, List.length_replicate]
      omega
    have letters : 10 < day.text.toList.length := by
      rw [NaiveDate.text, String.toList_ofList, yearText, if_neg signed]
      simp only [List.length_append, List.length_cons,
        @length_padded day.month (by omega), @length_padded day.day (by omega)]
      omega
    have bytes := length_le_width day.text.toList
    rw [width_toList] at bytes
    omega
  refine ⟨?_, four⟩
  rw [Plain, ← String.ofList_toList (s := day.text), text_of_four four,
    fieldsOf_joined (length_padded_of_lt (by decide) (by omega))
      (length_padded (by omega)) (length_padded (by omega))]
  · rfl
  · intro char among
    simp only [List.mem_append] at among
    rcases among with year | month | day
    · exact padded_isDigit year
    · exact padded_isDigit month
    · exact padded_isDigit day

/-! ## Projection -/

/-- The days from one to another. -/
def within (first last day : NaiveDate) : Bool :=
  !day.before first && !last.before day

/-- A projection reads a schedule as its validator does. -/
structure Agrees (p : Projection) (schedule : Schedule) : Prop where
  startRead : schedule.startDate.isSome = true →
    (p.storedDates schedule).1.isSome = true
  stopRead : schedule.endDate.isSome = true →
    (p.storedDates schedule).2.isSome = true
  ordered : ∀ start stop first last, schedule.startDate = some start →
    schedule.endDate = some stop → start ≤ stop →
      p.storedDates schedule = (some first, some last) →
        last.before first = false
  both : schedule.mode = .date → schedule.startDate.isSome = true →
    schedule.endDate.isSome = true → ∃ first last,
      p.storedDates schedule = (some first, some last) ∧
        ∀ day, p.includes schedule day = within first last day
  startOnly : schedule.mode = .date → schedule.startDate.isSome = true →
    schedule.endDate = none → ∃ first,
      p.storedDates schedule = (some first, none) ∧
        ∀ day, p.includes schedule day = within first p.today day
  stopOnly : schedule.mode = .date → schedule.startDate = none →
    schedule.endDate.isSome = true → ∃ last,
      p.storedDates schedule = (none, some last) ∧
        ∀ day, p.includes schedule day = within p.today last day
  undated : schedule.startDate = none → schedule.endDate = none →
    schedule.startUnixMs = none → schedule.endUnixMs = none →
      ∀ day, p.includes schedule day = false

/-- Every date of a schedule is spelled plainly. -/
def Schedule.Spelled (schedule : Schedule) : Prop :=
  (∀ text, schedule.startDate = some text → Plain text) ∧
    ∀ text, schedule.endDate = some text → Plain text

theorem within_reversed {first last day : NaiveDate}
    (reversed : last.before first = true) : within first last day = false := by
  rw [before_iff] at reversed
  by_contra some
  rw [Bool.not_eq_false, within, Bool.and_eq_true_iff, Bool.not_eq_true',
    Bool.not_eq_true', Bool.eq_false_iff, Ne, before_iff, Bool.eq_false_iff, Ne,
    before_iff] at some
  omega

/-- The membership of a range of days that may be reversed. -/
theorem any_ranged (first last day : NaiveDate) (bounds : Option (I64 × I64)) :
    ((if !last.before first then some (first, last) else none).map
      fun (first, last) => Membership.civil first last).any
        (·.includes day bounds) = within first last day := by
  by_cases reversed : last.before first = true
  · rw [within_reversed reversed, reversed]
    rfl
  · rw [Bool.eq_false_iff.mpr reversed]
    rfl

section Dated

variable {p : Projection} {schedule : Schedule} {first last : NaiveDate}

theorem includes_dated (dated : schedule.mode = .date) (day : NaiveDate) :
    p.includes schedule day =
      ((p.civilRange (p.storedDates schedule).1 (p.storedDates schedule).2).map
        fun (first, last) => Membership.civil first last).any
          (·.includes day (p.bounds day)) := by
  rw [Projection.includes, Projection.membership, dated]

theorem includes_both (dated : schedule.mode = .date)
    (stored : p.storedDates schedule = (some first, some last))
    (day : NaiveDate) : p.includes schedule day = within first last day := by
  rw [includes_dated dated, stored]
  exact any_ranged first last day _

theorem includes_start (dated : schedule.mode = .date)
    (stored : p.storedDates schedule = (some first, none)) (day : NaiveDate) :
    p.includes schedule day = within first p.today day := by
  rw [includes_dated dated, stored]
  exact any_ranged first p.today day _

theorem includes_stop (dated : schedule.mode = .date)
    (stored : p.storedDates schedule = (none, some last)) (day : NaiveDate) :
    p.includes schedule day = within p.today last day := by
  rw [includes_dated dated, stored]
  exact any_ranged p.today last day _

theorem storedDates_dated (dated : schedule.mode = .date) :
    p.storedDates schedule =
      (schedule.startDate.bind fun text => (date text).toOption,
        schedule.endDate.bind fun text => (date text).toOption) := by
  rw [Projection.storedDates, dated]

/-- A schedule without endpoints is on no day. -/
theorem includes_undated (noStart : schedule.startDate = none)
    (noEnd : schedule.endDate = none) (noStartMs : schedule.startUnixMs = none)
    (noEndMs : schedule.endUnixMs = none) (day : NaiveDate) :
    p.includes schedule day = false := by
  cases mode : schedule.mode with
  | date =>
      rw [includes_dated mode, storedDates_dated mode, noStart, noEnd]
      rfl
  | timed =>
      rw [Projection.includes, Projection.membership, mode]
      simp only [Projection.timedRange, noStartMs, noEndMs]
      rfl

end Dated

/-! ## Acceptance -/

variable {calendar : Calendar} {schedule : Schedule}

/-- What the validator has seen of an endpoint. -/
def Taken (calendar : Calendar) (endpoint : Option String) : Prop :=
  ∀ text, endpoint = some text →
    byteLength text = 10 ∧ calendar.parsesDate text = true

theorem taken_of_whenSome {endpoint : Option String} {done : Unit}
    (checked : whenSome endpoint (checkCivilDate calendar) = .ok done) :
    Taken calendar endpoint := by
  rintro text rfl
  obtain ⟨length, parses⟩ := Bool.and_eq_true_iff.mp
    (ensure_eq_ok_iff.mp checked)
  exact ⟨eq_of_beq length, parses⟩

theorem taken_of_validate {allowInstant : Bool} {done : Unit}
    (valid : schedule.validate calendar allowInstant = .ok done) :
    Taken calendar schedule.startDate ∧ Taken calendar schedule.endDate ∧
      (schedule.mode = .timed →
        schedule.startDate = none ∧ schedule.endDate = none) := by
  rw [Schedule.validate] at valid
  split at valid
  · rename_i dated
    obtain ⟨_, valid⟩ := ensure_then_eq_ok_iff.mp valid
    obtain ⟨_, start, valid⟩ := bind_eq_ok_iff.mp valid
    obtain ⟨_, stop, _⟩ := bind_eq_ok_iff.mp valid
    refine ⟨taken_of_whenSome start, taken_of_whenSome stop, fun timed => ?_⟩
    rw [dated] at timed
    cases timed
  · obtain ⟨_, _, valid⟩ := bind_eq_ok_iff.mp valid
    obtain ⟨undated, _⟩ := ensure_then_eq_ok_iff.mp valid
    obtain ⟨start, stop⟩ := Bool.and_eq_true_iff.mp undated
    rw [Option.isNone_iff_eq_none] at start stop
    refine ⟨?_, ?_, fun _ => ⟨start, stop⟩⟩
    · rw [start]
      exact fun _ absent => by cases absent
    · rw [stop]
      exact fun _ absent => by cases absent

/-- A plain endpoint is read, as a date of a year with four digits. -/
theorem read_of_plain (reads : calendar.ReadsPlain) {endpoint : Option String}
    (taken : Taken calendar endpoint)
    (plain : ∀ text, endpoint = some text → Plain text) {text : String}
    (present : endpoint = some text) :
    ∃ day : NaiveDate, day.text = text ∧ 0 ≤ day.year ∧ day.year ≤ 9999 ∧
      (endpoint.bind fun text => (date text).toOption) = some day := by
  obtain ⟨day, same, year⟩ := text_of_plain reads (plain text present)
    (taken text present).2
  refine ⟨day, same, year.1, year.2, ?_⟩
  rw [present, ← same, Option.bind_some, date_text]
  rfl

/-- An endpoint that is read is plain. -/
theorem plain_of_read {endpoint : Option String}
    (taken : Taken calendar endpoint)
    (read : endpoint.isSome = true →
      (endpoint.bind fun text => (date text).toOption).isSome = true)
    (text : String) (present : endpoint = some text) : Plain text := by
  have found := read (by rw [present]; rfl)
  rw [present, Option.bind_some] at found
  cases result : date text with
  | error _ => rw [result] at found; cases found
  | ok day =>
      have same := text_of_date result
      have ten := (taken text present).1
      rw [← same] at ten ⊢
      exact (plain_text ten).1

theorem agrees_iff (reads : calendar.ReadsPlain) {allowInstant : Bool}
    {done : Unit}
    (valid : schedule.validate calendar allowInstant = .ok done)
    (p : Projection) : Agrees p schedule ↔ schedule.Spelled := by
  obtain ⟨startTaken, stopTaken, timedUndated⟩ := taken_of_validate valid
  have dated {text : String} (present : schedule.startDate = some text ∨
      schedule.endDate = some text) : schedule.mode = .date := by
    cases mode : schedule.mode with
    | date => rfl
    | timed =>
        obtain ⟨noStart, noStop⟩ := timedUndated mode
        rw [noStart, noStop] at present
        rcases present with absent | absent <;> cases absent
  constructor
  · intro agrees
    constructor
    · intro text present
      have stored := storedDates_dated (p := p) (dated (.inl present))
      refine plain_of_read startTaken (fun some => ?_) text present
      have read := agrees.startRead some
      rwa [stored] at read
    · intro text present
      have stored := storedDates_dated (p := p) (dated (.inr present))
      refine plain_of_read stopTaken (fun some => ?_) text present
      have read := agrees.stopRead some
      rwa [stored] at read
  · rintro ⟨plainStart, plainStop⟩
    have started {text : String} (present : schedule.startDate = some text) :=
      read_of_plain reads startTaken plainStart present
    have stopped {text : String} (present : schedule.endDate = some text) :=
      read_of_plain reads stopTaken plainStop present
    constructor
    · intro some
      obtain ⟨text, present⟩ := Option.isSome_iff_exists.mp some
      obtain ⟨day, _, _, _, read⟩ := started present
      rw [storedDates_dated (dated (.inl present)), read]
      rfl
    · intro some
      obtain ⟨text, present⟩ := Option.isSome_iff_exists.mp some
      obtain ⟨day, _, _, _, read⟩ := stopped present
      rw [storedDates_dated (dated (.inr present)), read]
      rfl
    · intro start stop first last hasStart hasStop texts stored
      obtain ⟨day, sameStart, _, high, readStart⟩ := started hasStart
      obtain ⟨other, sameStop, low, _, readStop⟩ := stopped hasStop
      rw [storedDates_dated (dated (.inl hasStart)), readStart, readStop]
        at stored
      cases stored
      rw [Bool.eq_false_iff]
      intro reversed
      have less : last.text < first.text := text_lt_text ⟨low, high⟩ reversed
      rw [sameStart, sameStop] at less
      exact texts less
    · intro mode hasStart hasStop
      obtain ⟨start, startPresent⟩ := Option.isSome_iff_exists.mp hasStart
      obtain ⟨stop, stopPresent⟩ := Option.isSome_iff_exists.mp hasStop
      obtain ⟨first, _, _, _, readStart⟩ := started startPresent
      obtain ⟨last, _, _, _, readStop⟩ := stopped stopPresent
      have stored : p.storedDates schedule = (some first, some last) := by
        rw [storedDates_dated mode, readStart, readStop]
      exact ⟨first, last, stored, includes_both mode stored⟩
    · intro mode hasStart noStop
      obtain ⟨start, startPresent⟩ := Option.isSome_iff_exists.mp hasStart
      obtain ⟨first, _, _, _, readStart⟩ := started startPresent
      have stored : p.storedDates schedule = (some first, none) := by
        rw [storedDates_dated mode, readStart, noStop]
        rfl
      exact ⟨first, stored, includes_start mode stored⟩
    · intro mode noStart hasStop
      obtain ⟨stop, stopPresent⟩ := Option.isSome_iff_exists.mp hasStop
      obtain ⟨last, _, _, _, readStop⟩ := stopped stopPresent
      have stored : p.storedDates schedule = (none, some last) := by
        rw [storedDates_dated mode, readStop, noStart]
        rfl
      exact ⟨last, stored, includes_stop mode stored⟩
    · exact fun noStart noStop noStartMs noStopMs =>
        includes_undated noStart noStop noStartMs noStopMs

/-! ## Catalog -/

theorem order_fst_eq_zero_iff (p : Projection) (item : Record) :
    (order p item).1 = 0 ↔ p.includes item.schedule p.today = true := by
  unfold order
  by_cases today : p.includes item.schedule p.today = true
  · simp [today]
  · simp only [today]
    cases ((p.storedDates item.schedule).1.or (p.storedDates item.schedule).2) with
    | none => simp
    | some day =>
        by_cases later : p.today.before day = true
        · simp [later]
        · simp [later]

/-- What is of today is before what is not. -/
theorem catalog_pairwise (lowercase : String → String) (items : List Record)
    (p : Projection) : (Catalog.new lowercase items p).items.Pairwise
      fun first second => p.includes second.schedule p.today = true →
        p.includes first.schedule p.today = true := by
  have sorted := @List.pairwise_mergeSort Record
    (fun first second =>
      let left := order p first
      let right := order p second
      left.1 < right.1 || (left.1 == right.1 && left.2 ≤ right.2))
    (by
      intro first second third
      simp only [Bool.or_eq_true, Bool.and_eq_true, decide_eq_true_eq, beq_iff_eq]
      omega)
    (by
      intro first second
      simp only [Bool.or_eq_true, Bool.and_eq_true, decide_eq_true_eq, beq_iff_eq]
      omega)
    (items.mergeSort fun first second => decide (first.id ≤ second.id))
  refine sorted.imp fun {first second} ordered today => ?_
  rw [← order_fst_eq_zero_iff] at today ⊢
  simp only [Bool.or_eq_true, Bool.and_eq_true, decide_eq_true_eq, beq_iff_eq]
    at ordered
  omega

/-- An accepted schedule is projected as it was validated exactly when its
dates are spelled plainly. In the catalog, what is of today comes first. -/
theorem projection_agrees {calendar : Calendar} (reads : calendar.ReadsPlain)
    {schedule : Schedule} {allowInstant : Bool}
    (valid : schedule.validate calendar allowInstant = .ok ())
    (p : Projection) :
    (Agrees p schedule ↔ schedule.Spelled) ∧
      ∀ (lowercase : String → String) (items : List Record),
        (Catalog.new lowercase items p).items.Pairwise fun first second =>
          p.includes second.schedule p.today = true →
            p.includes first.schedule p.today = true :=
  ⟨agrees_iff reads valid p, fun lowercase items =>
    catalog_pairwise lowercase items p⟩

/-! ## A spelling that is taken and not read -/

/-- A calendar that takes signs and single digits. -/
def lenient : Calendar where
  parsesDate text := (readText text.toList).isSome
  knowsZone _ := true
  isInstant _ := true

theorem readText_plain {years months days : List Char}
    (fourYears : years.length = 4) (twoMonths : months.length = 2)
    (twoDays : days.length = 2)
    (digits : ∀ char ∈ years ++ (months ++ days), char.isDigit = true) :
    readText (years ++ ('-' :: (months ++ '-' :: days))) =
      make? (Nat.ofDigitChars 10 years 0) (Nat.ofDigitChars 10 months 0)
        (Nat.ofDigitChars 10 days 0) := by
  have year := padded_ofDigitChars (fun char among =>
    digits char (List.mem_append_left _ among)) fourYears (by decide) rfl
  have month := padded_ofDigitChars (fun char among =>
    digits char (List.mem_append_right _ (List.mem_append_left _ among)))
    twoMonths (by decide) rfl
  have day := padded_ofDigitChars (fun char among =>
    digits char (List.mem_append_right _ (List.mem_append_right _ among)))
    twoDays (by decide) rfl
  rw [readText_unsigned]
  · have fields := readFields_padded false 4 (Nat.ofDigitChars 10 years 0)
      (Nat.ofDigitChars 10 months 0) (Nat.ofDigitChars 10 days 0)
    rw [year, month, day, if_neg (by decide)] at fields
    exact fields
  · intro char head
    have shown : years ≠ [] := List.ne_nil_of_length_eq_add_one fourYears
    rw [List.head?_append_of_ne_nil _ shown] at head
    exact digits char (List.mem_append_left _ (List.mem_of_mem_head? head))

theorem readsPlain_lenient : lenient.ReadsPlain := by
  intro text years months days fields taken
  obtain ⟨shape, fourYears, twoMonths, twoDays, digits⟩ :=
    fieldsOf_eq_some fields
  have read : (readText text.toList).isSome = true := taken
  rwa [shape, readText_plain fourYears twoMonths twoDays digits] at read

def fifth : NaiveDate :=
  ⟨2026, 1, 5, year_2026_valid, january_valid, by decide⟩

/-- The fifth of January, in ten bytes. -/
def signed : Schedule where
  mode := .date
  startDate := some "+2026-01-5"
  endDate := some "+2026-01-5"
  startUnixMs := none
  endUnixMs := none
  timezone := none

def january : Projection where
  today := fifth
  zone := ⟨fun _ _ => none, fun _ => none⟩

/-- A schedule of one day that is accepted and is on no day. -/
theorem signed_date_is_invisible :
    signed.validate lenient false = .ok () ∧
      readText "+2026-01-5".toList = some fifth ∧
      january.storedDates signed = (none, none) ∧
      (∀ day, january.includes signed day = false) ∧
      ¬ Agrees january signed := by
  have stored : january.storedDates signed = (none, none) := by
    decide +kernel
  refine ⟨by decide +kernel, by decide +kernel, stored, ?_, ?_⟩
  · intro day
    rw [includes_dated rfl, stored]
    rfl
  · intro agrees
    have read := agrees.startRead rfl
    rw [stored] at read
    cases read

def plainFifth : Schedule :=
  { signed with
    startDate := some "2026-01-05"
    endDate := none }

/-- A plain date up to today. -/
theorem projection_agrees_sample :
    (Agrees january plainFifth ↔ plainFifth.Spelled) ∧
      ∀ (lowercase : String → String) (items : List Record),
        (Catalog.new lowercase items january).items.Pairwise
          fun first second =>
            january.includes second.schedule january.today = true →
              january.includes first.schedule january.today = true :=
  @projection_agrees lenient readsPlain_lenient plainFifth false
    (by decide +kernel) january

end BarDaemon.Agendas
