import RowAudit.Proofs.Calendar.Date

/-!
Dates as text. A date written `YYYY-MM-DD` stands in the order of texts where it
stands in time, and the text of a moment begins with the text of its date; only
years with a sign leave the pattern.
-/

namespace RowAudit

namespace CalendarDate

variable {width n : Nat}

theorem isDigit_of_mem_padded {c : Char} (member : c ∈ padded width n) :
    c.isDigit = true := by
  rcases List.mem_append.mp member with zero | digit
  · rw [List.eq_of_mem_replicate zero]
    rfl
  · exact Nat.isDigit_of_mem_toDigits (by decide) (by decide) digit

theorem ofDigits_padded : Decimal.ofDigits (padded width n) = n := by
  rw [padded, Decimal.ofDigits_zeros_append]
  exact Decimal.ofDigits_digits n

theorem length_padded (nonempty : 0 < width) (small : n < 10 ^ width) :
    (padded width n).length = width := by
  have short : (Decimal.digits n).length ≤ width :=
    (Double.length_digits_le nonempty).mpr small
  rw [padded, List.length_append, List.length_replicate]
  exact Nat.sub_add_cancel short

end CalendarDate

/-- A date of the calendar written `YYYY-MM-DD`. -/
structure DateText where
  year : List Char
  month : List Char
  day : List Char
  yearLength : year.length = 4
  monthLength : month.length = 2
  dayLength : day.length = 2
  yearDigits : ∀ c ∈ year, c.isDigit = true
  monthDigits : ∀ c ∈ month, c.isDigit = true
  dayDigits : ∀ c ∈ day, c.isDigit = true
  valid : CalendarDate.Valid
    ⟨Decimal.ofDigits year, Decimal.ofDigits month, Decimal.ofDigits day⟩

namespace DateText

def chars (t : DateText) : List Char :=
  t.year ++ '-' :: t.month ++ '-' :: t.day

def text (t : DateText) : String :=
  String.ofList t.chars

def date (t : DateText) : CalendarDate :=
  ⟨Decimal.ofDigits t.year, Decimal.ofDigits t.month, Decimal.ofDigits t.day⟩

def midnight (t : DateText) : DateTime :=
  ⟨t.date.dayNumber - DateTime.epoch, 0⟩

variable (t : DateText)

theorem valid_date : t.date.Valid :=
  t.valid

theorem year_nonneg : 0 ≤ t.date.year :=
  Int.natCast_nonneg _

theorem year_le : t.date.year ≤ 9999 := by
  have below := Decimal.ofDigits_lt t.yearDigits
  rw [t.yearLength] at below
  exact Int.ofNat_le.mpr (Nat.le_of_lt_succ below)

theorem length_chars : t.chars.length = 10 := by
  rw [chars, List.length_append, List.length_append, List.length_cons,
    List.length_cons, t.yearLength, t.monthLength, t.dayLength]

theorem exists_chars_eq_cons :
    ∃ c rest, t.chars = c :: rest ∧ c.isDigit = true := by
  have digits := t.yearDigits
  have length := t.yearLength
  rw [chars]
  cases year : t.year with
  | nil =>
      rw [year] at length
      cases length
  | cons c rest =>
      rw [year] at digits
      exact ⟨c, _, rfl, digits c List.mem_cons_self⟩

theorem compare_hyphen (left right : List Char) :
    compare ('-' :: left) ('-' :: right) = compare left right := by
  rw [List.compare_cons_cons]
  rfl

theorem compare_chars (s t : DateText) :
    compare s.chars t.chars = s.date.order t.date := by
  have years : s.year.length = t.year.length :=
    s.yearLength.trans t.yearLength.symm
  have months : s.month.length = t.month.length :=
    s.monthLength.trans t.monthLength.symm
  have days : s.day.length = t.day.length := s.dayLength.trans t.dayLength.symm
  have fronts : (s.year ++ '-' :: s.month).length =
      (t.year ++ '-' :: t.month).length := by
    rw [List.length_append, List.length_append, List.length_cons,
      List.length_cons, years, months]
  rw [chars, chars, compare_append fronts, compare_append years, compare_hyphen,
    compare_hyphen, Ordering.then_assoc, CalendarDate.order, date, date,
    compare_intCast, Decimal.compare_ofDigits years s.yearDigits t.yearDigits,
    Decimal.compare_ofDigits months s.monthDigits t.monthDigits,
    Decimal.compare_ofDigits days s.dayDigits t.dayDigits]

theorem exists_eq_text {date : CalendarDate} (valid : date.Valid)
    (fromZero : 0 ≤ date.year) (upTo : date.year ≤ 9999) :
    ∃ t : DateText, t.chars = date.text ∧ t.date = date := by
  obtain ⟨year, month, day⟩ := date
  obtain ⟨count, rfl⟩ := Int.eq_ofNat_of_zero_le fromZero
  have yearText :
      CalendarDate.yearText count = CalendarDate.padded 4 count := by
    rw [CalendarDate.yearText, if_neg (Int.not_lt.mpr fromZero),
      if_neg (Int.not_lt.mpr upTo), Int.natAbs_natCast]
  have yearSmall : count < 10 ^ 4 := Nat.lt_succ_of_le (Int.ofNat_le.mp upTo)
  obtain ⟨monthSmall, daySmall⟩ : month ≤ 12 ∧ day ≤ 31 := valid.small
  let t : DateText := {
    year := CalendarDate.padded 4 count
    month := CalendarDate.padded 2 month
    day := CalendarDate.padded 2 day
    yearLength := CalendarDate.length_padded (by decide) yearSmall
    monthLength := CalendarDate.length_padded (by decide) (by omega)
    dayLength := CalendarDate.length_padded (by decide) (by omega)
    yearDigits := fun _ => CalendarDate.isDigit_of_mem_padded
    monthDigits := fun _ => CalendarDate.isDigit_of_mem_padded
    dayDigits := fun _ => CalendarDate.isDigit_of_mem_padded
    valid := by
      rw [CalendarDate.ofDigits_padded, CalendarDate.ofDigits_padded,
        CalendarDate.ofDigits_padded]
      exact valid
  }
  refine ⟨t, ?_, ?_⟩
  · rw [CalendarDate.text, yearText]
    rfl
  · show CalendarDate.mk (Decimal.ofDigits (CalendarDate.padded 4 count))
      (Decimal.ofDigits (CalendarDate.padded 2 month))
      (Decimal.ofDigits (CalendarDate.padded 2 day)) = _
    rw [CalendarDate.ofDigits_padded, CalendarDate.ofDigits_padded,
      CalendarDate.ofDigits_padded]

end DateText

namespace DateTime

variable (moment : DateTime) (t : DateText)

/-- A moment against a midnight: first the dates, then whether the day has gone
on. -/
theorem order_midnight :
    moment.order t.midnight =
      (moment.date.order t.date).then (compare moment.nanosecond 0) := by
  have shifted :
      compare moment.day (t.date.dayNumber - epoch) =
        compare (moment.day + epoch) t.date.dayNumber :=
    compare_congr (by omega) (by omega)
  rw [← CalendarDate.compare_dayNumber moment.valid_date t.valid_date,
    dayNumber_date, ← shifted]
  rfl

theorem exists_cellText_eq :
    ∃ clock, moment.cellText.toList = moment.date.text ++ clock ∧
    compare clock [] = compare moment.nanosecond 0 := by
  rw [cellText, String.toList_ofList]
  split
  · next midnight => exact ⟨[], (List.append_nil _).symm, by rw [midnight]; rfl⟩
  · next later =>
      refine ⟨_, rfl, ?_⟩
      rw [Nat.compare_eq_gt.mpr (Nat.pos_of_ne_zero later)]
      rfl

theorem compare_cellText_of_pattern (fromZero : 0 ≤ moment.date.year)
    (upTo : moment.date.year ≤ 9999) :
    compare moment.cellText.toList t.chars = moment.order t.midnight := by
  obtain ⟨s, written, named⟩ :=
    DateText.exists_eq_text moment.valid_date fromZero upTo
  obtain ⟨clock, shown, ticks⟩ := moment.exists_cellText_eq
  rw [shown, ← written, ← List.append_nil t.chars,
    compare_append (s.length_chars.trans t.length_chars.symm), ticks,
    DateText.compare_chars, named, order_midnight]

theorem compare_cellText_of_sign {sign : Char} {rest : List Char}
    (written : moment.date.text = sign :: rest) (before : sign < '0') :
    compare moment.cellText.toList t.chars = .lt := by
  obtain ⟨clock, shown, -⟩ := moment.exists_cellText_eq
  obtain ⟨c, later, first, digit⟩ := t.exists_chars_eq_cons
  have less : sign.toNat < c.toNat :=
    Nat.lt_of_lt_of_le before (Decimal.digit_bounds digit).1
  rw [shown, written, first, List.cons_append, List.compare_cons_cons,
    Decimal.compare_char_eq_lt.mpr less]
  rfl

theorem exists_text_eq_cons {date : CalendarDate} {sign : Char}
    {digits : List Char}
    (year : CalendarDate.yearText date.year = sign :: digits) :
    ∃ rest, date.text = sign :: rest := by
  rw [CalendarDate.text, year, List.cons_append, List.cons_append]
  exact ⟨_, rfl⟩

/-- Years with a sign are shown before every date in the pattern: rightly those
below zero, but not those to come. -/
theorem compare_cellText : compare moment.cellText.toList t.chars =
    if 9999 < moment.date.year then .lt else moment.order t.midnight := by
  have fromZero := t.year_nonneg
  -- Three shapes of the year's text: a minus, a plus, and no sign.
  by_cases below : moment.date.year < 0
  · have year : CalendarDate.yearText moment.date.year =
        '-' :: CalendarDate.padded 4 moment.date.year.natAbs := by
      rw [CalendarDate.yearText, if_pos below]
    obtain ⟨rest, written⟩ := exists_text_eq_cons year
    have earlier : compare moment.date.year t.date.year = .lt :=
      Int.compare_eq_lt.mpr (by omega)
    rw [moment.compare_cellText_of_sign t written (by decide),
      if_neg (by omega), order_midnight, CalendarDate.order, earlier]
    rfl
  · split
    · next far =>
        have year : CalendarDate.yearText moment.date.year =
            '+' :: CalendarDate.padded 4 moment.date.year.natAbs := by
          rw [CalendarDate.yearText, if_neg below, if_pos far]
        obtain ⟨rest, written⟩ := exists_text_eq_cons year
        exact moment.compare_cellText_of_sign t written (by decide)
    · next near =>
        exact moment.compare_cellText_of_pattern t (Int.not_lt.mp below)
          (Int.not_lt.mp near)

theorem order_midnight_of_far (far : 9999 < moment.date.year) :
    moment.order t.midnight = .gt := by
  have upTo := t.year_le
  have later : compare moment.date.year t.date.year = .gt :=
    Int.compare_eq_gt.mpr (by omega)
  rw [order_midnight, CalendarDate.order, later]
  rfl

end DateTime

end RowAudit
