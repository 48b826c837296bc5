import Mathlib.Algebra.Order.BigOperators.Group.List
import RowAudit.Calendar.DateTime
import RowAudit.Proofs.Text.Order

namespace RowAudit.CalendarDate

/-! Years -/

theorem daysBeforeYear_eq (year : Int) :
    daysBeforeYear year = 365 * (year - 1) + (year - 1) / 4 - (year - 1) / 100 +
      (year - 1) / 400 :=
  rfl

theorem sum_monthLengths (year : Int) :
    (monthLengths year).sum = if isLeap year then 366 else 365 := by
  unfold monthLengths
  cases isLeap year <;> rfl

theorem daysBeforeYear_succ (year : Int) :
    daysBeforeYear (year + 1) = daysBeforeYear year +
      (monthLengths year).sum := by
  have leap : isLeap year = true ↔
      year % 4 = 0 ∧ (¬ year % 100 = 0 ∨ year % 400 = 0) := by
    simp [isLeap]
  rw [sum_monthLengths, daysBeforeYear_eq, daysBeforeYear_eq]
  split
  · next isLeap =>
      have := leap.mp isLeap
      omega
  · next notLeap =>
      have := mt leap.mpr notLeap
      omega

theorem daysBeforeYear_le {year later : Int} (upTo : year ≤ later) :
    daysBeforeYear year ≤ daysBeforeYear later := by
  rw [daysBeforeYear_eq, daysBeforeYear_eq]
  omega

/-- The year of average length that holds a day is at most one off. -/
theorem guess_bounds (dayNumber : Int) :
    daysBeforeYear (dayNumber * 400 / 146097 + 1 - 1) ≤ dayNumber ∧
      dayNumber < daysBeforeYear (dayNumber * 400 / 146097 + 1 + 1 + 1) := by
  rw [daysBeforeYear_eq, daysBeforeYear_eq]
  omega

theorem yearOf_spec (dayNumber : Int) :
    daysBeforeYear (yearOf dayNumber) ≤ dayNumber ∧
      dayNumber < daysBeforeYear (yearOf dayNumber + 1) := by
  obtain ⟨atLeast, atMost⟩ := guess_bounds dayNumber
  simp only [yearOf]
  split
  · next before =>
      rw [Int.sub_add_cancel]
      exact ⟨atLeast, before⟩
  · next notBefore =>
      split
      · next behind => exact ⟨behind, atMost⟩
      · next notBehind =>
          exact ⟨Int.not_lt.mp notBefore, Int.not_le.mp notBehind⟩

/-! Months -/

theorem daysBeforeMonth_eq (year : Int) (month : Nat) :
    daysBeforeMonth year month = ((monthLengths year).take (month - 1)).sum :=
  List.sum_eq_foldl.symm

variable {lengths : List Nat} {place length : Nat}

theorem sum_take_succ_of_getElem? (held : lengths[place]? = some length) :
    (lengths.take (place + 1)).sum = (lengths.take place).sum + length := by
  rw [List.take_add_one, held, List.sum_append]
  rfl

theorem sum_take_le {near far : Nat} (upTo : near ≤ far) :
    (lengths.take near).sum ≤ (lengths.take far).sum :=
  ((List.take_prefix_take_left upTo).sublist).sum_le_sum fun _ _ =>
    Nat.zero_le _

theorem exists_monthAndDay_eq {past : Nat} (within : past < lengths.sum)
    (month : Nat) :
    ∃ place length rest, lengths[place]? = some length ∧ rest < length ∧
      past = (lengths.take place).sum + rest ∧
        monthAndDay lengths month past = (month + place, rest + 1) := by
  -- What is past of the first month is past of the months behind it, less the
  -- first one's length.
  induction lengths generalizing month past with
  | nil => cases within
  | cons first later ih =>
      rw [monthAndDay]
      split
      · next small =>
          exact ⟨0, first, past, rfl, small, (Nat.zero_add past).symm, rfl⟩
      · next large =>
          rw [List.sum_cons] at within
          have later : past - first < later.sum := by omega
          obtain ⟨place, length, rest, held, small, counted, found⟩ :=
            ih later (month + 1)
          refine ⟨place + 1, length, rest, held, small, ?_, ?_⟩
          · rw [List.take_succ_cons, List.sum_cons]
            omega
          · rw [found, Nat.add_assoc, Nat.add_comm 1]

/-! Dates -/

structure Valid (date : CalendarDate) : Prop where
  month : 1 ≤ date.month
  day : 1 ≤ date.day
  within : ∃ length, (monthLengths date.year)[date.month - 1]? = some length ∧
    date.day ≤ length

theorem isValid_iff {date : CalendarDate} :
    date.isValid = true ↔ date.Valid := by
  unfold isValid
  rw [Bool.and_eq_true, Bool.and_eq_true, decide_eq_true_eq, decide_eq_true_eq,
    Option.any_eq_true]
  simp only [decide_eq_true_eq]
  constructor
  · rintro ⟨⟨month, day⟩, within⟩
    exact ⟨month, day, within⟩
  · rintro ⟨month, day, within⟩
    exact ⟨⟨month, day⟩, within⟩

theorem le_of_mem_monthLengths {year : Int} {length : Nat}
    (member : length ∈ monthLengths year) : length ≤ 31 := by
  unfold monthLengths at member
  cases leap : isLeap year <;> rw [leap] at member <;> revert length <;> decide

theorem Valid.small {date : CalendarDate} (valid : date.Valid) :
    date.month ≤ 12 ∧ date.day ≤ 31 := by
  obtain ⟨length, held, day⟩ := valid.within
  obtain ⟨short, -⟩ := List.getElem?_eq_some_iff.mp held
  have most := le_of_mem_monthLengths (List.mem_of_getElem? held)
  have twelve : (monthLengths date.year).length = 12 := rfl
  omega

def dayOfYear (date : CalendarDate) : Nat :=
  ((monthLengths date.year).take (date.month - 1)).sum + (date.day - 1)

section

variable {date other : CalendarDate} (valid : date.Valid)
include valid

theorem dayNumber_eq :
    date.dayNumber = daysBeforeYear date.year + date.dayOfYear := by
  have day := valid.day
  rw [dayNumber, daysBeforeMonth_eq, dayOfYear, Nat.add_sub_assoc day]

theorem dayOfYear_lt_of_month_lt (later : date.month < other.month)
    (sameYear : date.year = other.year) : date.dayOfYear < other.dayOfYear := by
  obtain ⟨length, held, day⟩ := valid.within
  have first := valid.day
  have month := valid.month
  have upTo : (((monthLengths date.year)).take (date.month - 1 + 1)).sum ≤
      ((monthLengths date.year).take (other.month - 1)).sum :=
        sum_take_le (by omega)
  rw [sum_take_succ_of_getElem? held] at upTo
  rw [dayOfYear, dayOfYear, ← sameYear]
  omega

theorem dayOfYear_lt : date.dayOfYear < (monthLengths date.year).sum := by
  obtain ⟨length, held, day⟩ := valid.within
  have first := valid.day
  have upTo : ((monthLengths date.year).take (date.month - 1 + 1)).sum ≤
      ((monthLengths date.year).take (monthLengths date.year).length).sum := by
    obtain ⟨short, -⟩ := List.getElem?_eq_some_iff.mp held
    exact sum_take_le short
  rw [sum_take_succ_of_getElem? held, List.take_length] at upTo
  rw [dayOfYear]
  omega

theorem dayNumber_bounds :
    daysBeforeYear date.year ≤ date.dayNumber ∧
      date.dayNumber < daysBeforeYear (date.year + 1) := by
  have within := dayOfYear_lt valid
  rw [dayNumber_eq valid, daysBeforeYear_succ]
  omega

theorem dayNumber_lt_of_year_lt (otherValid : other.Valid)
    (earlier : date.year < other.year) : date.dayNumber < other.dayNumber := by
  have ends := (dayNumber_bounds valid).2
  have begins := (dayNumber_bounds otherValid).1
  have between : daysBeforeYear (date.year + 1) ≤ daysBeforeYear other.year :=
    daysBeforeYear_le earlier
  omega

end

def order (left right : CalendarDate) : Ordering :=
  (compare left.year right.year).then
    ((compare left.month right.month).then (compare left.day right.day))

variable {left right : CalendarDate}

theorem compare_dayOfYear (leftValid : left.Valid) (rightValid : right.Valid)
    (sameYear : left.year = right.year) :
    compare left.dayOfYear right.dayOfYear =
      (compare left.month right.month).then (compare left.day right.day) := by
  apply eq_then_of_feature
  · intro earlier
    rw [Nat.compare_eq_lt] at earlier ⊢
    exact dayOfYear_lt_of_month_lt leftValid earlier sameYear
  · intro later
    rw [Nat.compare_eq_gt] at later ⊢
    exact dayOfYear_lt_of_month_lt rightValid later sameYear.symm
  · intro sameMonth
    have leftDay : left.day = left.day - 1 + 1 :=
      (Nat.sub_add_cancel leftValid.day).symm
    have rightDay : right.day = right.day - 1 + 1 :=
      (Nat.sub_add_cancel rightValid.day).symm
    rw [dayOfYear, dayOfYear, sameYear, Nat.compare_eq_eq.mp sameMonth,
      compare_add_left, leftDay, rightDay, Nat.add_comm _ 1, Nat.add_comm _ 1,
      compare_add_left, Nat.add_sub_cancel_left, Nat.add_sub_cancel_left]

theorem compare_dayNumber (leftValid : left.Valid) (rightValid : right.Valid) :
    compare left.dayNumber right.dayNumber = left.order right := by
  apply eq_then_of_feature
  · intro earlier
    rw [Int.compare_eq_lt] at earlier ⊢
    exact dayNumber_lt_of_year_lt leftValid rightValid earlier
  · intro later
    rw [Int.compare_eq_gt] at later ⊢
    exact dayNumber_lt_of_year_lt rightValid leftValid later
  · intro sameYear
    have sameYear := Int.compare_eq_eq.mp sameYear
    rw [← compare_dayOfYear leftValid rightValid sameYear, ← compare_intCast,
      dayNumber_eq leftValid, dayNumber_eq rightValid, sameYear]
    exact compare_congr (by omega) (by omega)

theorem exists_ofDayNumber_eq (dayNumber : Int) :
    ∃ place length rest,
      (monthLengths (yearOf dayNumber))[place]? = some length ∧ rest < length ∧
      dayNumber = daysBeforeYear (yearOf dayNumber) +
        (((monthLengths (yearOf dayNumber)).take place).sum + rest : Nat) ∧
      ofDayNumber dayNumber = ⟨yearOf dayNumber, 1 + place, rest + 1⟩ := by
  obtain ⟨begins, ends⟩ := yearOf_spec dayNumber
  rw [daysBeforeYear_succ] at ends
  have within : (dayNumber - daysBeforeYear (yearOf dayNumber)).toNat <
      (monthLengths (yearOf dayNumber)).sum := by
    omega
  obtain ⟨place, length, rest, held, small, counted, found⟩ :=
    exists_monthAndDay_eq within 1
  refine ⟨place, length, rest, held, small, ?_, ?_⟩
  · rw [← counted]
    omega
  · rw [ofDayNumber, found]

theorem valid_ofDayNumber (dayNumber : Int) :
    (ofDayNumber dayNumber).Valid := by
  obtain ⟨place, length, rest, held, small, -, found⟩ :=
    exists_ofDayNumber_eq dayNumber
  rw [found]
  refine ⟨Nat.le_add_right 1 place, Nat.le_add_left 1 rest, length, ?_, small⟩
  rw [Nat.add_sub_cancel_left]
  exact held

theorem dayNumber_ofDayNumber (dayNumber : Int) :
    (ofDayNumber dayNumber).dayNumber = dayNumber := by
  obtain ⟨place, length, rest, -, -, counted, found⟩ :=
    exists_ofDayNumber_eq dayNumber
  have valid := valid_ofDayNumber dayNumber
  rw [dayNumber_eq valid, found, dayOfYear, Nat.add_sub_cancel_left,
    Nat.add_sub_cancel]
  exact counted.symm

end RowAudit.CalendarDate

namespace RowAudit.DateTime

variable (moment : DateTime)

theorem valid_date : moment.date.Valid :=
  CalendarDate.valid_ofDayNumber _

theorem dayNumber_date : moment.date.dayNumber = moment.day + epoch :=
  CalendarDate.dayNumber_ofDayNumber _

end RowAudit.DateTime
