import RowAudit.Proofs.Calendar.Serial
import RowAudit.Proofs.Condition.Order

namespace RowAudit.Condition

open DateTime (midnight Reached)

variable {m n : Int}

namespace Value

theorem toNumber_midnight (reached : Reached n) :
    (date (midnight n)).toNumber = .ofInt n :=
  reached.toSerial_midnight

theorem isWhole_toNumber_midnight (reached : Reached n) :
    (date (midnight n)).toNumber.IsWhole n := by
  rw [toNumber_midnight reached]
  exact reached.isWhole_ofInt

theorem sub_toNumber_midnight (left : Reached m) (right : Reached n) :
    (date (midnight m)).toNumber - (date (midnight n)).toNumber =
      .ofInt (m - n) := by
  rw [toNumber_midnight left, toNumber_midnight right,
    Double.ofInt_sub left.small right.small]

/-- Two days are compared as moments, not by the numbers that they read as. -/
theorem compare?_midnights (m n : Int) :
    (date (midnight m)).compare? (date (midnight n)) = some (compare m n) :=
  congrArg some (DateTime.order_midnights m n)

end Value

namespace Expr

/-- Whether the value of an expression is a day that the calendar goes to. -/
def IsDay (row : Row) (e : Expr) (day : Int) : Prop :=
  Reached day ∧ e.evaluate row = .ok (.date (midnight day))

def IsCount (row : Row) (e : Expr) (count : Int) : Prop :=
  ∃ x, e.evaluate row = .ok (.number x) ∧ x.IsWhole count

variable {row : Row} {left right day count : Expr}

theorem IsDay.of_serialDate {name : String} {x : Double} (reached : Reached n)
    (whole : x.IsWhole n)
    (held : row.get? name = some (Cell.number x).toSerialDate) :
    IsDay row (column name) n := by
  rw [Cell.toSerialDate, reached.ofSerial? whole] at held
  exact ⟨reached, evaluate_column_of_get? held⟩

/-- How the values of two expressions are computed with, if they are days. -/
structure DayArithmetic (row : Row) (left right : Expr) (m n : Int) : Prop where
  compares : Compares row left right (some (compare m n))
  identical : (binary .identical left right).isSatisfied row =
    .ok (decide (m = n))
  difference : (binary .subtract left right).evaluate row =
    .ok (.number (.ofInt (m - n)))
  isCount : IsCount row (binary .subtract left right) (m - n)

theorem IsDay.arithmetic (leftDay : IsDay row left m)
    (rightDay : IsDay row right n) : DayArithmetic row left right m n := by
  obtain ⟨leftReached, leftEvaluated⟩ := leftDay
  obtain ⟨rightReached, rightEvaluated⟩ := rightDay
  have difference :
      (binary .subtract left right).evaluate row =
        .ok (.number (.ofInt (m - n))) := by
    rw [evaluate_binary leftEvaluated rightEvaluated rfl,
      ← Value.sub_toNumber_midnight leftReached rightReached]
    rfl
  constructor
  · rw [← Value.compare?_midnights]
    exact compares leftEvaluated rightEvaluated trivial Value.noConfusion
      Value.noConfusion
  · have same : decide (midnight m = midnight n) = decide (m = n) := by
      rw [decide_eq_decide]
      exact ⟨congrArg DateTime.day, congrArg midnight⟩
    rw [isSatisfied_binary leftEvaluated rightEvaluated trivial, ← same]
    rfl
  · exact difference
  · exact ⟨_, difference,
      Double.isWhole_ofInt (leftReached.sub_small rightReached)⟩

theorem IsDay.compares_count (isDay : IsDay row day m)
    (isCount : IsCount row count n) :
    Compares row day count (some (compare m n)) ∧
      Compares row count day (some (compare n m)) := by
  obtain ⟨reached, dayEvaluated⟩ := isDay
  obtain ⟨x, countEvaluated, whole⟩ := isCount
  have reading := Value.isWhole_toNumber_midnight reached
  have ahead :=
    compares dayEvaluated countEvaluated trivial Value.noConfusion
      Value.noConfusion
  have back :=
    compares countEvaluated dayEvaluated trivial Value.noConfusion
      Value.noConfusion
  rw [← reading.compare? whole, ← whole.compare? reading]
  exact ⟨ahead, back⟩

/--
A whole number for a serial date is the midnight of that day, exactly if the
calendar goes to the day, and the midnight has the number for its serial date.
So days in a condition are compared and subtracted as their numbers, and
compared as those with any whole number.
-/
theorem wholeDays_exact :
    (∀ day, Reached day → DateTime.ExactSerial day) ∧
    (∀ day (x : Double), ¬ Reached day → x.IsWhole day →
      DateTime.ofSerial? x = none) ∧
    (∀ m n, Reached m → Reached n →
      (Value.date (midnight m)).toNumber.compare?
        (Value.date (midnight n)).toNumber = some (compare m n) ∧
      (Value.date (midnight m)).toNumber - (Value.date (midnight n)).toNumber =
        .ofInt (m - n)) ∧
    (∀ row left right m n, IsDay row left m → IsDay row right n →
      DayArithmetic row left right m n) ∧
    (∀ row day count m n, IsDay row day m → IsCount row count n →
      Compares row day count (some (compare m n)) ∧
        Compares row count day (some (compare n m))) := by
  refine ⟨fun _ => Reached.exactSerial,
    fun _ _ unreached => DateTime.ofSerial?_of_not_reached unreached, ?_,
    fun _ _ _ _ _ => IsDay.arithmetic, fun _ _ _ _ _ => IsDay.compares_count⟩
  intro m n left right
  have leftReading := Value.isWhole_toNumber_midnight left
  have rightReading := Value.isWhole_toNumber_midnight right
  exact ⟨leftReading.compare? rightReading,
    Value.sub_toNumber_midnight left right⟩

def reportedRow : Row :=
  ⟨[("lossdate", (Cell.number (.ofInt 45000)).toSerialDate),
    ("reported", (Cell.number (.ofInt 45001)).toSerialDate)]⟩

theorem wholeDays_exact_reported :
    DateTime.ofSerial? (.ofInt 45000) = some (midnight 45000) ∧
      (midnight 45000).date = ⟨2023, 3, 15⟩ ∧
      DateTime.ofSerial? (.ofInt 1000000000) = none ∧
      (Value.date (midnight 45000)).toNumber.compare?
        (Value.date (midnight 45001)).toNumber = some .lt ∧
      Holds reportedRow .less (column "lossdate") (column "reported") ∧
      (binary .subtract (column "reported") (column "lossdate")).evaluate
        reportedRow = .ok (.number (.ofInt 1)) ∧
      Holds reportedRow .equal (column "lossdate")
        (literal (.number (.ofInt 45000))) := by
  obtain ⟨exactSerial, unreached, readings, arithmetic, counts⟩ :=
    wholeDays_exact
  have lossReached : Reached 45000 := by decide +kernel
  have reportReached : Reached 45001 := by decide +kernel
  have far : ¬ Reached 1000000000 := by decide +kernel
  have lossWhole := (exactSerial 45000 lossReached).whole
  have reportWhole := (exactSerial 45001 reportReached).whole
  have lost : IsDay reportedRow (column "lossdate") 45000 :=
    .of_serialDate lossReached lossWhole rfl
  have reported : IsDay reportedRow (column "reported") 45001 :=
    .of_serialDate reportReached reportWhole rfl
  have number : IsCount reportedRow (literal (.number (.ofInt 45000))) 45000 :=
    ⟨_, rfl, lossWhole⟩
  refine ⟨(exactSerial 45000 lossReached).read _ lossWhole, by decide +kernel,
    unreached 1000000000 _ far (Double.isWhole_ofInt (by decide)),
    (readings _ _ lossReached reportReached).1,
    (arithmetic _ _ _ _ _ lost reported).compares.less,
    (arithmetic _ _ _ _ _ reported lost).difference,
    (counts _ _ _ _ _ lost number).1.equal⟩

end Expr

end RowAudit.Condition
