import RowAudit.Calendar.Serial
import RowAudit.Proofs.Condition.Display
import RowAudit.Proofs.Condition.Order

namespace RowAudit

namespace DateText

variable (t : DateText)

theorem isFigure_of_mem_chars {c : Char} (member : c ∈ t.chars) :
    isFigure c = true := by
  simp only [chars, List.mem_append, List.mem_cons] at member
  rcases member with (year | rfl | month) | rfl | day
  · exact isFigure_of_isDigit (t.yearDigits c year)
  · rfl
  · exact isFigure_of_isDigit (t.monthDigits c month)
  · rfl
  · exact isFigure_of_isDigit (t.dayDigits c day)

theorem toList_text : t.text.toList = t.chars :=
  String.toList_ofList

theorem ofText_text : Condition.Value.ofText t.text = .text t.text := by
  have lowered : ∀ c ∈ t.text.toList, Text.lowerChar c = [c] := by
    intro c member
    rw [toList_text] at member
    exact (of_isFigure (t.isFigure_of_mem_chars member)).2
  rw [Condition.Value.ofText, Text.lower_eq_self_iff.mpr lowered]

theorem pipeless_text : (Condition.Value.text t.text).Pipeless := by
  intro member
  rw [toList_text] at member
  exact (of_isFigure (t.isFigure_of_mem_chars member)).1 rfl

end DateText

namespace Condition.Expr

variable {row : Row} {name : String} {moment : DateTime}

theorem compares_text (held : row.get? name = some (.date moment))
    (t : DateText) :
    Compares row (column name) (literal (.ofText t.text))
      (some (if 9999 < moment.date.year then .lt
        else moment.order t.midnight)) := by
  have column : (column name).evaluate row = .ok (.date moment) :=
    evaluate_column_of_get? held
  have literal :
      (literal (.ofText t.text)).evaluate row = .ok (.text t.text) := by
    rw [evaluate, t.ofText_text]
  rw [← moment.compare_cellText t, ← t.toList_text]
  exact compares column literal t.pipeless_text Value.noConfusion
    Value.noConfusion

/--
A column that holds a moment, compared with a date written as text: up to the
year 9999 every comparison is that of the moment with the midnight that begins
the date's day. Later moments count as before the date, and they are not.
-/
theorem compares_chronologically (held : row.get? name = some (.date moment))
    (t : DateText) :
    (moment.date.year ≤ 9999 →
      Compares row (column name) (literal (.ofText t.text))
        (some (moment.order t.midnight))) ∧
    (9999 < moment.date.year →
      Compares row (column name) (literal (.ofText t.text)) (some .lt) ∧
        moment.order t.midnight = .gt) := by
  have compared := compares_text held t
  constructor
  · intro near
    rwa [if_neg (Int.not_lt.mpr near)] at compared
  · intro far
    rw [if_pos far] at compared
    exact ⟨compared, moment.order_midnight_of_far t far⟩

def midMarch : DateText where
  year := "2023".toList
  month := "03".toList
  day := "15".toList
  yearLength := rfl
  monthLength := rfl
  dayLength := rfl
  yearDigits := List.all_eq_true.mp (by decide)
  monthDigits := List.all_eq_true.mp (by decide)
  dayDigits := List.all_eq_true.mp (by decide)
  valid := CalendarDate.isValid_iff.mp (by decide)

theorem compares_chronologically_loss :
    midMarch.text = "2023-03-15" ∧
      Compares lossRow (column "lossdate") (literal (.ofText midMarch.text))
        (some .gt) := by
  have held :
      lossRow.get? "lossdate" = some (.date ⟨45000, 21600000000000⟩) := by
    decide +kernel
  have order :
      DateTime.order ⟨45000, 21600000000000⟩ midMarch.midnight = .gt := by
    decide +kernel
  have compared :=
    (compares_chronologically held midMarch).1 (by decide +kernel)
  rw [order] at compared
  exact ⟨by decide +kernel, compared⟩

/-- The first day of the year 10000, which a serial date reaches, counts as
before a day of the year 2023. -/
theorem not_after_midMarch :
    ∃ moment, DateTime.ofSerial? (.ofInt 2958466) = some moment ∧
      moment.order midMarch.midnight = .gt ∧
      ¬ Holds ⟨[("lossdate", .date moment)]⟩ .greater (column "lossdate")
        (literal (.ofText midMarch.text)) ∧
      Holds ⟨[("lossdate", .date moment)]⟩ .less (column "lossdate")
        (literal (.ofText midMarch.text)) := by
  refine ⟨⟨2958466, 0⟩, by decide +kernel, by decide +kernel, ?_, ?_⟩
  · rw [Holds]
    decide +kernel
  · rw [Holds]
    decide +kernel

end Condition.Expr

end RowAudit
