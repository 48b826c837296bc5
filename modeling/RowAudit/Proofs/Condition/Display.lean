import RowAudit.Condition.Value
import RowAudit.Proofs.Calendar.DateText
import RowAudit.Proofs.Condition.Name

namespace RowAudit

def isFigure (c : Char) : Bool :=
  c.isDigit || ['.', '-', '+', ':', ' '].contains c

theorem isFigure_of_isDigit {c : Char} (digit : c.isDigit = true) :
    isFigure c = true := by
  rw [isFigure, digit, Bool.true_or]

theorem of_isFigure {c : Char} (figure : isFigure c = true) :
    c ≠ '|' ∧ Text.lowerChar c = [c] := by
  have ascii : c.toNat < 128 := by
    rcases Bool.or_eq_true_iff.mp figure with digit | mark
    · apply Condition.ascii_of_isAlphanumeric
      rw [Condition.Lexer.isAlphanumeric, digit, Bool.or_true]
    · have marks : ['.', '-', '+', ':', ' '].all
          (fun mark => mark.toNat < 128) = true := by
        decide
      exact of_decide_eq_true
        (List.all_eq_true.mp marks c (List.contains_iff_mem.mp mark))
  exact Text.forall_ascii
    (p := fun c => isFigure c = true → c ≠ '|' ∧ Text.lowerChar c = [c])
    (by decide +kernel) c ascii figure

namespace Double

theorem isFigure_of_mem_cellText {x : Double} (finite : x.isFinite = true) :
    ∀ c ∈ x.cellText.toList, isFigure c = true := by
  cases x with
  | nan => cases finite
  | infinite negative => cases finite
  | finite negative units representable =>
      intro c member
      rw [cellText, String.toList_ofList] at member
      rcases List.mem_append.mp member with sign | positional
      · cases shown : negative && units != 0 with
        | false =>
            rw [shown] at sign
            cases sign
        | true =>
            rw [shown] at sign
            obtain rfl := List.mem_singleton.mp sign
            rfl
      · obtain ⟨n, spells, -⟩ := exists_spells_positionalText representable
        exact spells.forall_mem
          (fun _ digit => isFigure_of_isDigit digit) rfl c positional

end Double

namespace CalendarDate

theorem isFigure_of_mem_padded {width n : Nat} {c : Char}
    (member : c ∈ padded width n) : isFigure c = true :=
  isFigure_of_isDigit (isDigit_of_mem_padded member)

theorem isFigure_of_mem_yearText {year : Int} {c : Char}
    (member : c ∈ yearText year) : isFigure c = true := by
  rw [yearText] at member
  split at member
  · rcases List.mem_cons.mp member with rfl | digit
    · rfl
    · exact isFigure_of_mem_padded digit
  · split at member
    · rcases List.mem_cons.mp member with rfl | digit
      · rfl
      · exact isFigure_of_mem_padded digit
    · exact isFigure_of_mem_padded member

theorem isFigure_of_mem_text {date : CalendarDate} {c : Char}
    (member : c ∈ date.text) : isFigure c = true := by
  simp only [text, List.mem_append, List.mem_cons] at member
  rcases member with (year | rfl | month) | rfl | day
  · exact isFigure_of_mem_yearText year
  · rfl
  · exact isFigure_of_mem_padded month
  · rfl
  · exact isFigure_of_mem_padded day

end CalendarDate

namespace DateTime

open CalendarDate

theorem isFigure_of_mem_clockText {nanosecond : Nat} {c : Char}
    (member : c ∈ clockText nanosecond) : isFigure c = true := by
  simp only [clockText, List.mem_append, List.mem_cons] at member
  rcases member with (hour | rfl | minute) | rfl | second
  · exact isFigure_of_mem_padded hour
  · rfl
  · exact isFigure_of_mem_padded minute
  · rfl
  · exact isFigure_of_mem_padded second

theorem isFigure_of_mem_cellText (moment : DateTime) :
    ∀ c ∈ moment.cellText.toList, isFigure c = true := by
  intro c member
  rw [cellText, String.toList_ofList] at member
  split at member
  · exact isFigure_of_mem_text member
  · rcases List.mem_append.mp member with date | clock
    · exact isFigure_of_mem_text date
    · rcases List.mem_cons.mp clock with rfl | clock
      · rfl
      · exact isFigure_of_mem_clockText clock

end DateTime

end RowAudit
