import RowAudit.Proofs.Column
import RowAudit.Proofs.Condition.Dependence
import RowAudit.Proofs.Condition.Display
import RowAudit.Proofs.Condition.Equality

/-!
When an expression has a value. Only a list of choices in the wrong place can go
wrong, and pipes are all that makes a text a list of choices: where they stand
in the right operands of equalities alone, no operator makes a text with a pipe
in it, and nothing goes wrong.
-/

namespace RowAudit.Condition

/-- A value that is no text with a pipe in it. -/
def Value.Pipeless : Value → Prop
  | .text s => '|' ∉ s.toList
  | _ => True

/-- Whether every text literal with a pipe in it is the right operand of an
equality. -/
def Expr.ChoicesPlaced : Expr → Prop
  | .literal value => value.Pipeless
  | .column _ => True
  | .unary _ operand => operand.ChoicesPlaced
  | .binary op left right =>
      left.ChoicesPlaced ∧
        (right.ChoicesPlaced ∨ (op = .equal ∨ op = .unequal) ∧ ∃ s,
          right = .literal (.text s))

def Row.Pipeless (row : Row) : Prop :=
  ∀ entry ∈ row.entries, ∀ s, entry.2 = .text s → '|' ∉ s.toList

namespace Value

variable {left right value : Value}

theorem Pipeless.choices?_eq_none (pipeless : value.Pipeless) :
    value.choices? = none := by
  cases value with
  | text s => exact choices?_text_eq_none pipeless
  | null => rfl
  | bool value => rfl
  | number value => rfl
  | date value => rfl

theorem pipe_not_mem_cellText (x : Double) : '|' ∉ x.cellText.toList := by
  intro member
  cases x with
  | nan => exact absurd member (by decide)
  | infinite negative => cases negative <;> exact absurd member (by decide)
  | finite negative units representable =>
      exact (of_isFigure (Double.isFigure_of_mem_cellText rfl '|' member)).1 rfl

theorem Pipeless.toText (pipeless : value.Pipeless) :
    '|' ∉ value.toText.toList := by
  cases value with
  | text s => exact pipeless
  | null => decide
  | bool value => cases value <;> decide
  | number value => exact pipe_not_mem_cellText value
  | date value =>
      intro member
      exact (of_isFigure (value.isFigure_of_mem_cellText '|' member)).1 rfl

theorem Pipeless.sum (leftPipeless : left.Pipeless)
    (rightPipeless : right.Pipeless) : (sum left right).Pipeless := by
  have joined : '|' ∉ (left.toText ++ right.toText).toList := by
    rw [String.toList_append, List.mem_append, not_or]
    exact ⟨leftPipeless.toText, rightPipeless.toText⟩
  unfold Condition.sum
  split
  · exact joined
  · exact joined
  · exact joined
  · exact joined
  · trivial

theorem Pipeless.apply (leftPipeless : left.Pipeless)
    (rightPipeless : right.Pipeless) (op : BinaryOperator) :
    (op.apply left right).Pipeless := by
  cases op with
  | add => exact leftPipeless.sum rightPipeless
  | _ => trivial

theorem pipeless_get? {row : Row} (pipeless : Row.Pipeless row)
    (name : String) : (((row.get? name).map ofCell).getD .null).Pipeless := by
  cases found : row.get? name with
  | none => trivial
  | some cell =>
      obtain ⟨before, after, split, -⟩ := List.lookup_eq_some_iff.mp found
      have member : (name, cell) ∈ row.entries :=
        split ▸ List.mem_append_right _ List.mem_cons_self
      cases cell with
      | text s => exact Text.pipe_not_mem_lower (pipeless _ member s rfl)
      | blank => trivial
      | number value => trivial
      | date value => trivial

end Value

namespace Expr

variable {row : Row} {op : BinaryOperator} {left right : Expr}
  {leftValue rightValue : Value}

theorem evaluate_binary (leftEvaluated : left.evaluate row = .ok leftValue)
    (rightEvaluated : right.evaluate row = .ok rightValue)
    (single : rightValue.choices? = none) :
    (binary op left right).evaluate row =
      .ok (op.apply leftValue rightValue) := by
  have combined :
      op.combine leftValue rightValue =
        .ok (op.apply leftValue rightValue) := by
    rw [BinaryOperator.combine.eq_def, single]
  cases op with
  | or =>
      rw [evaluate, leftEvaluated, rightEvaluated, BinaryOperator.apply]
      cases truthy : leftValue.isTruthy <;>
        simp [bind, Except.bind, pure, Except.pure, truthy]
  | and =>
      rw [evaluate, leftEvaluated, rightEvaluated, BinaryOperator.apply]
      cases truthy : leftValue.isTruthy <;>
        simp [bind, Except.bind, pure, Except.pure, truthy]
  | _ =>
      simp only [evaluate, leftEvaluated, rightEvaluated]
      exact combined

theorem exists_evaluate_equality (equality : op = .equal ∨ op = .unequal)
    (leftEvaluated : left.evaluate row = .ok leftValue)
    (rightEvaluated : right.evaluate row = .ok rightValue) :
    ∃ truth, (binary op left right).evaluate row = .ok (.bool truth) := by
  cases listed : rightValue.choices? with
  | none =>
      rw [evaluate_binary leftEvaluated rightEvaluated listed]
      rcases equality with rfl | rfl <;> exact ⟨_, rfl⟩
  | some choices =>
      obtain ⟨equal, unequal⟩ :=
        evaluate_of_choices leftEvaluated rightEvaluated listed
      rcases equality with rfl | rfl
      · exact ⟨_, equal⟩
      · exact ⟨_, unequal⟩

/-- What carries the absence of faults through the operators is that they make
no pipes. -/
theorem exists_evaluate_eq_ok (pipeless : Row.Pipeless row) {e : Expr}
    (placed : e.ChoicesPlaced) :
    ∃ value, e.evaluate row = .ok value ∧ value.Pipeless := by
  induction e with
  | literal value => exact ⟨value, rfl, placed⟩
  | column name => exact ⟨_, rfl, Value.pipeless_get? pipeless name⟩
  | unary op operand ih =>
      obtain ⟨value, evaluated, -⟩ := ih placed
      refine ⟨op.apply value, ?_, by cases op <;> trivial⟩
      rw [evaluate, evaluated]
      rfl
  | binary op left right ihLeft ihRight =>
      obtain ⟨leftPlaced, rightPlaced | ⟨equality, s, rfl⟩⟩ := placed
      · obtain ⟨leftValue, leftEvaluated, leftPipeless⟩ := ihLeft leftPlaced
        obtain ⟨rightValue, rightEvaluated, rightPipeless⟩ :=
          ihRight rightPlaced
        exact ⟨_, evaluate_binary leftEvaluated rightEvaluated
          rightPipeless.choices?_eq_none,
          leftPipeless.apply rightPipeless op⟩
      · obtain ⟨leftValue, leftEvaluated, -⟩ := ihLeft leftPlaced
        obtain ⟨truth, evaluated⟩ :=
          exists_evaluate_equality equality leftEvaluated
          (show (literal (.text s)).evaluate row = .ok (.text s) from rfl)
        exact ⟨.bool truth, evaluated, trivial⟩

/--
The only fault of an expression is a list of choices on the right of an operator
that is neither an equality nor a connective. Where every text literal with a
pipe in it is the right operand of an equality and no text of the row has a
pipe, the expression has a value.
-/
theorem evaluate_misuse (row : Row) (e : Expr) :
    (∀ fault, e.evaluate row = .error fault →
      ∃ op, fault = .choicesMisused op ∧ op ∉ [.equal, .unequal, .and, .or]) ∧
    (e.ChoicesPlaced → Row.Pipeless row → ∃ value,
      e.evaluate row = .ok value) := by
  refine ⟨fun fault failed => evaluate_error failed, fun placed pipeless => ?_⟩
  obtain ⟨value, evaluated, -⟩ := exists_evaluate_eq_ok pipeless placed
  exact ⟨value, evaluated⟩

/-- The condition `'due '+(amount+lossdate)!='due|paid'&&status<'paid
'+amount`. -/
def notice : Expr :=
  .binary .and
    (.binary .unequal
      (.binary .add (.literal (.text "due "))
        (.binary .add (.column "amount") (.column "lossdate")))
      (.literal (.text "due|paid")))
    (.binary .less (.column "status")
      (.binary .add (.literal (.text "paid ")) (.column "amount")))

def misplaced : Expr :=
  .binary .greater (.column "status") (.literal (.text "a|b"))

def claimRow : Row :=
  ⟨[("status", .text "Paid"), ("amount", .number (.ofInt 250)),
    ("lossdate", .date ⟨45000, 1⟩)]⟩

theorem evaluate_misuse_notice :
    notice.ChoicesPlaced ∧ Row.Pipeless claimRow ∧
      (∃ value, notice.evaluate claimRow = .ok value) ∧
      misplaced.evaluate claimRow = .error (.choicesMisused .greater) ∧
      ∃ op, Fault.choicesMisused .greater = .choicesMisused op ∧
        op ∉ [.equal, .unequal, .and, .or] := by
  have placed : notice.ChoicesPlaced := by
    refine ⟨⟨⟨?_, .inl ⟨trivial, .inl trivial⟩⟩, .inr ⟨.inr rfl, _, rfl⟩⟩,
      .inl ⟨trivial, .inl ⟨?_, .inl trivial⟩⟩⟩
    · show '|' ∉ "due ".toList
      decide
    · show '|' ∉ "paid ".toList
      decide
  have pipeless : Row.Pipeless claimRow := by
    intro entry member s text
    simp only [claimRow, List.mem_cons, List.not_mem_nil, or_false] at member
    rcases member with rfl | rfl | rfl
    · cases text
      decide
    · cases text
    · cases text
  have failed :
      misplaced.evaluate claimRow = .error (.choicesMisused .greater) := by
    decide +kernel
  exact ⟨placed, pipeless,
    (evaluate_misuse claimRow notice).2 placed pipeless, failed,
    (evaluate_misuse claimRow misplaced).1 _ failed⟩

end Expr

end RowAudit.Condition
