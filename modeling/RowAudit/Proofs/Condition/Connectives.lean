import RowAudit.Condition.Evaluation

/-!
The laws of the connectives. Whatever the operands of a connective are, it sees
of them only whether they hold, or the fault that keeps this from being known,
and it looks at the right one only where the left one leaves the matter open. So
the laws are those of verdicts, which are few enough to be gone through; and a
denied comparison is the negation of the comparison.
-/

namespace RowAudit.Condition

/-- Whether something holds, or the fault that keeps this from being known. -/
abbrev Verdict := Except Fault Bool

namespace Verdict

def negation : Verdict → Verdict
  | .ok truth => .ok !truth
  | .error fault => .error fault

def both : Verdict → Verdict → Verdict
  | .ok true, second => second
  | first, _ => first

def either : Verdict → Verdict → Verdict
  | .ok false, second => second
  | first, _ => first

def value : Verdict → Except Fault Value
  | .ok truth => .ok (.bool truth)
  | .error fault => .error fault

variable (first second third : Verdict)

theorem negation_both :
    (both first second).negation = either first.negation second.negation := by
  cases first with
  | error fault => rfl
  | ok truth => cases truth <;> rfl

theorem negation_either :
    (either first second).negation = both first.negation second.negation := by
  cases first with
  | error fault => rfl
  | ok truth => cases truth <;> rfl

theorem both_assoc :
    both (both first second) third = both first (both second third) := by
  cases first with
  | error fault => rfl
  | ok truth => cases truth <;> rfl

theorem either_assoc :
    either (either first second) third =
      either first (either second third) := by
  cases first with
  | error fault => rfl
  | ok truth => cases truth <;> rfl

end Verdict

namespace BinaryOperator

variable (left right : Value)

theorem combine_unequal :
    BinaryOperator.unequal.combine left right =
      (BinaryOperator.equal.combine left right).map
        UnaryOperator.not.apply := by
  unfold combine
  cases right.choices? <;> rfl

/-- A list of choices can be neither identical to a value nor distinct from
it. -/
theorem combine_distinct :
    BinaryOperator.distinct.combine left right =
        (BinaryOperator.identical.combine left right).map
          UnaryOperator.not.apply ∨
      BinaryOperator.distinct.combine left right =
        .error (.choicesMisused .distinct) ∧
        BinaryOperator.identical.combine left right =
          .error (.choicesMisused .identical) := by
  unfold combine
  cases right.choices? with
  | none => exact .inl rfl
  | some choices => exact .inr ⟨rfl, rfl⟩

end BinaryOperator

namespace Expr

variable {row : Row} {e : Expr} {verdict : Verdict}

theorem evaluate_not (row : Row) (e : Expr) :
    (unary .not e).evaluate row =
      (e.evaluate row).map UnaryOperator.not.apply := by
  rw [evaluate]
  cases e.evaluate row <;> rfl

theorem isSatisfied_of_evaluate (evaluated : e.evaluate row = verdict.value) :
    e.isSatisfied row = verdict := by
  rw [isSatisfied, evaluated]
  cases verdict <;> rfl

variable (row : Row) (left right : Expr)

theorem evaluate_not_eq_value :
    (unary .not e).evaluate row =
      (Verdict.negation (e.isSatisfied row)).value := by
  rw [evaluate_not, isSatisfied]
  cases e.evaluate row <;> rfl

theorem evaluate_and_eq_value :
    (binary .and left right).evaluate row =
      (Verdict.both (left.isSatisfied row) (right.isSatisfied row)).value := by
  rw [evaluate, isSatisfied, isSatisfied]
  cases left.evaluate row with
  | error fault => rfl
  | ok leftValue =>
      simp only [bind, Except.bind, pure, Except.pure]
      cases leftValue.isTruthy with
      | false => rfl
      | true => cases right.evaluate row <;> rfl

theorem evaluate_or_eq_value :
    (binary .or left right).evaluate row =
      (Verdict.either (left.isSatisfied row)
        (right.isSatisfied row)).value := by
  rw [evaluate, isSatisfied, isSatisfied]
  cases left.evaluate row with
  | error fault => rfl
  | ok leftValue =>
      simp only [bind, Except.bind, pure, Except.pure]
      cases leftValue.isTruthy with
      | false => cases right.evaluate row <;> rfl
      | true => rfl

theorem isSatisfied_not :
    (unary .not e).isSatisfied row = Verdict.negation (e.isSatisfied row) :=
  isSatisfied_of_evaluate (evaluate_not_eq_value row)

theorem isSatisfied_and :
    (binary .and left right).isSatisfied row =
      Verdict.both (left.isSatisfied row) (right.isSatisfied row) :=
  isSatisfied_of_evaluate (evaluate_and_eq_value row left right)

theorem isSatisfied_or :
    (binary .or left right).isSatisfied row =
      Verdict.either (left.isSatisfied row) (right.isSatisfied row) :=
  isSatisfied_of_evaluate (evaluate_or_eq_value row left right)

/-- A comparison and its denial evaluate the same operands, so they differ only
in what the operator makes of the two values. -/
theorem evaluate_comparison {op : BinaryOperator} (notAnd : op ≠ .and)
    (notOr : op ≠ .or) :
    (binary op left right).evaluate row =
      (left.evaluate row).bind fun leftValue =>
        (right.evaluate row).bind fun rightValue =>
        op.combine leftValue rightValue := by
  rw [evaluate]
  · rfl
  · exact notAnd
  · exact notOr

/-- The laws of the connectives on a row, faults included. -/
structure LogicalLaws (row : Row) (a b c : Expr) : Prop where
  not_and :
    (unary .not (binary .and a b)).evaluate row =
      (binary .or (unary .not a) (unary .not b)).evaluate row
  not_or :
    (unary .not (binary .or a b)).evaluate row =
      (binary .and (unary .not a) (unary .not b)).evaluate row
  and_assoc :
    (binary .and (binary .and a b) c).evaluate row =
      (binary .and a (binary .and b c)).evaluate row
  or_assoc :
    (binary .or (binary .or a b) c).evaluate row =
      (binary .or a (binary .or b c)).evaluate row
  unequal : (binary .unequal a b).evaluate row =
    (unary .not (binary .equal a b)).evaluate row
  distinct :
    (binary .distinct a b).evaluate row =
      (unary .not (binary .identical a b)).evaluate row ∨
      (binary .distinct a b).evaluate row = .error (.choicesMisused .distinct) ∧
        (unary .not (binary .identical a b)).evaluate row =
          .error (.choicesMisused .identical)

theorem evaluate_unequal :
    (binary .unequal left right).evaluate row =
      (unary .not (binary .equal left right)).evaluate row := by
  rw [evaluate_not, evaluate_comparison row left right (by decide) (by decide),
    evaluate_comparison row left right (by decide) (by decide)]
  cases left.evaluate row with
  | error fault => rfl
  | ok leftValue =>
      cases right.evaluate row with
      | error fault => rfl
      | ok rightValue =>
          exact BinaryOperator.combine_unequal leftValue rightValue

theorem evaluate_distinct :
    (binary .distinct left right).evaluate row =
      (unary .not (binary .identical left right)).evaluate row ∨
      (binary .distinct left right).evaluate row =
        .error (.choicesMisused .distinct) ∧
        (unary .not (binary .identical left right)).evaluate row =
          .error (.choicesMisused .identical) := by
  rw [evaluate_not, evaluate_comparison row left right (by decide) (by decide),
    evaluate_comparison row left right (by decide) (by decide)]
  cases left.evaluate row with
  | error fault => exact .inl rfl
  | ok leftValue =>
      cases right.evaluate row with
      | error fault => exact .inl rfl
      | ok rightValue =>
          refine (BinaryOperator.combine_distinct leftValue
            rightValue).imp_right fun misused => ⟨misused.1, ?_⟩
          show (BinaryOperator.identical.combine leftValue rightValue).map
            UnaryOperator.not.apply = _
          rw [misused.2]
          rfl

/--
Negation goes through the connectives, which can be regrouped, and a denied
comparison is the negation of the comparison: always with the same value or the
same fault. Only where the right operand lists choices do the denial of identity
and the negation of identity fail each with its own fault.
-/
theorem logicalLaws (row : Row) (a b c : Expr) : LogicalLaws row a b c where
  not_and := by
    rw [evaluate_not_eq_value, isSatisfied_and, Verdict.negation_both,
      evaluate_or_eq_value, isSatisfied_not, isSatisfied_not]
  not_or := by
    rw [evaluate_not_eq_value, isSatisfied_or, Verdict.negation_either,
      evaluate_and_eq_value, isSatisfied_not, isSatisfied_not]
  and_assoc := by
    rw [evaluate_and_eq_value, evaluate_and_eq_value, isSatisfied_and,
      isSatisfied_and, Verdict.both_assoc]
  or_assoc := by
    rw [evaluate_or_eq_value, evaluate_or_eq_value, isSatisfied_or,
      isSatisfied_or, Verdict.either_assoc]
  unequal := evaluate_unequal row a b
  distinct := evaluate_distinct row a b

/-- The operands of a connective cannot change places: behind an unfavourable
one, a fault is not reached. -/
example :
    (binary .and (literal (.bool false))
      (binary .less (literal .null) (literal (.text "a|b")))).evaluate ⟨[]⟩ =
        .ok (.bool false) ∧
      (binary .and (binary .less (literal .null) (literal (.text "a|b")))
        (literal (.bool false))).evaluate ⟨[]⟩ =
        .error (.choicesMisused .less) :=
  ⟨rfl, rfl⟩

end Expr

end RowAudit.Condition
