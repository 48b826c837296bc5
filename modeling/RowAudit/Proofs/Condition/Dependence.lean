import RowAudit.Proofs.Condition.Leaves

namespace RowAudit.Condition

theorem bind_eq_error_iff {α β : Type} {first : Except Fault α}
    {next : α → Except Fault β} {fault : Fault} :
    first >>= next = .error fault ↔
      first = .error fault ∨ ∃ value,
        first = .ok value ∧ next value = .error fault := by
  cases first <;> simp [bind, Except.bind]

theorem bind_eq_ok_iff {α β : Type} {first : Except Fault α}
    {next : α → Except Fault β} {result : β} :
    first >>= next = .ok result ↔ ∃ value,
      first = .ok value ∧ next value = .ok result := by
  cases first <;> simp [bind, Except.bind]

theorem BinaryOperator.combine_eq_ok {op : BinaryOperator}
    {left right value : Value} (combined : op.combine left right = .ok value) :
    (∃ truth, value = .bool truth) ∨ value = op.apply left right := by
  unfold combine at combined
  split at combined
  · cases combined
    exact .inl ⟨_, rfl⟩
  · cases combined
    exact .inl ⟨_, rfl⟩
  · cases combined
  · cases combined
    exact .inr rfl

theorem BinaryOperator.combine_eq_error {op : BinaryOperator}
    {left right : Value} {fault : Fault}
    (failed : op.combine left right = .error fault) :
    fault = .choicesMisused op ∧ op ≠ .equal ∧ op ≠ .unequal := by
  unfold combine at failed
  split at failed
  · cases failed
  · cases failed
  · next notEqual notUnequal =>
      cases failed
      exact ⟨rfl, notEqual, notUnequal⟩
  · cases failed

namespace Expr

variable {row other : Row}

theorem evaluate_column (row : Row) (name : String) :
    (column name).evaluate row = .ok (Value.ofCell (row.cell name)) := by
  rw [evaluate, Row.cell]
  cases row.get? name <;> rfl

theorem evaluate_column_of_get? {name : String} {cell : Cell}
    (held : row.get? name = some cell) :
    (column name).evaluate row = .ok (Value.ofCell cell) := by
  rw [evaluate, held]
  rfl

theorem evaluate_congr {e : Expr}
    (same : ∀ name ∈ e.columns,
      Value.ofCell (row.cell name) = Value.ofCell (other.cell name)) :
    e.evaluate row = e.evaluate other := by
  induction e with
  | literal value => rfl
  | column name =>
      have here := same name (List.mem_singleton_self name)
      rw [evaluate_column, evaluate_column, here]
  | unary op operand ih => rw [evaluate, evaluate, ih same]
  | binary op left right ihLeft ihRight =>
      obtain ⟨sameLeft, sameRight⟩ := List.forall_mem_append.mp same
      have leftValue := ihLeft sameLeft
      have rightValue := ihRight sameRight
      cases op <;> simp only [evaluate, leftValue, rightValue]

/-- What an operator between operands can come to. -/
theorem evaluate_binary_eq_ok {op : BinaryOperator} {left right : Expr}
    {value : Value}
    (evaluated : (binary op left right).evaluate row = .ok value) :
    (∃ truth, value = .bool truth) ∨
      ∃ leftValue rightValue, left.evaluate row = .ok leftValue ∧
        right.evaluate row = .ok rightValue ∧
        value = op.apply leftValue rightValue := by
  cases op with
  | or =>
      obtain ⟨leftValue, -, later⟩ := bind_eq_ok_iff.mp evaluated
      split at later
      · cases later
        exact .inl ⟨_, rfl⟩
      · obtain ⟨rightValue, -, done⟩ := bind_eq_ok_iff.mp later
        cases done
        exact .inl ⟨_, rfl⟩
  | and =>
      obtain ⟨leftValue, -, later⟩ := bind_eq_ok_iff.mp evaluated
      split at later
      · obtain ⟨rightValue, -, done⟩ := bind_eq_ok_iff.mp later
        cases done
        exact .inl ⟨_, rfl⟩
      · cases later
        exact .inl ⟨_, rfl⟩
  | _ =>
      obtain ⟨leftValue, leftEvaluated, later⟩ := bind_eq_ok_iff.mp evaluated
      obtain ⟨rightValue, rightEvaluated, combined⟩ := bind_eq_ok_iff.mp later
      exact (BinaryOperator.combine_eq_ok combined).imp_right fun same =>
        ⟨leftValue, rightValue, leftEvaluated, rightEvaluated, same⟩

theorem evaluate_of_choices {left right : Expr} {leftValue rightValue : Value}
    {choices : List String} (leftEvaluated : left.evaluate row = .ok leftValue)
    (rightEvaluated : right.evaluate row = .ok rightValue)
    (listed : rightValue.choices? = some choices) :
    (binary .equal left right).evaluate row =
      .ok (.bool (isChosen leftValue choices)) ∧
      (binary .unequal left right).evaluate row =
        .ok (.bool !(isChosen leftValue choices)) := by
  constructor
  · simp only [evaluate, leftEvaluated, rightEvaluated, bind, Except.bind,
      BinaryOperator.combine, listed]
  · simp only [evaluate, leftEvaluated, rightEvaluated, bind, Except.bind,
      BinaryOperator.combine, listed]

/-- Nothing can go wrong but a list of choices on the right of an operator that
has no use for it. -/
theorem evaluate_error {e : Expr} {fault : Fault}
    (failed : e.evaluate row = .error fault) :
    ∃ op, fault = .choicesMisused op ∧ op ∉ [.equal, .unequal, .and, .or] := by
  fun_induction evaluate row e with
  | case1 value => cases failed
  | case2 name => cases failed
  | case3 op operand ih =>
      rcases bind_eq_error_iff.mp failed with inside | ⟨value, -, done⟩
      · exact ih inside
      · cases done
  | case4 left right ihLeft ihRight =>
      rcases bind_eq_error_iff.mp failed with inLeft | ⟨value, -, later⟩
      · exact ihLeft inLeft
      · split at later
        · rcases bind_eq_error_iff.mp later with inRight | ⟨other, -, done⟩
          · exact ihRight inRight
          · cases done
        · cases later
  | case5 left right ihLeft ihRight =>
      rcases bind_eq_error_iff.mp failed with inLeft | ⟨value, -, later⟩
      · exact ihLeft inLeft
      · split at later
        · cases later
        · rcases bind_eq_error_iff.mp later with inRight | ⟨other, -, done⟩
          · exact ihRight inRight
          · cases done
  | case6 op left right isNotAnd isNotOr ihLeft ihRight =>
      rcases bind_eq_error_iff.mp failed with inLeft | ⟨value, -, later⟩
      · exact ihLeft inLeft
      · rcases bind_eq_error_iff.mp later with inRight | ⟨other, -, combined⟩
        · exact ihRight inRight
        · obtain ⟨misused, notEqual, notUnequal⟩ :=
            BinaryOperator.combine_eq_error combined
          refine ⟨op, misused, ?_⟩
          simp only [List.mem_cons, List.not_mem_nil, or_false, not_or]
          exact ⟨notEqual, notUnequal, isNotAnd, isNotOr⟩

end Expr

end RowAudit.Condition
