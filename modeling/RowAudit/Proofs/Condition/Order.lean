import RowAudit.Proofs.Calendar.DateTime
import RowAudit.Proofs.Condition.Misuse
import RowAudit.Proofs.Double.Order

/-!
The comparisons of conditions. Equality, identity and order each tell the kinds
of the two values apart in a way of their own. Yet equality is order that comes
out even, and order turns around with the operands, so the comparisons agree
with one another whatever is compared.
-/

namespace RowAudit.Condition

namespace Value

variable {left right : Value}

theorem orderTexts_swap (s t : String) :
    orderTexts t s = (orderTexts s t).swap := by
  rw [orderTexts, orderTexts]
  exact Std.OrientedCmp.eq_swap

theorem orderTexts_eq_eq_iff {s t : String} : orderTexts s t = .eq ↔ s = t := by
  rw [orderTexts, Std.LawfulEqCmp.compare_eq_iff_eq, String.toList_inj]

def isWorded : Value → Bool
  | .text _ | .date _ => true
  | _ => false

/-- Whether two values are compared by the numbers that they read as: they are,
unless each is a text or a moment. -/
def ComparedByNumber (left right : Value) : Prop :=
  ¬ (left.isWorded = true ∧ right.isWorded = true)

theorem compare?_of_comparedByNumber (byNumber : left.ComparedByNumber right) :
    left.compare? right = left.toNumber.compare? right.toNumber := by
  cases left <;> cases right <;> first | exact absurd ⟨rfl, rfl⟩ byNumber | rfl

theorem looselyEquals_of_comparedByNumber
    (byNumber : left.ComparedByNumber right) (leftSome : left ≠ .null)
    (rightSome : right ≠ .null) :
    left.looselyEquals right = left.toNumber.equals right.toNumber := by
  cases left <;> cases right <;> first
    | exact absurd ⟨rfl, rfl⟩ byNumber
    | exact absurd rfl leftSome
    | exact absurd rfl rightSome
    | rfl

/-- Values that are not compared by number have an order, which is the order of
two texts or of two moments. -/
theorem exists_compare?_of_worded (worded : ¬ left.ComparedByNumber right) :
    ∃ order : Ordering, left.compare? right = some order ∧
      right.compare? left = some order.swap ∧
      (order = .eq ↔ left.looselyEquals right = true) := by
  obtain ⟨leftWorded, rightWorded⟩ := not_not.mp worded
  cases left <;> cases leftWorded <;> cases right <;> cases rightWorded
  · exact ⟨_, rfl, congrArg some (orderTexts_swap ..),
      orderTexts_eq_eq_iff.trans decide_eq_true_iff.symm⟩
  · refine ⟨_, rfl, congrArg some (orderTexts_swap ..), ?_⟩
    exact (orderTexts_eq_eq_iff.trans eq_comm).trans decide_eq_true_iff.symm
  · exact ⟨_, rfl, congrArg some (orderTexts_swap ..),
      orderTexts_eq_eq_iff.trans decide_eq_true_iff.symm⟩
  · exact ⟨_, rfl, congrArg some (DateTime.order_swap ..),
      DateTime.order_eq_eq_iff.trans decide_eq_true_iff.symm⟩

theorem compare?_swap (left right : Value) :
    right.compare? left = (left.compare? right).map Ordering.swap := by
  by_cases byNumber : left.ComparedByNumber right
  · have turned : right.ComparedByNumber left :=
      fun worded => byNumber worded.symm
    rw [compare?_of_comparedByNumber byNumber,
      compare?_of_comparedByNumber turned, Double.compare?_swap]
  · obtain ⟨order, ahead, back, -⟩ := exists_compare?_of_worded byNumber
    rw [ahead, back, Option.map_some]

theorem compare?_eq_none_iff :
    left.compare? right = none ↔
      left.ComparedByNumber right ∧
        (left.toNumber = .nan ∨ right.toNumber = .nan) := by
  by_cases byNumber : left.ComparedByNumber right
  · rw [compare?_of_comparedByNumber byNumber, Double.compare?_eq_none_iff,
      and_iff_right byNumber]
  · obtain ⟨order, ahead, -⟩ := exists_compare?_of_worded byNumber
    rw [ahead]
    exact iff_of_false (Option.some_ne_none order) fun numeric =>
      byNumber numeric.1

theorem looselyEquals_iff (leftSome : left ≠ .null)
    (rightSome : right ≠ .null) :
    left.looselyEquals right = true ↔ left.compare? right = some .eq := by
  by_cases byNumber : left.ComparedByNumber right
  · rw [looselyEquals_of_comparedByNumber byNumber leftSome rightSome,
      compare?_of_comparedByNumber byNumber, Double.equals, beq_iff_eq]
  · obtain ⟨order, ahead, -, even⟩ := exists_compare?_of_worded byNumber
    rw [ahead, Option.some_inj, even]

/-- Values are identical only within one kind, where identity is equality. -/
theorem looselyEquals_of_strictlyEquals
    (identical : left.strictlyEquals right = true) :
    left.looselyEquals right = true := by
  cases left <;> cases right <;> first | cases identical | skip
  · rfl
  · next left right =>
      obtain rfl : left = right := of_decide_eq_true identical
      cases left <;> decide +kernel
  · exact identical
  · exact identical
  · exact identical

end Value

namespace Expr

/-- The comparisons of two expressions whose values are in a certain order, or
in none. -/
structure Compares (row : Row) (left right : Expr) (order : Option Ordering) :
    Prop where
  equal : (binary .equal left right).isSatisfied row = .ok (order == some .eq)
  less : (binary .less left right).isSatisfied row =
    .ok (order.any Ordering.isLT)
  lessEqual : (binary .lessEqual left right).isSatisfied row =
    .ok (order.any Ordering.isLE)
  greater : (binary .greater left right).isSatisfied row =
    .ok (order.any Ordering.isGT)
  greaterEqual :
    (binary .greaterEqual left right).isSatisfied row =
      .ok (order.any Ordering.isGE)

variable {row : Row} {left right : Expr} {leftValue rightValue : Value}

section

variable (leftEvaluated : left.evaluate row = .ok leftValue)
  (rightEvaluated : right.evaluate row = .ok rightValue)
  (rightPipeless : rightValue.Pipeless)
include leftEvaluated rightEvaluated rightPipeless

theorem isSatisfied_binary (op : BinaryOperator) :
    (binary op left right).isSatisfied row =
      .ok (op.apply leftValue rightValue).isTruthy := by
  rw [isSatisfied,
    evaluate_binary leftEvaluated rightEvaluated rightPipeless.choices?_eq_none]
  rfl

theorem compares (leftSome : leftValue ≠ .null)
    (rightSome : rightValue ≠ .null) :
    Compares row left right (leftValue.compare? rightValue) := by
  have satisfied :=
    isSatisfied_binary leftEvaluated rightEvaluated rightPipeless
  have equal : leftValue.looselyEquals rightValue =
      (leftValue.compare? rightValue == some .eq) := by
    rw [Bool.eq_iff_iff, Value.looselyEquals_iff leftSome rightSome, beq_iff_eq]
  exact ⟨(satisfied .equal).trans (congrArg Except.ok equal), satisfied .less,
    satisfied .lessEqual,
    satisfied .greater, satisfied .greaterEqual⟩

end

def Holds (row : Row) (op : BinaryOperator) (left right : Expr) : Prop :=
  (binary op left right).isSatisfied row = .ok true

structure Coherent (row : Row) (left right : Expr) : Prop where
  equal_comm : Holds row .equal left right ↔ Holds row .equal right left
  less_iff_greater : Holds row .less left right ↔ Holds row .greater right left
  lessEqual_iff_greaterEqual : Holds row .lessEqual left right ↔
    Holds row .greaterEqual right left
  lessEqual_iff : Holds row .lessEqual left right ↔
    Holds row .less left right ∨ Holds row .equal left right
  greaterEqual_iff :
    Holds row .greaterEqual left right ↔
      Holds row .greater left right ∨ Holds row .equal left right
  not_less_equal : ¬ (Holds row .less left right ∧ Holds row .equal left right)
  not_equal_greater :
    ¬ (Holds row .equal left right ∧ Holds row .greater left right)
  not_less_greater :
    ¬ (Holds row .less left right ∧ Holds row .greater left right)

theorem Compares.coherent {order : Option Ordering}
    (ahead : Compares row left right order)
    (back : Compares row right left (order.map Ordering.swap)) :
    Coherent row left right := by
  constructor <;>
    simp only [Holds, ahead.equal, ahead.less, ahead.lessEqual, ahead.greater,
      ahead.greaterEqual, back.equal, back.greater, back.greaterEqual,
      Except.ok.injEq]
  all_goals
    match order with
    | none => decide
    | some .lt => decide
    | some .eq => decide
    | some .gt => decide

theorem Compares.holds_iff {order : Option Ordering}
    (compares : Compares row left right order) :
    Holds row .less left right ∨ Holds row .equal left right ∨
      Holds row .greater left right ↔ order ≠ none := by
  simp only [Holds, compares.equal, compares.less, compares.greater,
    Except.ok.injEq]
  match order with
  | none => decide
  | some .lt => decide
  | some .eq => decide
  | some .gt => decide

def comparisons : List BinaryOperator :=
  [.equal, .identical, .less, .lessEqual, .greater, .greaterEqual]

/--
Two expressions whose values list no choices can be compared, and where they are
identical they are equal. Where neither is null, equality and order go together
as they do for numbers; and one of them holds, unless the values are compared by
number and one of the numbers is none.
-/
theorem comparisons_cohere (leftEvaluated : left.evaluate row = .ok leftValue)
    (rightEvaluated : right.evaluate row = .ok rightValue)
    (leftPipeless : leftValue.Pipeless) (rightPipeless : rightValue.Pipeless) :
    (∀ op ∈ comparisons, ∃ ahead back,
      (binary op left right).evaluate row = .ok (.bool ahead) ∧
      (binary op right left).evaluate row = .ok (.bool back)) ∧
    (Holds row .identical left right → Holds row .equal left right) ∧
    (leftValue ≠ .null → rightValue ≠ .null → Coherent row left right ∧
      (Holds row .less left right ∨ Holds row .equal left right ∨
        Holds row .greater left right ↔
        ¬ (leftValue.ComparedByNumber rightValue ∧
          (leftValue.toNumber = .nan ∨ rightValue.toNumber = .nan)))) := by
  refine ⟨?_, ?_, ?_⟩
  · intro op member
    have ahead : (binary op left right).evaluate row =
        .ok (op.apply leftValue rightValue) :=
      evaluate_binary leftEvaluated rightEvaluated
        rightPipeless.choices?_eq_none
    have back : (binary op right left).evaluate row =
        .ok (op.apply rightValue leftValue) :=
      evaluate_binary rightEvaluated leftEvaluated leftPipeless.choices?_eq_none
    simp only [comparisons, List.mem_cons, List.not_mem_nil, or_false] at member
    rcases member with rfl | rfl | rfl | rfl | rfl | rfl <;>
      exact ⟨_, _, ahead, back⟩
  · have satisfied :=
      isSatisfied_binary leftEvaluated rightEvaluated rightPipeless
    intro identical
    rw [Holds, satisfied] at identical ⊢
    exact congrArg Except.ok
      (Value.looselyEquals_of_strictlyEquals (Except.ok.inj identical))
  · intro leftSome rightSome
    have ahead :=
      compares leftEvaluated rightEvaluated rightPipeless leftSome rightSome
    have back :=
      compares rightEvaluated leftEvaluated leftPipeless rightSome leftSome
    rw [Value.compare?_swap leftValue rightValue] at back
    refine ⟨ahead.coherent back, ?_⟩
    rw [ahead.holds_iff, ne_eq, Value.compare?_eq_none_iff]

def lossRow : Row :=
  ⟨[("lossdate", .date ⟨45000, 21600000000000⟩), ("status", .text "Open")]⟩

theorem comparisons_cohere_loss :
    Holds lossRow .greater (.column "lossdate")
      (.literal (.text "2023-03-15")) ∧
      ¬ Holds lossRow .equal (.literal (.text "2023-03-15"))
        (.column "lossdate") ∧
      Holds lossRow .less (.literal (.text "2023-03-15")) (.column "lossdate") ∧
      Holds lossRow .equal (.column "status") (.literal (.text "open")) ∧
      ¬ (Holds lossRow .less (.unary .negate (.column "status"))
        (.literal (.bool false)) ∨
        Holds lossRow .equal (.unary .negate (.column "status"))
          (.literal (.bool false)) ∨
        Holds lossRow .greater (.unary .negate (.column "status"))
          (.literal (.bool false))) := by
  have lost : (column "lossdate").evaluate lossRow =
      .ok (.date ⟨45000, 21600000000000⟩) := by
    decide +kernel
  have status : (column "status").evaluate lossRow = .ok (.text "open") := by
    decide +kernel
  have number : (unary .negate (column "status")).evaluate lossRow =
      .ok (.number .nan) := by
    decide +kernel
  have day : (Value.text "2023-03-15").Pipeless :=
    show '|' ∉ "2023-03-15".toList by decide
  have word : (Value.text "open").Pipeless := show '|' ∉ "open".toList by decide
  have dayText :
      (literal (.text "2023-03-15")).evaluate lossRow =
        .ok (.text "2023-03-15") :=
    rfl
  have openText :
      (literal (.text "open")).evaluate lossRow = .ok (.text "open") :=
    rfl
  have no : (literal (.bool false)).evaluate lossRow = .ok (.bool false) := rfl
  have dated :=
    (comparisons_cohere dayText lost day trivial).2.2 (by decide) (by decide)
  have alike := (comparisons_cohere status openText word word).2.1
  have unordered :=
    (comparisons_cohere number no trivial trivial).2.2 (by decide) (by decide)
  have earlier :
      Holds lossRow .less (.literal (.text "2023-03-15"))
        (.column "lossdate") := by
    rw [Holds]
    decide +kernel
  have identical :
      Holds lossRow .identical (.column "status")
        (.literal (.text "open")) := by
    rw [Holds]
    decide +kernel
  refine ⟨dated.1.less_iff_greater.mp earlier,
    fun equal => dated.1.not_less_equal ⟨earlier, equal⟩, earlier,
    alike identical, fun ordered => unordered.2.mp ordered ⟨?_, .inl rfl⟩⟩
  exact fun worded => absurd worded.1 (by decide)

end Expr

end RowAudit.Condition
