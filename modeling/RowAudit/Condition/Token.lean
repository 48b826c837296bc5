import RowAudit.Condition.Expr

/-!
Cutting a condition into tokens. What a character means hangs on what may stand
there: a minus where an operand may begin is the first character of a choice
such as `-1|2`, if choices follow, and otherwise an operator in front of its
operand; behind an operand it subtracts.
-/

namespace RowAudit.Condition

inductive Token where
  | operand (e : Expr)
  | unary (op : UnaryOperator)
  | binary (op : BinaryOperator)
  | opening
  | closing
  deriving DecidableEq

/-- What may come next: an operand; an operand right behind an operator in front
of it; or an operator between operands. -/
inductive Expectation where
  | operand
  | signedOperand
  | operator
  deriving DecidableEq

end RowAudit.Condition
