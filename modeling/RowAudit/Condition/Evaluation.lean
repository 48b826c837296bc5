import RowAudit.Condition.Expr
import RowAudit.Row

/-!
Evaluating expressions on a row. The only thing that can go wrong is a list of
choices on the right of an operator that has no use for it.
-/

namespace RowAudit.Condition

inductive Fault where
  | malformed
  | choicesMisused (op : BinaryOperator)
  deriving DecidableEq

def Fault.message : Fault → String
  | .malformed => "Syntax error"
  | .choicesMisused op =>
      s!"Operator '{op.symbol}' cannot be used with multiple values"

def UnaryOperator.apply : UnaryOperator → Value → Value
  | .not, value => .bool !value.isTruthy
  | .negate, value => .number (-value.toNumber)

def sum (left right : Value) : Value :=
  match left, right with
  | .text _, _ | .date _, _ | _, .text _ | _, .date _ =>
      .text (left.toText ++ right.toText)
  | _, _ => .number (left.toNumber + right.toNumber)

def BinaryOperator.apply (op : BinaryOperator) (left right : Value) : Value :=
  match op with
  | .or => .bool (left.isTruthy || right.isTruthy)
  | .and => .bool (left.isTruthy && right.isTruthy)
  | .equal => .bool (left.looselyEquals right)
  | .unequal => .bool !(left.looselyEquals right)
  | .identical => .bool (left.strictlyEquals right)
  | .distinct => .bool !(left.strictlyEquals right)
  | .less => .bool ((left.compare? right).any Ordering.isLT)
  | .lessEqual => .bool ((left.compare? right).any Ordering.isLE)
  | .greater => .bool ((left.compare? right).any Ordering.isGT)
  | .greaterEqual => .bool ((left.compare? right).any Ordering.isGE)
  | .add => sum left right
  | .subtract => .number (left.toNumber - right.toNumber)
  | .multiply => .number (left.toNumber * right.toNumber)
  | .divide => .number (left.toNumber / right.toNumber)
  | .remainder => .number (left.toNumber % right.toNumber)

def isChosen (value : Value) (choices : List String) : Bool :=
  choices.contains (Text.trimmed value.toText)

/-- The value of an operator on two values, of which the right one may list
choices. -/
def BinaryOperator.combine (op : BinaryOperator) (left right : Value) :
    Except Fault Value :=
  match right.choices?, op with
  | some choices, .equal => .ok (.bool (isChosen left choices))
  | some choices, .unequal => .ok (.bool !(isChosen left choices))
  | some _, op => .error (.choicesMisused op)
  | none, op => .ok (op.apply left right)

namespace Expr

/-- The right operand of a connective is not looked at where the left one
settles the matter. -/
def evaluate (row : Row) : Expr → Except Fault Value
  | literal value => .ok value
  | column name => .ok (((row.get? name).map Value.ofCell).getD .null)
  | unary op operand => do return op.apply (← operand.evaluate row)
  | binary .and left right => do
      if (← left.evaluate row).isTruthy then
        return .bool (← right.evaluate row).isTruthy
      else return .bool false
  | binary .or left right => do
      if (← left.evaluate row).isTruthy then return .bool true
      else return .bool (← right.evaluate row).isTruthy
  | binary op left right => do
      let leftValue ← left.evaluate row
      let rightValue ← right.evaluate row
      op.combine leftValue rightValue

def isSatisfied (row : Row) (e : Expr) : Except Fault Bool := do
  return (← e.evaluate row).isTruthy

end Expr

end RowAudit.Condition
