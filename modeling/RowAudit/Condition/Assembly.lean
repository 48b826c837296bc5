import RowAudit.Condition.Evaluation
import RowAudit.Condition.Lexer

/-!
Putting tokens together into an expression. An operator in front of its operand
binds tighter than any between operands, of which the higher level binds
tighter, and among equals the left one.
-/

namespace RowAudit.Condition

/-- What waits for an operand: an operator in front of it, an operator with its
left operand, or a parenthesis. -/
inductive Frame where
  | unary (op : UnaryOperator)
  | left (e : Expr) (op : BinaryOperator)
  | group
  deriving DecidableEq

namespace Assembly

def applyUnary : List Frame → Expr → List Frame × Expr
  | .unary op :: frames, e => applyUnary frames (.unary op e)
  | frames, e => (frames, e)

/-- Completes the operators that bind at least as tightly as a level, back to
the nearest parenthesis. -/
def complete (level : Nat) : List Frame → Expr → List Frame × Expr
  | .left l op :: frames, e =>
      if level ≤ op.level then complete level frames (.binary op l e)
      else (.left l op :: frames, e)
  | frames, e => (frames, e)

/-- Goes on from the frames that wait and, behind an operand, the expression
that it completes. -/
def run : List Frame → Option Expr → List Token → Option Expr
  | frames, none, .operand e :: rest =>
      let (waiting, whole) := applyUnary frames e
      run waiting (some whole) rest
  | frames, none, .unary op :: rest => run (.unary op :: frames) none rest
  | frames, none, .opening :: rest => run (.group :: frames) none rest
  | frames, some e, .binary op :: rest =>
      let (waiting, left) := complete op.level frames e
      run (.left left op :: waiting) none rest
  | frames, some e, .closing :: rest =>
      match complete 0 frames e with
      | (.group :: outer, inner) =>
          let (waiting, whole) := applyUnary outer inner
          run waiting (some whole) rest
      | _ => none
  | frames, some e, [] =>
      match complete 0 frames e with
      | ([], whole) => some whole
      | _ => none
  | _, _, _ => none

end Assembly

def Expr.parse? (condition : String) : Option Expr :=
  match Lexer.tokens? .operand condition.toList with
  | some tokens => Assembly.run [] none tokens
  | none => none

def isSatisfied (condition : Option Expr) (row : Row) : Except Fault Bool :=
  match condition with
  | some e => e.isSatisfied row
  | none => .error .malformed

end RowAudit.Condition
