import RowAudit.Condition.Value

namespace RowAudit.Condition

inductive BinaryOperator where
  | or
  | and
  | equal
  | unequal
  | identical
  | distinct
  | less
  | lessEqual
  | greater
  | greaterEqual
  | add
  | subtract
  | multiply
  | divide
  | remainder
  deriving DecidableEq

namespace BinaryOperator

def symbol : BinaryOperator → String
  | or => "||"
  | and => "&&"
  | equal => "=="
  | unequal => "!="
  | identical => "==="
  | distinct => "!=="
  | less => "<"
  | lessEqual => "<="
  | greater => ">"
  | greaterEqual => ">="
  | add => "+"
  | subtract => "-"
  | multiply => "*"
  | divide => "/"
  | remainder => "%"

def level : BinaryOperator → Nat
  | or => 0
  | and => 1
  | equal | unequal | identical | distinct => 2
  | less | lessEqual | greater | greaterEqual => 3
  | add | subtract => 4
  | multiply | divide | remainder => 5

end BinaryOperator

inductive UnaryOperator where
  | not
  | negate
  deriving DecidableEq

def UnaryOperator.symbol : UnaryOperator → String
  | not => "!"
  | negate => "-"

inductive Expr where
  | literal (value : Value)
  | column (name : String)
  | unary (op : UnaryOperator) (operand : Expr)
  | binary (op : BinaryOperator) (left right : Expr)
  deriving DecidableEq

/-- A text literal: in single quotes, those inside it escaped. -/
def quoteText (s : String) : List Char :=
  '\'' :: (s.toList.flatMap fun c => if c = '\'' then ['\\', '\''] else [c]) ++
    ['\'']

def literalText : Value → List Char
  | .text value => quoteText value
  | value => value.shown.toList

namespace Expr

def chars : Expr → List Char
  | literal value => literalText value
  | column name => name.toList
  | unary op operand => op.symbol.toList ++ operand.chars
  | binary op left right =>
      '(' :: left.chars ++ ' ' :: op.symbol.toList ++ ' ' ::
        right.chars ++ [')']

def text (e : Expr) : String :=
  String.ofList e.chars

end Expr

end RowAudit.Condition
