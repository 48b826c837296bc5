import RowAudit.Check.Tally
import RowAudit.Condition.Assembly
import RowAudit.Condition.Normal
import RowAudit.Schema.Rule
import RowAudit.Text.WholeWord

/-!
Checking rows against condition rules. A condition takes part only if it
mentions a declared header as a whole word; the first such header is the one it
is attributed to. A guard that takes part and is false excuses the row from the
rule. Otherwise the first check that takes part and is not true is the rule's
violation, and so is a guard that has no value.
-/

namespace RowAudit

structure Header where
  name : String
  column : String
  deriving DecidableEq

def Header.declared (headers : List String) : List Header :=
  (headers.map fun header =>
    ⟨Text.trimmed header, Column.normalize header⟩).filter
    fun header => header.column ≠ ""

/-- A condition as written, the header it is attributed to, and the expression
it stands for. -/
structure PreparedCondition where
  text : String
  header : Option Header
  expr : Option Condition.Expr
  deriving DecidableEq

namespace PreparedCondition

def prepare (headers : List Header) (text : String) : PreparedCondition :=
  let normal := Condition.normalize text
  { text
    header :=
      headers.find? fun header =>
        Text.mentions normal.toList header.column.toList
    expr := Condition.Expr.parse? normal }

def takesPart (condition : PreparedCondition) : Bool :=
  condition.header.isSome

/-- Whether the condition holds on a row; a condition that is not well formed
has no verdict. -/
def verdict (condition : PreparedCondition) (row : Row) :
    Except Condition.Fault Bool :=
  Condition.isSatisfied condition.expr row

/-- Whether the condition takes part and is not true. -/
def fails (condition : PreparedCondition) (row : Row) : Bool :=
  condition.takesPart &&
    match condition.verdict row with
    | .ok true => false
    | _ => true

end PreparedCondition

structure PreparedRule where
  number : String
  description : String
  guard : PreparedCondition
  checks : List PreparedCondition
  deriving DecidableEq

namespace PreparedRule

/-- A rule without conditions is none. -/
def prepare? (headers : List Header) (rule : Rule) : Option PreparedRule :=
  match rule.conditions with
  | [] => none
  | guard :: checks =>
      some
        { number := rule.number
          description := rule.description
          guard := .prepare headers guard
          checks := checks.map (.prepare headers) }

def violated? (rule : PreparedRule) (row : Row) : Option PreparedCondition :=
  if rule.guard.takesPart then
    match rule.guard.verdict row with
    | .ok true => rule.checks.find? (·.fails row)
    | .ok false => none
    | .error _ => some rule.guard
  else rule.checks.find? (·.fails row)

end PreparedRule

structure RuleCheck where
  rules : List PreparedRule
  claimColumn : String

namespace RuleCheck

def prepare (rules : List Rule) (headers : List String) (claimColumn : String) :
    RuleCheck :=
  ⟨rules.filterMap (PreparedRule.prepare? (Header.declared headers)),
    claimColumn⟩

def violation (check : RuleCheck) (index : Nat) (row : Row)
    (rule : PreparedRule) (condition : PreparedCondition) : Violation :=
  { row := index
    claim := row.claim? (Column.normalize check.claimColumn)
    header := (condition.header.map Header.name).getD ""
    value := row.cell ((condition.header.map Header.column).getD "")
    breach := .condition rule.number rule.description condition.text }

def violations (check : RuleCheck) (index : Nat) (row : Row) : List Violation :=
  check.rules.filterMap fun rule =>
    (rule.violated? row).map (check.violation index row rule)

def tally (check : RuleCheck) (rows : List Row) : Tally :=
  Tally.run check.violations rows

end RuleCheck

end RowAudit
