import RowAudit.Check.Classification
import RowAudit.Row

namespace RowAudit

inductive Category where
  | dataType
  | condition
  deriving DecidableEq

namespace Category

def label : Category → String
  | .dataType => "Data Type"
  | .condition => "Condition"

def sheetName : Category → String
  | .dataType => "DataTypeErrors"
  | .condition => "ConditionErrors"

def key : Category → String
  | .dataType => "dataType"
  | .condition => "condition"

end Category

inductive Breach where
  | dataType (expected : ExpectedType) (found : CellClass)
  | condition (number description text : String)
  deriving DecidableEq

def Breach.message : Breach → String
  | .dataType expected found => s!"Expected {expected.token}, got {found.label}"
  | .condition _ _ text => s!"Condition failed: {text}"

/-- A reported breach. The header is the column of a type as its map has it, and
the header that a condition mentions as the sheet has it. -/
structure Violation where
  row : Nat
  claim : Option String
  header : String
  value : Cell
  breach : Breach
  deriving DecidableEq

namespace Violation

def category (violation : Violation) : Category :=
  match violation.breach with
  | .dataType .. => .dataType
  | .condition .. => .condition

def message (violation : Violation) : String :=
  violation.breach.message

def ruleNumber? (violation : Violation) : Option String :=
  match violation.breach with
  | .dataType .. => none
  | .condition number _ _ => some number

def description? (violation : Violation) : Option String :=
  match violation.breach with
  | .dataType .. => none
  | .condition _ description _ => some description

def condition? (violation : Violation) : Option String :=
  match violation.breach with
  | .dataType .. => none
  | .condition _ _ text => some text

end Violation

/-- What a row is identified by: the text of its claim column, if that is not
blank. -/
def Row.claim? (row : Row) (claimColumn : String) : Option String :=
  match row.cell claimColumn with
  | .blank => none
  | cell => some cell.shown

end RowAudit
