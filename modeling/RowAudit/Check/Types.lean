import RowAudit.Check.Tally
import RowAudit.Schema.TypeMap

namespace RowAudit

structure TypeCheck where
  typeMap : TypeMap
  flagBlankCells : Bool
  claimColumn : String

namespace TypeCheck

def columnViolation? (check : TypeCheck) (index : Nat) (row : Row)
    (column : String) (expected : ExpectedType) : Option Violation :=
  let cell := row.cell column
  let result := cell.classify check.flagBlankCells expected
  if result.isMatch then none
  else
    some
      { row := index
        claim := row.claim? (Column.normalize check.claimColumn)
        header := column
        value := cell
        breach := .dataType expected result.cellClass }

def violations (check : TypeCheck) (index : Nat) (row : Row) : List Violation :=
  check.typeMap.entries.filterMap fun (column, expected) =>
    check.columnViolation? index row column expected

def tally (check : TypeCheck) (rows : List Row) : Tally :=
  Tally.run check.violations rows

end TypeCheck

end RowAudit
