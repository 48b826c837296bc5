import RowAudit.Cell
import RowAudit.Column

namespace RowAudit

abbrev Row := ColumnMap Cell

/-- The cell of a column in normal form; a column that the row lacks is
blank. -/
def Row.cell (row : Row) (column : String) : Cell :=
  (row.get? column).getD .blank

end RowAudit
