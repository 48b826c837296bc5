import RowAudit.Column
import RowAudit.Schema.ExpectedType
import RowAudit.Sheet

namespace RowAudit

abbrev TypeMap := ColumnMap ExpectedType

def TypeMap.declaration? : List Cell → Option (String × ExpectedType)
  | column :: expected :: _ =>
      if Text.allBlank column.shown then none
      else some (column.shown, ExpectedType.ofToken expected.shown)
  | _ => none

def TypeMap.ofSheet (sheet : Sheet) : TypeMap :=
  ColumnMap.ofList (sheet.rows.filterMap declaration?)

end RowAudit
