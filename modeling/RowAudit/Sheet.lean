import RowAudit.Cell

namespace RowAudit

structure Sheet where
  name : String
  headers : List String
  rows : List (List Cell)
  deriving DecidableEq

/-- The sheet with the chosen rows alone, in the order chosen; there is nothing
to take beyond the last. -/
def Sheet.selectRows (sheet : Sheet) (name : String) (indices : List Nat) :
    Sheet :=
  { sheet with name, rows := indices.filterMap fun index => sheet.rows[index]? }

end RowAudit
