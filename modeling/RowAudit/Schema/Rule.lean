import RowAudit.Sheet

namespace RowAudit

structure Rule where
  number : String
  description : String
  conditions : List String
  deriving DecidableEq

namespace Rule

def ofCells? : List Cell → Option Rule
  | number :: description :: conditions =>
      let texts :=
        (conditions.map Cell.shown).filter fun text => !Text.allBlank text
      if texts = [] then none else some ⟨number.shown, description.shown, texts⟩
  | _ => none

def ofSheet (sheet : Sheet) : List Rule :=
  sheet.rows.filterMap ofCells?

end Rule

end RowAudit
