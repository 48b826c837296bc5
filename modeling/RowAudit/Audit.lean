import RowAudit.Check.Rules
import RowAudit.Check.Types
import RowAudit.Report
import RowAudit.Workbook

namespace RowAudit

structure Settings where
  reading : Reading := {}
  claimColumn : String := "claimno"
  flagBlankCells : Bool := false
  dateMarker : String := "date"

namespace Settings

/-- Whether the marker of dates occurs in a column name; an empty marker marks
none. -/
def isDateColumn (settings : Settings) (column : String) : Bool :=
  let marker := Column.normalize settings.dateMarker
  marker ≠ "" && Text.occursIn marker.toList column.toList

def readCell (settings : Settings) (column : String) (cell : Cell) : Cell :=
  if settings.isDateColumn column then cell.toSerialDate else cell

/-- Takes the cells of a row by column. Headers without a name are left out,
missing cells are blank, and of equal headers the last one counts. -/
def rowOf (settings : Settings) (headers : List String) (cells : List Cell) :
    Row :=
  ColumnMap.ofList <|
    (headers.map Column.normalize).zipIdx.filterMap fun (column, position) =>
      if column = "" then none
      else some (column, settings.readCell column (cells.getD position .blank))

/-- The rows of a sheet by column; a row wider than the headers spoils the whole
sheet. -/
def rows (settings : Settings) (sheet : Sheet) : Except Fault (List Row) :=
  match sheet.rows.zipIdx.find? fun (cells, _) =>
    sheet.headers.length < cells.length with
  | some (cells, index) =>
      .error (.malformedRow index cells.length sheet.headers.length)
  | none => .ok (sheet.rows.map (settings.rowOf sheet.headers))

def typeCheck (settings : Settings) (typeMap : TypeMap) : TypeCheck where
  typeMap := typeMap
  flagBlankCells := settings.flagBlankCells
  claimColumn := settings.claimColumn

def tally (settings : Settings) (headers : List String) (typeMap : TypeMap)
    (rules : List Rule) (rows : List Row) : Category → Tally
  | .dataType => (settings.typeCheck typeMap).tally rows
  | .condition =>
      (RuleCheck.prepare rules headers settings.claimColumn).tally rows

def audit (settings : Settings) (data : Sheet) (typeMap : TypeMap)
    (rules : List Rule) : Except Fault Summary := do
  let rows ← settings.rows data
  return Summary.merged rows.length
    (settings.tally data.headers typeMap rules rows)

def auditWorkbook (settings : Settings) (data : Sheet) (workbook : Workbook) :
    Except Fault Summary := do
  let dataMap ← workbook.role .dataMap
  let rules ← workbook.role .conditionRules
  settings.audit data (TypeMap.ofSheet dataMap) (Rule.ofSheet rules)

end Settings

structure AuditResult where
  source : Source
  ruleSources : List Source
  report : Report

def Settings.auditFile (settings : Settings) (directory : String)
    (rules : Except Fault (List DirectoryEntry))
    (input : Except Fault SheetFile) : Except Fault AuditResult := do
  let workbook ← Workbook.ofDirectory settings.reading directory (← rules)
  let (data, source) ← settings.reading.sheetOfFile (← input)
  let summary ← settings.auditWorkbook data workbook
  return {
    source
    ruleSources := workbook.sources
    report := Report.build data summary }

end RowAudit
