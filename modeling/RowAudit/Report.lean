import RowAudit.Delimited.Writer
import RowAudit.Sheet
import RowAudit.Summary

namespace RowAudit

structure Report where
  sheets : List Sheet
  summary : Summary
  deriving DecidableEq

def Sheet.toText (sheet : Sheet) : String :=
  Delimited.write <|
    sheet.headers.map String.toList ::
      sheet.rows.map fun cells => cells.map fun cell => cell.shown.toList

namespace Report

def faultSheet? (data : Sheet) (summary : Summary) (category : Category) :
    Option Sheet :=
  match summary.rowsIn category with
  | [] => none
  | rows => some (data.selectRows category.sheetName rows)

def build (data : Sheet) (summary : Summary) : Report where
  sheets :=
    { data with name := "Original" } ::
      [Category.dataType, Category.condition].filterMap
      (faultSheet? data summary)
  summary := summary

def summaryName : String :=
  "summary.json"

def files (report : Report) : List (String × String) :=
  report.sheets.map (fun sheet => (sheet.name ++ ".csv", sheet.toText)) ++
    [(summaryName, report.summary.toJson.render)]

end Report

end RowAudit
