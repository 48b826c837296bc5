import RowAudit.Files.Path
import RowAudit.Sheet.Reading
import RowAudit.Text.Lowercase
import RowAudit.Text.WholeWord

namespace RowAudit

structure Workbook where
  sheets : List Sheet
  sources : List Source
  deriving DecidableEq

def Sheet.key (name : String) : String :=
  String.ofList (Text.lowerEach (name.toList.filter Text.isAlphanumeric))

/-- The keys under which a sheet of this role is found, the most wanted
first. -/
def SheetRole.keys : SheetRole → List String
  | .dataMap => ["datamap", "map", "datatypes"]
  | .conditionRules => ["conditionrule", "conditionrules", "rules"]

namespace Workbook

def ofSheets (sheets : List Sheet) : Workbook :=
  ⟨sheets, []⟩

def sheet? (workbook : Workbook) (name : String) : Option Sheet :=
  let key := Sheet.key name
  workbook.sheets.find? fun sheet => Sheet.key sheet.name = key

/-- The sheet of a role: of the most wanted key that any sheet has, the
first. -/
def role (workbook : Workbook) (role : SheetRole) : Except Fault Sheet :=
  match role.keys.findSome? workbook.sheet? with
  | some sheet => .ok sheet
  | none => .error (.missingSheet role)

def sheetExtensions : List String :=
  ["csv", "tsv", "txt", "psv"]

def sheetFile? (entry : DirectoryEntry) : Option ListedFile :=
  match entry.content, (splitFileName entry.name).2 >>= Text.decode? with
  | some content, some extension =>
      if Text.lower extension ∈ sheetExtensions then
        some ⟨entry.name, content⟩
      else none
  | _, _ => none

def readListed (reading : Reading) (directory : String) (file : ListedFile) :
    Except Fault (Sheet × Source) :=
  match file.content with
  | .ok content => reading.sheetOfFile ⟨file.name, content⟩
  | .error obstacle =>
      let path := FilePath.within directory (Text.decodeLossy file.name)
      .error (.unreadable path obstacle)

def ofFiles (reading : Reading) (directory : String)
    (files : List ListedFile) : Except Fault Workbook := do
  let pairs ← files.mapM (readListed reading directory)
  return ⟨pairs.map Prod.fst, pairs.map Prod.snd⟩

def ofDirectory (reading : Reading) (directory : String)
    (entries : List DirectoryEntry) : Except Fault Workbook :=
  ofFiles reading directory <|
    (entries.filterMap sheetFile?).mergeSort fun left right =>
      decide (left.name ≤ right.name)

end Workbook

end RowAudit
