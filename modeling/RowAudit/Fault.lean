import RowAudit.Files.Place

namespace RowAudit

inductive SheetRole where
  | dataMap
  | conditionRules
  deriving DecidableEq

def SheetRole.name : SheetRole → String
  | .dataMap => "DataMap"
  | .conditionRules => "ConditionRule"

/-- A field that is no text: where its record starts, with records, lines
counted from the top of the file, and how many bytes at the front of the field
are still text. -/
structure BadField where
  record : Nat
  line : Nat
  byte : Nat
  field : Nat
  textBytes : Nat
  deriving DecidableEq

def BadField.message (bad : BadField) : String :=
  s!"record {bad.record} (line {bad.line}, field: {bad.field}, byte: {bad.byte}): " ++
    s!"invalid utf-8: invalid UTF-8 in field {bad.field} near byte index {bad.textBytes}"

inductive Fault where
  | unreadable (path : String) (obstacle : Obstacle)
  | undecodable (bad : BadField)
  | noLines
  | noHeaderRow (sheet : String)
  | missingSheet (role : SheetRole)
  | malformedRow (row cells headers : Nat)
  | unwritableSheet (obstacle : Obstacle)
  | unmakableDirectory (path : String) (obstacle : Obstacle)
  | unwritableSummary (path : String) (obstacle : Obstacle)
  deriving DecidableEq

def Fault.message : Fault → String
  | .unreadable path obstacle => s!"IO error for '{path}': {obstacle.message}"
  | .undecodable bad => s!"CSV error: CSV parse error: {bad.message}"
  | .noLines => "Empty data: No lines to analyze"
  | .noHeaderRow sheet => s!"Empty data: Sheet '{sheet}' has no header row"
  | .missingSheet role => s!"Missing sheet: {role.name}"
  | .malformedRow row cells headers =>
      s!"Malformed row {row}: {cells} cells for {headers} headers"
  | .unwritableSheet obstacle => s!"CSV error: {obstacle.message}"
  | .unmakableDirectory path obstacle =>
      s!"Persistence error: Failed to create directory '{path}': {obstacle.message}"
  | .unwritableSummary path obstacle =>
      s!"Persistence error: Failed to create file '{path}': {obstacle.message}"

end RowAudit
