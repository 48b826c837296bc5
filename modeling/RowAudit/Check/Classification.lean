import RowAudit.Schema.ExpectedType
import RowAudit.Cell

/-!
Whether a cell is what its column is declared to hold. Short codes and unsigned
numerals, such as `C1` or `12.5`, satisfy any declaration; blank cells do,
unless they are to be flagged.
-/

namespace RowAudit

inductive CellClass where
  | text
  | number
  | date
  | amount
  | general
  | blank
  deriving DecidableEq

namespace CellClass

def label : CellClass → String
  | .text => "text"
  | .number => "number"
  | .date => "date"
  | .amount => "amount"
  | .general => "general"
  | .blank => "null"

def ofKind : CellKind → CellClass
  | .blank => .blank
  | .number => .number
  | .text => .text
  | .date => .date

end CellClass

structure Classification where
  cellClass : CellClass
  isMatch : Bool
  deriving DecidableEq

namespace Classification

def isCodeChar (c : Char) : Bool :=
  c.isAlpha || c.isDigit

/-- Letters and digits with a digit at the end, or with a point and digits at
the end. -/
def isCode (cs : List Char) : Bool :=
  match cs.dropWhile isCodeChar with
  | [] => cs.getLast?.any Char.isDigit
  | '.' :: fraction => fraction ≠ [] && fraction.all Char.isDigit
  | _ => false

def isGeneral : Cell → Bool
  | .text value => isCode value.toList
  | .number value => isCode value.cellText.toList
  | _ => false

def isDirect : Cell → ExpectedType → Bool
  | .text value, .text => !Text.allBlank value
  | .number _, .number => true
  | _, _ => false

/-- Resolves a cell that is neither of the declared kind, nor vacant, nor a
code. -/
def ofRemaining : Cell → ExpectedType → Classification
  | .date _, .date => ⟨.date, true⟩
  | .number _, .amount => ⟨.amount, true⟩
  | cell, _ => ⟨.ofKind cell.kind, false⟩

end Classification

def Cell.classify (flagBlankCells : Bool) (expected : ExpectedType)
    (cell : Cell) : Classification :=
  if Classification.isDirect cell expected then ⟨.ofKind cell.kind, true⟩
  else if cell.isVacant then ⟨.blank, !flagBlankCells⟩
  else if Classification.isGeneral cell then ⟨.general, true⟩
  else Classification.ofRemaining cell expected

end RowAudit
