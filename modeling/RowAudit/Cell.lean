import RowAudit.Calendar.Serial
import RowAudit.Double.Notation
import RowAudit.Double.Numeral
import RowAudit.Text.Blank

namespace RowAudit

inductive Cell where
  | blank
  | number (value : Double)
  | text (value : String)
  | date (value : DateTime)
  deriving DecidableEq, Inhabited

inductive CellKind where
  | blank
  | number
  | text
  | date
  deriving DecidableEq

def CellKind.label : CellKind → String
  | .blank => "null"
  | .number => "number"
  | .text => "text"
  | .date => "date"

namespace Cell

def kind : Cell → CellKind
  | .blank => .blank
  | .number _ => .number
  | .text _ => .text
  | .date _ => .date

def shown : Cell → String
  | .blank => ""
  | .number value => value.cellText
  | .text value => value
  | .date value => value.cellText

/-- The number that a text is written as, if it is a plain numeral and not
beyond every double. -/
def plainNumber? (s : String) : Option Double :=
  match Numeral.read? (Text.trim s.toList) with
  | some numeral =>
      if numeral.isPlain && numeral.toDouble.isFinite then some numeral.toDouble
      else none
  | none => none

/-- Reads raw cell text. Text that is not a number stays as it is, with the
spaces around it. -/
def infer (inferNumbers : Bool) (raw : String) : Cell :=
  if Text.allBlank raw then .blank
  else if inferNumbers then
    match plainNumber? raw with
    | some value => .number value
    | none => .text raw
  else .text raw

def toSerialDate : Cell → Cell
  | .number value =>
      match DateTime.ofSerial? value with
      | some moment => .date moment
      | none => .number value
  | cell => cell

def isVacant : Cell → Bool
  | .blank => true
  | .text value => Text.allBlank value
  | _ => false

end Cell

end RowAudit
