import RowAudit.Cell
import RowAudit.Text.Lowercase
import RowAudit.Text.Pieces

/-!
The values that conditions compute with. Texts come in lower case, so that
comparing them disregards case; a text with pipes in it lists choices.
-/

namespace RowAudit.Condition

inductive Value where
  | null
  | bool (value : Bool)
  | number (value : Double)
  | text (value : String)
  | date (value : DateTime)
  deriving DecidableEq, Inhabited

namespace Value

def ofText (s : String) : Value :=
  .text (Text.lower s)

def ofCell : Cell → Value
  | .blank => .null
  | .number value => .number value
  | .text value => ofText value
  | .date value => .date value

def isTruthy : Value → Bool
  | .null => false
  | .bool value => value
  | .number value => !value.isZero && value ≠ .nan
  | .text value => value ≠ ""
  | .date _ => true

/-- The number that a text spells: zero if it is blank, and no number if it
spells none. -/
def numberOfText (s : String) : Double :=
  let body := Text.trim s.toList
  if body = [] then .zero false
  else
    match Numeral.read? body with
    | some numeral => if numeral.digits = [] then .nan else numeral.toDouble
    | none => .nan

def toNumber : Value → Double
  | .null => .nan
  | .bool value => if value then .ofInt 1 else .zero false
  | .number value => value
  | .text value => numberOfText value
  | .date value => value.toSerial

def toText : Value → String
  | .null => ""
  | .bool value => if value then "true" else "false"
  | .number value => value.cellText
  | .text value => value
  | .date value => value.cellText

/-- The value as a literal would show it, but for the quotes. -/
def shown : Value → String
  | .null => "null"
  | value => value.toText

def choices? : Value → Option (List String)
  | .text value =>
      if '|' ∈ value.toList then
        some ((Text.pieces '|' value.toList).map fun piece =>
          String.ofList (Text.trim piece))
      else none
  | _ => none

/-- Equality of values of different kinds, as `==` has it. -/
def looselyEquals : Value → Value → Bool
  | .null, .null => true
  | .null, .text s | .text s, .null => s = ""
  | .null, _ | _, .null => false
  | .text s, .text t => s = t
  | .date d, .date e => d = e
  | .date d, .text s | .text s, .date d => d.cellText = s
  | left, right => left.toNumber.equals right.toNumber

def strictlyEquals : Value → Value → Bool
  | .null, .null => true
  | .bool a, .bool b => a = b
  | .number x, .number y => x.equals y
  | .text s, .text t => s = t
  | .date d, .date e => d = e
  | _, _ => false

def orderTexts (s t : String) : Ordering :=
  compare s.toList t.toList

/-- Order of values: texts by code points, dates by time, a date and a text by
the date's text, and all else by number. -/
def compare? : Value → Value → Option Ordering
  | .text s, .text t => some (orderTexts s t)
  | .date d, .date e => some (d.order e)
  | .date d, .text s => some (orderTexts d.cellText s)
  | .text s, .date d => some (orderTexts s d.cellText)
  | left, right => left.toNumber.compare? right.toNumber

end Value

end RowAudit.Condition
