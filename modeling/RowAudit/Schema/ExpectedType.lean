import RowAudit.Text.Blank
import RowAudit.Text.Lowercase

/-!
The types that a column can be declared to hold. A word that names none of them
is kept; only codes and blank cells satisfy it.
-/

namespace RowAudit

inductive ExpectedType where
  | text
  | number
  | date
  | amount
  | general
  | other (token : String)
  deriving DecidableEq

namespace ExpectedType

def ofToken (token : String) : ExpectedType :=
  let word := Text.lower (Text.trimmed token)
  if word = "text" then .text
  else if word = "number" then .number
  else if word = "date" then .date
  else if word = "amount" then .amount
  else if word = "general" then .general
  else .other word

def token : ExpectedType → String
  | .text => "text"
  | .number => "number"
  | .date => "date"
  | .amount => "amount"
  | .general => "general"
  | .other token => token

def isOther : ExpectedType → Bool
  | .other _ => true
  | _ => false

end ExpectedType

end RowAudit
