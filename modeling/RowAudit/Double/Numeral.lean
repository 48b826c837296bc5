import RowAudit.Double.Decimal

namespace RowAudit

/-- The parts of a numeral. A point that no digit follows has the fraction `some
[]`. -/
structure Numeral where
  negative : Bool
  whole : List Char
  fraction : Option (List Char)
  exponent : Int
  deriving DecidableEq

namespace Numeral

def splitSign : List Char → Bool × List Char
  | '+' :: rest => (false, rest)
  | '-' :: rest => (true, rest)
  | cs => (false, cs)

def signed (negative : Bool) (n : Nat) : Int :=
  if negative then -n else n

def readExponent? : List Char → Option Int
  | [] => some 0
  | c :: rest =>
      let (negative, digits) := splitSign rest
      if (c = 'e' ∨ c = 'E') ∧ digits ≠ [] ∧ digits.all Char.isDigit then
        some (signed negative (Decimal.ofDigits digits))
      else none

/-- Reads a whole text as a numeral; one without any digit before the exponent
is still read. -/
def read? (cs : List Char) : Option Numeral :=
  let (negative, body) := splitSign cs
  let whole := body.takeWhile Char.isDigit
  match body.dropWhile Char.isDigit with
  | '.' :: tail =>
      (readExponent? (tail.dropWhile Char.isDigit)).map fun exponent =>
        { negative, whole, fraction := some (tail.takeWhile
          Char.isDigit), exponent }
  | rest =>
      (readExponent? rest).map fun exponent =>
        { negative, whole, fraction := none, exponent }

def digits (n : Numeral) : List Char :=
  n.whole ++ n.fraction.getD []

/-- Whether the numeral is written as numbers in sheets are: no needless zero in
front, and digits on the right of a point. A code such as `007` is no number. -/
def isPlain (n : Numeral) : Bool :=
  n.digits ≠ [] && n.fraction ≠
    some [] && (n.whole.head? ≠ some '0' || n.whole = ['0'])

def toDecimal (n : Numeral) : Decimal :=
  ⟨Decimal.ofDigits n.digits, n.exponent - (n.fraction.getD []).length⟩

def toDouble (n : Numeral) : Double :=
  n.toDecimal.toDouble n.negative

end Numeral

end RowAudit
