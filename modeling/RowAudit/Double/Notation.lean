import RowAudit.Double.Shortest

/-!
Writing doubles. Cells and answers are written positionally, however many zeros
that takes; structured data has a point in every number and goes over to an
exponent for the very large and the very small.
-/

namespace RowAudit

/-- The number `0.d₁d₂… · 10 ^ point`, without needless zeros at the end. -/
structure PointedDigits where
  digits : List Char
  point : Int
  deriving DecidableEq

def Decimal.pointed (d : Decimal) : PointedDigits :=
  let all := digits d.significand
  { digits := (all.reverse.dropWhile
    (· = '0')).reverse, point := all.length + d.exponent }

namespace PointedDigits

def zeros (count : Nat) : List Char :=
  List.replicate count '0'

def positional (p : PointedDigits) : List Char :=
  if p.point ≤ 0 then '0' :: '.' :: (zeros p.point.natAbs ++ p.digits)
  else
    let before := p.point.toNat
    if p.digits.length ≤ before then
      p.digits ++ zeros (before - p.digits.length)
    else p.digits.take before ++ '.' :: p.digits.drop before

def pointedPositional (p : PointedDigits) : List Char :=
  if p.digits.length ≤ p.point then p.positional ++ ['.', '0'] else p.positional

def scientific (p : PointedDigits) : List Char :=
  let power := p.point - 1
  let fraction := p.digits.drop 1
  p.digits.take 1 ++ (if fraction = [] then [] else '.' :: fraction) ++
    'e' :: (if power < 0 then '-' else '+') :: Decimal.digits power.natAbs

end PointedDigits

namespace Double

def minus (negative : Bool) : List Char :=
  if negative then ['-'] else []

def positionalText (units : Nat) : List Char :=
  if units = 0 then ['0'] else (shortest .upward units).pointed.positional

/-- A number as a cell shows it; zero has no sign there. -/
def cellText : Double → String
  | .nan => "NaN"
  | .infinite negative => if negative then "-Infinity" else "Infinity"
  | .finite negative units _ =>
      String.ofList (minus (negative && units != 0) ++ positionalText units)

/-- Structured data writes a magnitude positionally from 10⁻⁵ up to below
10¹⁶. -/
def dataDigits (units : Nat) : List Char :=
  if units = 0 then ['0', '.', '0']
  else
    let digits := (shortest .even units).pointed
    if -4 ≤ digits.point ∧ digits.point ≤ 16 then digits.pointedPositional
    else digits.scientific

/-- A number in structured data, which has no infinities and no non-number: they
are absent there. -/
def dataText : Double → String
  | .nan | .infinite _ => "null"
  | .finite negative units _ =>
      String.ofList (minus negative ++ dataDigits units)

end Double

end RowAudit
