import RowAudit.Double.Basic

namespace RowAudit

/-- The number `significand · 10 ^ exponent`. -/
structure Decimal where
  significand : Nat
  exponent : Int
  deriving DecidableEq

def Decimal.digits (n : Nat) : List Char :=
  Nat.toDigits 10 n

def Decimal.ofDigits (cs : List Char) : Nat :=
  cs.foldl (fun n c => 10 * n + (c.toNat - '0'.toNat)) 0

def Decimal.unitRatio (d : Decimal) : Nat × Nat :=
  match d.exponent with
  | .ofNat power => (d.significand * Nat.pow 10 power * Double.one, 1)
  | .negSucc power => (d.significand * Double.one, Nat.pow 10 (power + 1))

/--
The double nearest to a decimal. A decimal of more than 310 places before the
point is beyond every double, and one that has 330 zeros behind the point is
nearer to zero than to any other.
-/
def Decimal.toDouble (negative : Bool) (d : Decimal) : Double :=
  let places := (digits d.significand).length + d.exponent
  if d.significand = 0 ∨ places < -330 then Double.zero negative
  else if 310 < places then .infinite negative
  else Double.round negative d.unitRatio.1 d.unitRatio.2

end RowAudit
