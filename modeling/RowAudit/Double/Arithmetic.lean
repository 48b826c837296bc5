import RowAudit.Double.Basic

namespace RowAudit.Double

/-- The double nearest to a signed quotient of units; `negativeZero` signs an
exact zero. -/
def roundSigned (negativeZero : Bool) (units : Int) : Double :=
  if units = 0 then zero negativeZero
  else round (decide (units < 0)) units.natAbs 1

def signedUnits (negative : Bool) (units : Nat) : Int :=
  if negative then -units else units

protected def neg : Double → Double
  | .nan => .nan
  | .infinite negative => .infinite !negative
  | .finite negative units representable =>
      .finite (!negative) units representable

/-- Opposite infinities have no sum, and opposite numbers have the sum zero
without a minus. -/
protected def add : Double → Double → Double
  | .nan, _ | _, .nan => .nan
  | .infinite left, .infinite right =>
      if left = right then .infinite left else .nan
  | .infinite negative, .finite .. | .finite .., .infinite negative =>
      .infinite negative
  | .finite left leftUnits _, .finite right rightUnits _ =>
      roundSigned (left && right)
        (signedUnits left leftUnits + signedUnits right rightUnits)

protected def sub (x y : Double) : Double :=
  x.add y.neg

protected def mul : Double → Double → Double
  | .nan, _ | _, .nan => .nan
  | .infinite left, .infinite right => .infinite (left != right)
  | .infinite left, .finite right units _ | .finite right units _,
      .infinite left =>
      if units = 0 then .nan else .infinite (left != right)
  | .finite left leftUnits _, .finite right rightUnits _ =>
      round (left != right) (leftUnits * rightUnits) one

protected def div : Double → Double → Double
  | .nan, _ | _, .nan => .nan
  | .infinite _, .infinite _ => .nan
  | .infinite left, .finite right _ _ => .infinite (left != right)
  | .finite left _ _, .infinite right => zero (left != right)
  | .finite left leftUnits _, .finite right rightUnits _ =>
      if rightUnits = 0 then
        if leftUnits = 0 then .nan else .infinite (left != right)
      else round (left != right) (leftUnits * one) rightUnits

/-- The remainder of the division that drops the fraction; it has the sign of
the dividend. -/
protected def rem : Double → Double → Double
  | .nan, _ | _, .nan => .nan
  | .infinite _, _ => .nan
  | .finite negative units representable, .infinite _ =>
      .finite negative units representable
  | .finite negative units _, .finite _ divisor _ =>
      if divisor = 0 then .nan else ofUnits negative (units % divisor)

instance : Neg Double := ⟨Double.neg⟩
instance : Add Double := ⟨Double.add⟩
instance : Sub Double := ⟨Double.sub⟩
instance : Mul Double := ⟨Double.mul⟩
instance : Div Double := ⟨Double.div⟩
instance : Mod Double := ⟨Double.rem⟩

/-- The whole number nearest to a finite double; an exact half goes away from
zero. -/
def nearestInt? : Double → Option Int
  | .finite negative units _ =>
      some (signedUnits negative ((2 * units + one) / (2 * one)))
  | _ => none

end RowAudit.Double
