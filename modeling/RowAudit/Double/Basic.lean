/-!
Double-precision numbers, held exactly. Every finite double is a whole multiple
of the least positive one, 2⁻¹⁰⁷⁴, so its magnitude is a natural number of such
units, of which at most fifty-three consecutive binary digits are significant.
-/

namespace RowAudit

/-- The distance between neighbouring doubles of about this magnitude. -/
def Double.spacing (units : Nat) : Nat :=
  Nat.pow 2 (units.log2 - 52)

def Double.overflow : Nat :=
  Nat.pow 2 2098

def Double.Representable (units : Nat) : Prop :=
  units < Double.overflow ∧ units % Double.spacing units = 0

instance : DecidablePred Double.Representable := fun units =>
  inferInstanceAs
    (Decidable (units < Double.overflow ∧ units % Double.spacing units = 0))

/-- A double. Zero has two signs; no number has two forms. -/
inductive Double where
  | nan
  | infinite (negative : Bool)
  | finite (negative : Bool) (units : Nat)
      (representable : Double.Representable units)
  deriving DecidableEq

namespace Double

/-- A magnitude that no double has counts as overflow. -/
def ofUnits (negative : Bool) (units : Nat) : Double :=
  if representable :
    Representable units then .finite negative units representable
  else .infinite negative

theorem representable_zero : Representable 0 := by
  decide +kernel

def zero (negative : Bool) : Double :=
  .finite negative 0 representable_zero

instance : Inhabited Double := ⟨zero false⟩

/-- The whole number nearest to a quotient; an exact half goes to the even
neighbour. -/
def nearestEven (numerator denominator : Nat) : Nat :=
  let quotient := numerator / denominator
  let twice := 2 * (numerator % denominator)
  if twice < denominator ∨
    (twice = denominator ∧ quotient % 2 = 0) then quotient
  else quotient + 1

def round (negative : Bool) (numerator denominator : Nat) : Double :=
  let step := spacing (numerator / denominator)
  ofUnits negative (nearestEven numerator (denominator * step) * step)

def one : Nat :=
  Nat.pow 2 1074

def ofInt (n : Int) : Double :=
  round (decide (n < 0)) (n.natAbs * one) 1

def isNegative : Double → Bool
  | .nan => false
  | .infinite negative => negative
  | .finite negative _ _ => negative

def isFinite : Double → Bool
  | .finite .. => true
  | _ => false

def isZero : Double → Bool
  | .finite _ units _ => units == 0
  | _ => false

/-- Units with their sign; an infinity stands just beyond the finite doubles,
and a non-number nowhere. -/
def position : Double → Option Int
  | .nan => none
  | .infinite negative => some (if negative then -overflow else overflow)
  | .finite negative units _ => some (if negative then -units else units)

/-- Order of two doubles; a non-number compares with nothing, and the two zeros
are equal. -/
def compare? (x y : Double) : Option Ordering :=
  match x.position, y.position with
  | some left, some right => some (compare left right)
  | _, _ => none

def equals (x y : Double) : Bool :=
  x.compare? y == some .eq

end Double

end RowAudit
