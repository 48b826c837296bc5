import RowAudit.Double.Decimal

namespace RowAudit

inductive TieRule where
  | upward
  | even
  deriving DecidableEq

namespace Double

def exactDecimal (units : Nat) : Decimal :=
  ⟨units * Nat.pow 5 1074, -1074⟩

def readsBack (units : Nat) (d : Decimal) : Bool :=
  d.toDouble false == ofUnits false units

/-- Whether a quotient goes to the neighbour above; `twice` is double what the
division leaves. -/
def roundsUp (tie : TieRule) (below twice denominator : Nat) : Bool :=
  decide (denominator < twice) ||
    (twice == denominator && (tie == .upward || below % 2 == 1))

/--
The two neighbours of an exact value on a grid of decimals, the nearer first.
`cut` digits of the exact significand fall away.
-/
def gridNeighbours (tie : TieRule) (exact : Decimal) (cut : Nat) :
    List Decimal :=
  let grid := Nat.pow 10 cut
  let low := exact.significand / grid
  let below : Decimal := ⟨low, exact.exponent + cut⟩
  let above : Decimal := ⟨low + 1, exact.exponent + cut⟩
  if roundsUp tie low (2 * (exact.significand % grid)) grid then [above, below]
  else [below, above]

/-- The decimal of at most `count` digits that reads back, if one of the two
neighbours does. -/
def shorter? (tie : TieRule) (units length count : Nat) : Option Decimal :=
  (gridNeighbours tie (exactDecimal units) (length - count)).find?
    (readsBack units)

def digitLimit : Nat :=
  17

/-- The shortest decimal that reads back as the magnitude, and of these the
nearest. -/
def shortest (tie : TieRule) (units : Nat) : Decimal :=
  let length := (Decimal.digits (exactDecimal units).significand).length
  ((List.range digitLimit).findSome? fun n =>
    shorter? tie units length (n + 1)).getD
    (exactDecimal units)

end Double

end RowAudit
