import RowAudit.Double.Arithmetic
import RowAudit.Proofs.Double.Order
import RowAudit.Proofs.Double.ShortDecimals
import RowAudit.Proofs.Text.Order

/-!
Whole numbers among the doubles. Up to 2⁵³ every whole number is a double, so as
long as the results stay below that bound, doubles that are whole numbers are
multiplied, divided and subtracted as such.
-/

namespace RowAudit.Double

/-- Whether a double is a whole number. Either zero is the number zero. -/
def IsWhole (x : Double) (n : Int) : Prop :=
  x.isFinite = true ∧ x.position = some (n * one)

def wholeLimit : Nat :=
  2 ^ 53

/-- The exponent is not to be computed with. -/
theorem exists_one_eq_pow : ∃ exponent, one = 2 ^ exponent :=
  ⟨1074, by decide +kernel⟩

section

variable {n : Nat} (small : n ≤ wholeLimit)
include small

theorem whole_lt_overflow : n * one < overflow := by
  calc n * one
    _ ≤ wholeLimit * one := Nat.mul_le_mul_right one small
    _ < overflow := by decide +kernel

theorem spacing_dvd_whole : spacing (n * one) ∣ n * one := by
  by_cases zero : n = 0
  · rw [zero, Nat.zero_mul]
    exact Nat.dvd_zero _
  · -- The bound itself has one binary digit more, but is a power of two.
    by_cases top : n = wholeLimit
    · rw [top]
      decide +kernel
    · have below : n < 2 ^ 53 := Nat.lt_of_le_of_ne small top
      obtain ⟨exponent, power⟩ := exists_one_eq_pow
      have digits : (n * one).log2 < 53 + exponent := by
        rw [Nat.log2_lt (Nat.mul_ne_zero zero one_pos.ne'),
          Nat.pow_add, ← power]
        exact Nat.mul_lt_mul_of_pos_right below one_pos
      have fine : spacing (n * one) ∣ one := by
        rw [spacing, Nat.pow_eq, power]
        exact Nat.pow_dvd_pow 2 (by rw [← power]; omega)
      exact fine.trans (Nat.dvd_mul_left one n)

theorem representable_whole : Representable (n * one) :=
  ⟨whole_lt_overflow small, Nat.mod_eq_zero_of_dvd (spacing_dvd_whole small)⟩

/-- A quotient of units that comes to a whole number of ones is not moved by
rounding. -/
theorem round_whole {negative : Bool} {numerator denominator : Nat}
    (positive : 0 < denominator) (exact : numerator = n * one * denominator) :
    round negative numerator denominator = .finite negative (n * one)
      (representable_whole small) := by
  rw [exact, ← round_of_representable, ← Nat.one_mul denominator,
    ← Nat.mul_assoc, Nat.mul_one]
  exact round_mul positive

end

theorem finite_congr {negative : Bool} {units other : Nat}
    {representable : Representable units}
    {otherRepresentable : Representable other} (same : units = other) :
    finite negative units representable =
      finite negative other otherRepresentable := by
  subst same
  rfl

section

variable {left right : Bool} {units other : Nat}
  {representable : Representable units}
  {otherRepresentable : Representable other}

theorem finite_mul :
    finite left units representable * finite right other otherRepresentable =
      round (left != right) (units * other) one := by
  show Double.mul _ _ = _
  rw [Double.mul]

theorem finite_div (nonzero : other ≠ 0) :
    finite left units representable / finite right other otherRepresentable =
      round (left != right) (units * one) other :=
  if_neg nonzero

theorem finite_sub :
    finite left units representable - finite right other otherRepresentable =
      roundSigned (left && !right)
        (signedUnits left units + signedUnits (!right) other) :=
  rfl

end

/-- Rounding takes from a whole number beyond the bound less than one part in
2⁵³. -/
theorem units_of_round_large {negative sign : Bool} {m n units : Nat}
    {representable : Representable units} (large : wholeLimit ≤ m * n)
    (rounded : round negative (m * one * (n * one)) one =
      .finite sign units representable) : (wholeLimit - 1) * one ≤ units := by
  have exact : m * one * (n * one) = m * n * one * one := by ring
  have quotient : m * one * (n * one) / one = m * n * one := by
    rw [exact, Nat.mul_div_cancel _ one_pos]
  have wide : 2 ^ 52 ≤ m * one * (n * one) / one := by
    rw [quotient]
    calc 2 ^ 52
      _ ≤ wholeLimit := Nat.pow_le_pow_right Nat.two_pos (by decide)
      _ ≤ m * n := large
      _ ≤ m * n * one := Nat.le_mul_of_pos_right _ one_pos
  have lower :
      (wholeLimit - 1) * (m * one * (n * one)) ≤ wholeLimit * (units * one) :=
    (round_bounds one_pos wide rounded).2
  have limitPos : 0 < wholeLimit := Nat.pow_pos Nat.two_pos
  apply Nat.le_of_mul_le_mul_right _ one_pos
  apply Nat.le_of_mul_le_mul_left _ limitPos
  calc wholeLimit * ((wholeLimit - 1) * one * one)
    _ = (wholeLimit - 1) * (wholeLimit * (one * one)) := by ring
    _ ≤ (wholeLimit - 1) * (m * n * (one * one)) :=
      Nat.mul_le_mul_left _ (Nat.mul_le_mul_right _ large)
    _ = (wholeLimit - 1) * (m * one * (n * one)) := by ring
    _ ≤ wholeLimit * (units * one) := lower

/-! Signs -/

theorem mul_neg_iff_neg {m n : Int} (positive : 0 < n) : m * n < 0 ↔ m < 0 := by
  have scaled := Int.mul_lt_mul_right (b := m) (c := 0) positive
  rwa [Int.zero_mul] at scaled

@[simp] theorem signedUnits_false (n : Nat) : signedUnits false n = n := rfl

@[simp] theorem signedUnits_true (n : Nat) : signedUnits true n = -n := rfl

theorem signedUnits_mul (left right : Bool) (m n : Nat) :
    signedUnits (left != right)
      (m * n) = signedUnits left m * signedUnits right n := by
  cases left <;> cases right <;> simp

theorem signedUnits_decide (n : Int) :
    signedUnits (decide (n < 0)) n.natAbs = n := by
  unfold signedUnits
  by_cases negative : n < 0
  · rw [if_pos (decide_eq_true negative)]
    omega
  · rw [decide_eq_false negative, if_neg Bool.false_ne_true]
    omega

theorem signedUnits_mul_right (negative : Bool) (m n : Nat) :
    signedUnits negative (m * n) = signedUnits negative m * n := by
  cases negative <;> simp

theorem signedUnits_not (negative : Bool) (n : Nat) :
    signedUnits (!negative) n = -signedUnits negative n := by
  cases negative <;> simp

theorem natAbs_signedUnits (negative : Bool) (n : Nat) :
    (signedUnits negative n).natAbs = n := by
  cases negative <;> simp

namespace IsWhole

variable {x y : Double} {m n : Int}

theorem of_finite {negative : Bool} {count : Nat}
    {representable : Representable (count * one)}
    (signed : signedUnits negative count = n) :
    (finite negative (count * one) representable).IsWhole n := by
  refine ⟨rfl, congrArg some ?_⟩
  rw [← signed]
  exact signedUnits_mul_right negative count one

theorem exists_eq_finite (whole : x.IsWhole n) : ∃ negative representable,
    x = finite negative (n.natAbs * one) representable ∧
      signedUnits negative n.natAbs = n := by
  obtain ⟨isFinite, place⟩ := whole
  cases x with
  | nan => cases isFinite
  | infinite negative => cases isFinite
  | finite negative units representable =>
      have signed : signedUnits negative units = n * one :=
        Option.some.inj place
      have magnitude : units = n.natAbs * one := by
        rw [← natAbs_signedUnits negative units, signed, Int.natAbs_mul,
          Int.natAbs_natCast]
      refine ⟨negative, magnitude ▸ representable, finite_congr magnitude, ?_⟩
      rw [magnitude, signedUnits_mul_right] at signed
      exact Int.eq_of_mul_eq_mul_right (Int.natCast_pos.mpr one_pos).ne' signed

theorem compare? (left : x.IsWhole m) (right : y.IsWhole n) :
    x.compare? y = some (compare m n) := by
  rw [Double.compare?, left.2, right.2]
  have positive : (0 : Int) < one := Int.natCast_pos.mpr one_pos
  exact congrArg some
    (compare_congr (Int.mul_lt_mul_right positive)
      (Int.mul_eq_mul_right_iff positive.ne'))

theorem nearestInt? (whole : x.IsWhole n) : x.nearestInt? = some n := by
  obtain ⟨negative, representable, rfl, signed⟩ := whole.exists_eq_finite
  have halved : (2 * (n.natAbs * one) + one) / (2 * one) = n.natAbs := by
    have positive := one_pos
    rw [Nat.mul_left_comm, Nat.mul_comm n.natAbs, Nat.mul_add_div (by omega),
      Nat.div_eq_of_lt (by omega), Nat.add_zero]
  rw [Double.nearestInt?, halved, signed]

theorem mul (left : x.IsWhole m) (right : y.IsWhole n)
    (small : (m * n).natAbs ≤ wholeLimit) : (x * y).IsWhole (m * n) := by
  obtain ⟨leftNegative, _, rfl, leftSigned⟩ := left.exists_eq_finite
  obtain ⟨rightNegative, _, rfl, rightSigned⟩ := right.exists_eq_finite
  rw [Int.natAbs_mul] at small
  have exact :
      m.natAbs * one * (n.natAbs * one) = m.natAbs * n.natAbs * one * one := by
    ring
  rw [finite_mul, round_whole small one_pos exact]
  exact of_finite (by rw [signedUnits_mul, leftSigned, rightSigned])

/-- Beyond the bound a product is rounded, or has no double at all; but it does
not come back below the bound. -/
theorem le_natAbs_of_nearestInt?_mul (left : x.IsWhole m) (right : y.IsWhole n)
    (large : wholeLimit ≤ (m * n).natAbs) {count : Int}
    (nearest : (x * y).nearestInt? = some count) :
    wholeLimit - 1 ≤ count.natAbs := by
  obtain ⟨leftNegative, _, rfl, -⟩ := left.exists_eq_finite
  obtain ⟨rightNegative, _, rfl, -⟩ := right.exists_eq_finite
  rw [Int.natAbs_mul] at large
  rw [finite_mul] at nearest
  cases rounded :
    round (leftNegative != rightNegative)
      (m.natAbs * one * (n.natAbs * one)) one with
  | nan =>
      rw [rounded] at nearest
      cases nearest
  | infinite negative =>
      rw [rounded] at nearest
      cases nearest
  | finite negative units representable =>
      rw [rounded] at nearest
      obtain rfl := Option.some.inj nearest
      rw [natAbs_signedUnits,
        Nat.le_div_iff_mul_le (Nat.mul_pos Nat.two_pos one_pos)]
      calc (wholeLimit - 1) * (2 * one)
        _ = 2 * ((wholeLimit - 1) * one) := by ring
        _ ≤ 2 * units :=
          Nat.mul_le_mul_left 2 (units_of_round_large large rounded)
        _ ≤ 2 * units + one := Nat.le_add_right _ _

end IsWhole

variable {m n : Int}

theorem ofInt_eq (small : n.natAbs ≤ wholeLimit) :
    ofInt n = finite (decide (n < 0)) (n.natAbs * one)
      (representable_whole small) :=
  round_whole small Nat.one_pos (Nat.mul_one _).symm

theorem ofInt_zero : ofInt 0 = zero false := by
  decide +kernel

theorem isWhole_ofInt (small : n.natAbs ≤ wholeLimit) :
    (ofInt n).IsWhole n := by
  rw [ofInt_eq small]
  exact .of_finite (signedUnits_decide n)

theorem ofInt_mul_div (positive : 0 < n) (divisorSmall : n.natAbs ≤ wholeLimit)
    (small : (m * n).natAbs ≤ wholeLimit) :
    ofInt (m * n) / ofInt n = ofInt m := by
  have sign : (decide (m * n < 0) != decide (n < 0)) = decide (m < 0) := by
    rw [decide_eq_false (Int.not_lt.mpr positive.le), Bool.bne_false,
      decide_eq_decide]
    exact mul_neg_iff_neg positive
  have least : m.natAbs ≤ (m * n).natAbs := by
    rw [Int.natAbs_mul]
    exact Nat.le_mul_of_pos_right _ (Int.natAbs_pos.mpr positive.ne')
  have nonzero : n.natAbs * one ≠ 0 :=
    Nat.mul_ne_zero (Int.natAbs_ne_zero.mpr positive.ne') one_pos.ne'
  have exact :
      (m * n).natAbs * one * one = m.natAbs * one * (n.natAbs * one) := by
    rw [Int.natAbs_mul]
    ring
  rw [ofInt_eq small, ofInt_eq divisorSmall, ofInt_eq (least.trans small),
    finite_div nonzero, sign,
    round_whole (least.trans small) (Nat.pos_of_ne_zero nonzero) exact]

theorem ofInt_sub (leftSmall : m.natAbs ≤ wholeLimit)
    (rightSmall : n.natAbs ≤ wholeLimit) :
    ofInt m - ofInt n = ofInt (m - n) := by
  have opposite :
      signedUnits (!decide (n < 0)) (n.natAbs * one) = -(n * one) := by
    rw [signedUnits_mul_right, signedUnits_not, signedUnits_decide, Int.neg_mul]
  have difference :
      signedUnits (decide (m < 0)) (m.natAbs * one) +
        signedUnits (!decide (n < 0)) (n.natAbs * one) =
      (m - n) * one := by
    rw [opposite, signedUnits_mul_right, signedUnits_decide, Int.sub_mul,
      Int.sub_eq_add_neg]
  rw [ofInt_eq leftSmall, ofInt_eq rightSmall, finite_sub, difference,
    roundSigned]
  by_cases same : m = n
  · subst same
    rw [Int.sub_self, Int.zero_mul, if_pos rfl, Bool.and_not_self, ofInt_zero]
  · have positive : (0 : Int) < one := Int.natCast_pos.mpr one_pos
    have nonzero : (m - n) * one ≠ 0 :=
      Int.mul_ne_zero (sub_ne_zero.mpr same) positive.ne'
    rw [if_neg nonzero, ofInt, Int.natAbs_mul, Int.natAbs_natCast,
      decide_eq_decide.mpr (mul_neg_iff_neg positive)]

end RowAudit.Double
