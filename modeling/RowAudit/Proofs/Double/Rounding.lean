import Mathlib.Tactic.Ring
import RowAudit.Double.Shortest

/-!
Rounding depends on the value of a quotient alone, and reading a decimal on the
value of the decimal alone. The shortest decimal of a double therefore reads
back as the double, however it is scaled.
-/

namespace RowAudit

namespace Double

theorem spacing_pos (units : Nat) : 0 < spacing units :=
  Nat.pow_pos (by decide)

theorem nearestEven_mul {numerator denominator factor : Nat}
    (positive : 0 < factor) :
    nearestEven (numerator * factor) (denominator * factor) =
      nearestEven numerator denominator := by
  have below :
      2 * (numerator * factor % (denominator * factor)) < denominator * factor ↔
      2 * (numerator % denominator) < denominator := by
    rw [Nat.mul_mod_mul_right, ← Nat.mul_assoc, Nat.mul_lt_mul_right positive]
  have half :
      2 * (numerator * factor % (denominator * factor)) = denominator * factor ↔
      2 * (numerator % denominator) = denominator := by
    rw [Nat.mul_mod_mul_right, ← Nat.mul_assoc, Nat.mul_left_inj positive.ne']
  simp only [nearestEven, below, half, Nat.mul_div_mul_right _ _ positive]

theorem round_mul {negative : Bool} {numerator denominator factor : Nat}
    (positive : 0 < factor) :
    round negative (numerator * factor) (denominator * factor) =
      round negative numerator denominator := by
  simp only [round, Nat.mul_div_mul_right _ _ positive]
  rw [Nat.mul_right_comm, nearestEven_mul positive]

theorem round_eq_of_mul_eq {negative : Bool}
    {left leftPart right rightPart : Nat} (leftPos : 0 < leftPart)
    (rightPos : 0 < rightPart) (equal : left * rightPart = right * leftPart) :
    round negative left leftPart = round negative right rightPart := by
  rw [← round_mul rightPos, equal, Nat.mul_comm leftPart, round_mul leftPos]

theorem round_of_representable {negative : Bool} {units : Nat}
    (representable : Representable units) :
    round negative units 1 = .finite negative units representable := by
  have whole : nearestEven units (spacing units) * spacing units = units := by
    have exact : units % spacing units = 0 := representable.2
    have positive := spacing_pos units
    simp only [nearestEven, exact, Nat.mul_zero]
    rw [if_pos (.inl positive)]
    exact Nat.div_mul_cancel (Nat.dvd_of_mod_eq_zero exact)
  simp only [round, Nat.div_one, Nat.one_mul, whole]
  rw [ofUnits, dif_pos representable]

end Double

namespace Decimal

theorem digits_mul_ten {n : Nat} (positive : 0 < n) :
    digits (n * 10) = digits n ++ ['0'] := by
  have split :=
    Nat.toDigits_append_toDigits (b := 10) (d := 0) (by decide) positive
      (by decide)
  rw [Nat.toDigits_zero, Nat.add_zero, Nat.mul_comm] at split
  exact split.symm

theorem unitRatio_negSucc (significand power : Nat) :
    unitRatio ⟨significand, .negSucc power⟩ =
      (significand * Double.one, Nat.pow 10 (power + 1)) := rfl

theorem unitRatio_pos (d : Decimal) : 0 < d.unitRatio.2 := by
  rw [unitRatio]
  split
  · exact Nat.one_pos
  · exact Nat.pow_pos (by decide)

theorem unitRatio_mul_ten (significand : Nat) (exponent : Int) :
    (unitRatio ⟨significand * 10, exponent⟩).1 *
      (unitRatio ⟨significand, exponent + 1⟩).2 =
      (unitRatio ⟨significand, exponent + 1⟩).1 *
        (unitRatio ⟨significand * 10, exponent⟩).2 := by
  match exponent with
  | .ofNat power =>
      have next : Int.ofNat power + 1 = .ofNat (power + 1) := rfl
      simp only [next, unitRatio, Nat.pow_eq]
      ring
  | .negSucc 0 =>
      have next : Int.negSucc 0 + 1 = .ofNat 0 := rfl
      simp only [next, unitRatio, Nat.pow_eq]
      ring
  | .negSucc (power + 1) =>
      have next : Int.negSucc (power + 1) + 1 = .negSucc power := rfl
      simp only [next, unitRatio, Nat.pow_eq]
      ring

theorem toDouble_mul_ten (negative : Bool) (significand : Nat)
    (exponent : Int) :
    toDouble negative ⟨significand * 10, exponent⟩ =
      toDouble negative ⟨significand, exponent + 1⟩ := by
  by_cases zero : significand = 0
  · subst zero
    rfl
  · have places : ((digits (significand * 10)).length : Int) + exponent =
        (digits significand).length + (exponent + 1) := by
      rw [digits_mul_ten (Nat.pos_of_ne_zero zero), List.length_append,
        List.length_singleton]
      omega
    have rounded : Double.round negative _ _ = Double.round negative _ _ :=
      Double.round_eq_of_mul_eq (unitRatio_pos _) (unitRatio_pos _)
        (unitRatio_mul_ten significand exponent)
    have nonzero : significand * 10 ≠ 0 := by omega
    simp only [toDouble, places, rounded, zero, nonzero, false_or]

theorem toDouble_mul_pow (negative : Bool) (significand power : Nat)
    (exponent : Int) :
    toDouble negative ⟨significand * 10 ^ power, exponent⟩ =
      toDouble negative ⟨significand, exponent + power⟩ := by
  induction power generalizing exponent with
  | zero => simp
  | succ power ih =>
      rw [Nat.pow_succ, ← Nat.mul_assoc, toDouble_mul_ten, ih]
      congr 2
      omega

end Decimal

namespace Double

theorem five_pow_mul_one : Nat.pow 5 1074 * one = Nat.pow 10 (1073 + 1) := by
  decide +kernel

theorem length_digits_le {significand count : Nat} (positive : 0 < count) :
    (Decimal.digits significand).length ≤ count ↔
      significand < Nat.pow 10 count :=
  Nat.length_toDigits_le_iff (by decide) positive

theorem length_digits_mono {smaller larger : Nat} (le : smaller ≤ larger) :
    (Decimal.digits smaller).length ≤ (Decimal.digits larger).length := by
  have positive : 0 < (Decimal.digits larger).length :=
    Nat.length_toDigits_pos
  have below := (length_digits_le positive).mp (Nat.le_refl _)
  exact (length_digits_le positive).mpr (Nat.lt_of_le_of_lt le below)

theorem length_digits_five_pow :
    744 < (Decimal.digits (Nat.pow 5 1074)).length := by
  decide +kernel

theorem length_digits_overflow :
    (Decimal.digits (overflow * Nat.pow 5 1074)).length ≤ 1383 := by
  decide +kernel

theorem length_exactDecimal {units : Nat} (positive : 0 < units)
    (bounded : units < overflow) :
    744 < (Decimal.digits (exactDecimal units).significand).length ∧
      (Decimal.digits (exactDecimal units).significand).length ≤ 1383 := by
  rw [exactDecimal]
  constructor
  · exact Nat.lt_of_lt_of_le length_digits_five_pow
      (length_digits_mono (Nat.le_mul_of_pos_left _ positive))
  · exact Nat.le_trans
      (length_digits_mono (Nat.mul_le_mul_right _ bounded.le))
      length_digits_overflow

theorem unitRatio_exactDecimal (units : Nat) :
    (exactDecimal units).unitRatio =
      (units * Nat.pow 5 1074 * one, Nat.pow 10 (1073 + 1)) := by
  have exponent : (-1074 : Int) = .negSucc 1073 := rfl
  rw [exactDecimal, exponent]
  exact Decimal.unitRatio_negSucc (units * Nat.pow 5 1074) 1073

theorem toDouble_exactDecimal {units : Nat} (nonzero : units ≠ 0)
    (representable : Representable units) :
    (exactDecimal units).toDouble false =
      .finite false units representable := by
  have positive := Nat.pos_of_ne_zero nonzero
  obtain ⟨atLeast, atMost⟩ := length_exactDecimal positive representable.1
  have scaled : round false (exactDecimal units).unitRatio.1
      (exactDecimal units).unitRatio.2 =
      round false units 1 := by
    apply round_eq_of_mul_eq (Decimal.unitRatio_pos _) Nat.one_pos
    simp only [unitRatio_exactDecimal, Nat.mul_one, Nat.mul_assoc,
      five_pow_mul_one]
  have significand : (exactDecimal units).significand ≠ 0 := by
    intro none
    rw [none, Decimal.digits, Nat.toDigits_zero, List.length_singleton]
      at atLeast
    omega
  have exponent : (exactDecimal units).exponent = -1074 := rfl
  simp only [Decimal.toDouble, scaled, round_of_representable representable]
  rw [if_neg (not_or.mpr ⟨significand, by omega⟩), if_neg (by omega)]

theorem readsBack_of_shorter {tie : TieRule} {units length count : Nat}
    {d : Decimal} (found : shorter? tie units length count = some d) :
    readsBack units d = true := by
  rw [shorter?] at found
  exact List.find?_some found

/-- Whichever decimal is taken for a double, short or exact, it reads back. -/
theorem toDouble_shortest {tie : TieRule} {units : Nat} (nonzero : units ≠ 0)
    (representable : Representable units) :
    (shortest tie units).toDouble false =
      .finite false units representable := by
  have same : ofUnits false units = .finite false units representable :=
    dif_pos representable
  rw [shortest]
  generalize search : List.findSome? _ _ = found
  cases found with
  | none => exact toDouble_exactDecimal nonzero representable
  | some d =>
      obtain ⟨count, -, short⟩ := List.exists_of_findSome?_eq_some search
      have reads := readsBack_of_shorter short
      rw [readsBack, same] at reads
      exact eq_of_beq reads

end Double

end RowAudit
