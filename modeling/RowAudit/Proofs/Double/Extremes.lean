import RowAudit.Proofs.Double.ShortDecimals

namespace RowAudit

namespace Double

/-! Powers of this size are not to be computed, so their exponents stay
hidden. -/

theorem exists_two_mul_one_le : ∃ places ≤ 330, 2 * one ≤ 10 ^ places :=
  ⟨330, Nat.le_refl _, by decide +kernel⟩

theorem exists_overflow_le : ∃ places ≤ 310, overflow ≤ 10 ^ places * one :=
  ⟨310, Nat.le_refl _, by decide +kernel⟩

theorem exists_overflow_eq_pow : ∃ exponent, overflow = 2 ^ exponent :=
  ⟨2098, by decide +kernel⟩

theorem round_of_small {negative : Bool} {numerator denominator : Nat}
    (small : 2 * numerator < denominator) :
    round negative numerator denominator = zero negative := by
  have below : numerator < denominator := by omega
  have step : spacing (numerator / denominator) = 1 := by
    rw [Nat.div_eq_of_lt below]
    rfl
  have nearest : nearestEven numerator denominator = 0 := by
    simp only [nearestEven, Nat.div_eq_of_lt below, Nat.mod_eq_of_lt below]
    rw [if_pos (.inl small)]
  simp only [round, step, Nat.mul_one, nearest]
  rw [ofUnits, dif_pos representable_zero]
  rfl

/-- A power of two that is too large for a double lies between the units and
what is left of them. -/
theorem overflow_le_of_large {units : Nat} (large : overflow ≤ units) :
    overflow ≤ units / spacing units * spacing units := by
  have nonzero : units ≠ 0 := fun zero => by
    rw [zero] at large
    exact absurd large (by decide +kernel)
  have high : overflow ≤ 2 ^ units.log2 := by
    obtain ⟨exponent, limit⟩ := exists_overflow_eq_pow
    rw [limit] at large ⊢
    exact Nat.pow_le_pow_right (by decide) ((Nat.le_log2 nonzero).mpr large)
  have divides : spacing units ∣ 2 ^ units.log2 :=
    Nat.pow_dvd_pow 2 (Nat.sub_le _ 52)
  calc overflow
    _ ≤ 2 ^ units.log2 := high
    _ = 2 ^ units.log2 / spacing units * spacing units :=
      (Nat.div_mul_cancel divides).symm
    _ ≤ units / spacing units * spacing units :=
        Nat.mul_le_mul_right _ (Nat.div_le_div_right (Nat.log2_self_le nonzero))

theorem div_le_nearestEven (numerator denominator : Nat) :
    numerator / denominator ≤ nearestEven numerator denominator := by
  simp only [nearestEven]
  split <;> omega

theorem round_of_large {negative : Bool} {numerator denominator : Nat}
    (large : overflow ≤ numerator / denominator) :
    round negative numerator denominator = .infinite negative := by
  have nearest :=
    div_le_nearestEven numerator
      (denominator * spacing (numerator / denominator))
  rw [← Nat.div_div_eq_div_mul] at nearest
  have beyond :=
    (overflow_le_of_large large).trans (Nat.mul_le_mul_right _ nearest)
  simp only [round]
  rw [ofUnits, dif_neg fun representable =>
    Nat.not_lt.mpr beyond representable.1]

end Double

namespace Decimal

theorem length_digits_pos (n : Nat) : 0 < (digits n).length :=
  List.length_pos_iff.mpr Nat.toDigits_ne_nil

theorem lt_pow_length_digits (n : Nat) : n < 10 ^ (digits n).length :=
  (Double.length_digits_le (length_digits_pos n)).mp (Nat.le_refl _)

theorem pow_length_digits_le {n : Nat} (nonzero : n ≠ 0) :
    10 ^ ((digits n).length - 1) ≤ n := by
  have positive := length_digits_pos n
  by_cases one : (digits n).length = 1
  · rw [one]
    exact Nat.pos_of_ne_zero nonzero
  · exact (digits_length_bounds (by omega)).1

theorem two_mul_unitRatio_lt {significand : Nat} {exponent : Int}
    (small : (digits significand).length + exponent < -330) :
    2 * (unitRatio ⟨significand, exponent⟩).1 <
      (unitRatio ⟨significand, exponent⟩).2 := by
  obtain ⟨places, few, fits⟩ := Double.exists_two_mul_one_le
  match exponent with
  | .ofNat power =>
      rw [Int.ofNat_eq_natCast] at small
      omega
  | .negSucc power =>
      have room : (digits significand).length + places ≤ power + 1 := by omega
      rw [unitRatio_negSucc]
      calc 2 * (significand * Double.one)
        _ = significand * (2 * Double.one) := by ring
        _ < 10 ^ (digits significand).length * (2 * Double.one) :=
            Nat.mul_lt_mul_of_pos_right (lt_pow_length_digits significand)
              (by decide +kernel)
        _ ≤ 10 ^ (digits significand).length * 10 ^ places :=
          Nat.mul_le_mul_left _ fits
        _ = 10 ^ ((digits significand).length + places) := (Nat.pow_add ..).symm
        _ ≤ 10 ^ (power + 1) := Nat.pow_le_pow_right (by decide) room

theorem overflow_le_unitRatio {significand : Nat} {exponent : Int}
    (nonzero : significand ≠ 0)
    (large : 310 < (digits significand).length + exponent) :
    Double.overflow ≤ (unitRatio ⟨significand, exponent⟩).1 /
      (unitRatio ⟨significand, exponent⟩).2 := by
  obtain ⟨places, few, fits⟩ := Double.exists_overflow_le
  have leading := pow_length_digits_le nonzero
  match exponent with
  | .ofNat power =>
      rw [Int.ofNat_eq_natCast] at large
      have room : places ≤ (digits significand).length - 1 + power := by omega
      rw [unitRatio, Nat.div_one]
      calc Double.overflow
        _ ≤ 10 ^ places * Double.one := fits
        _ ≤ 10 ^ ((digits significand).length - 1 + power) * Double.one :=
            Nat.mul_le_mul_right _ (Nat.pow_le_pow_right (by decide) room)
        _ = 10 ^ ((digits significand).length - 1) * 10 ^ power *
            Double.one := by
          rw [Nat.pow_add]
        _ ≤ significand * 10 ^ power * Double.one :=
          Nat.mul_le_mul_right _ (Nat.mul_le_mul_right _ leading)
  | .negSucc power =>
      have room : places + (power + 1) ≤ (digits significand).length - 1 := by
        omega
      rw [Nat.le_div_iff_mul_le (unitRatio_pos _), unitRatio_negSucc]
      calc Double.overflow * 10 ^ (power + 1)
        _ ≤ 10 ^ places * Double.one * 10 ^ (power + 1) :=
          Nat.mul_le_mul_right _ fits
        _ = 10 ^ (places + (power + 1)) * Double.one := by
          rw [Nat.mul_right_comm, ← Nat.pow_add]
        _ ≤ 10 ^ ((digits significand).length - 1) * Double.one :=
            Nat.mul_le_mul_right _ (Nat.pow_le_pow_right (by decide) room)
        _ ≤ significand * Double.one := Nat.mul_le_mul_right _ leading

/-- Reading a decimal takes its exact value and rounds it once; that the very
large and the very small are told beforehand makes no difference. -/
theorem toDouble_eq_round (negative : Bool) (d : Decimal) :
    d.toDouble negative =
      Double.round negative d.unitRatio.1 d.unitRatio.2 := by
  simp only [toDouble]
  split
  · next tiny =>
      refine (Double.round_of_small ?_).symm
      rcases tiny with zero | small
      · have numerator : d.unitRatio.1 = 0 := by
          rw [unitRatio]
          split <;> simp only [zero, Nat.zero_mul]
        rw [numerator]
        exact unitRatio_pos d
      · exact two_mul_unitRatio_lt small
  · next least =>
      split
      · next large =>
          exact (Double.round_of_large
            (overflow_le_unitRatio (not_or.mp least).1 large)).symm
      · rfl

end Decimal

end RowAudit
