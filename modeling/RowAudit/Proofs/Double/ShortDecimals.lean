import RowAudit.Double.Notation
import RowAudit.Proofs.Double.Rounding

/-!
Decimals of up to fifteen digits survive being read as doubles. Rounding moves a
decimal by less than one part in 2⁵³, and two such decimals are farther apart
than that, so the shortest decimal of the double is the decimal that was read.
-/

namespace RowAudit

namespace Double

theorem one_pos : 0 < one := by
  decide +kernel

theorem nearestEven_bounds (numerator : Nat) {denominator : Nat}
    (positive : 0 < denominator) :
    2 * (nearestEven numerator denominator * denominator) ≤
      2 * numerator + denominator ∧
      2 * numerator ≤ 2 * (nearestEven numerator denominator * denominator) +
        denominator := by
  have split := Nat.div_add_mod' numerator denominator
  have below := Nat.mod_lt numerator positive
  simp only [nearestEven]
  split
  · omega
  · rw [Nat.add_mul, Nat.one_mul]
    omega

theorem spacing_of_small {units : Nat} (small : units < 2 ^ 52) :
    spacing units = 1 := by
  have short : units.log2 - 52 = 0 := by
    by_cases zero : units = 0
    · rw [zero, Nat.log2_zero]
    · have := (Nat.log2_lt zero).mpr small
      omega
  rw [spacing, short]

theorem pow_mul_spacing_le {units : Nat} (large : 2 ^ 52 ≤ units) :
    2 ^ 52 * spacing units ≤ units := by
  have nonzero : units ≠ 0 := by
    intro zero
    rw [zero] at large
    exact absurd large (by decide)
  have long : 52 ≤ units.log2 := (Nat.le_log2 nonzero).mpr large
  rw [spacing, Nat.pow_eq, ← Nat.pow_add, Nat.add_sub_of_le long]
  exact Nat.log2_self_le nonzero

theorem zero_eq_finite_iff {negative sign : Bool} {units : Nat}
    {representable : Representable units} :
    zero negative = .finite sign units representable ↔
      negative = sign ∧ units = 0 := by
  constructor
  · intro same
    have sameSign : negative = sign := congrArg isNegative same
    have none : (units == 0) = true := (congrArg isZero same).symm
    exact ⟨sameSign, eq_of_beq none⟩
  · intro same
    obtain ⟨rfl, rfl⟩ := same
    rfl

theorem ofUnits_eq_finite_iff {negative sign : Bool} {units other : Nat}
    {representable : Representable other} :
    ofUnits negative units = .finite sign other representable ↔
      negative = sign ∧ units = other := by
  constructor
  · intro same
    rw [ofUnits] at same
    split at same
    · injection same with sameSign sameUnits
      exact ⟨sameSign, sameUnits⟩
    · cases same
  · intro same
    obtain ⟨rfl, rfl⟩ := same
    exact dif_pos representable

section

variable {negative sign : Bool} {numerator denominator units : Nat}
  {representable : Representable units}

/-- Rounding moves a quotient by no more than one part in 2⁵³. -/
theorem round_bounds (positive : 0 < denominator)
    (large : 2 ^ 52 ≤ numerator / denominator)
    (rounded : round negative numerator denominator =
      .finite sign units representable) :
    2 ^ 53 * (units * denominator) ≤ (2 ^ 53 + 1) * numerator ∧
      (2 ^ 53 - 1) * numerator ≤ 2 ^ 53 * (units * denominator) := by
  have same := (ofUnits_eq_finite_iff.mp rounded).2
  have step := spacing_pos (numerator / denominator)
  have bounds := nearestEven_bounds numerator (Nat.mul_pos positive step)
  have fine :
      denominator * spacing (numerator / denominator) * 2 ^ 52 ≤ numerator := by
    calc denominator * spacing (numerator / denominator) * 2 ^ 52
        = denominator * (2 ^ 52 * spacing (numerator / denominator)) := by ring
      _ ≤ denominator * (numerator / denominator) :=
        Nat.mul_le_mul_left _ (pow_mul_spacing_le large)
      _ ≤ numerator := Nat.mul_div_le numerator denominator
  have regroup :
      nearestEven numerator (denominator * spacing (numerator / denominator)) *
      (denominator * spacing (numerator / denominator)) =
        units * denominator := by
    rw [← same]
    ring
  rw [regroup] at bounds
  omega

theorem large_of_round
    (rounded : round negative numerator denominator =
      .finite sign units representable) (big : 2 ^ 52 < units) :
    2 ^ 52 ≤ numerator / denominator := by
  by_contra small
  have same := (ofUnits_eq_finite_iff.mp rounded).2
  rw [spacing_of_small (Nat.not_le.mp small), Nat.mul_one, Nat.mul_one,
    nearestEven] at same
  split at same <;> omega

end

end Double

structure Near (exact other : Nat) : Prop where
  above : 2 ^ 53 * exact ≤ (2 ^ 53 + 1) * other
  below : (2 ^ 53 - 1) * other ≤ 2 ^ 53 * exact

namespace Near

variable {exact s t s' t' cut : Nat}

-- On the finer grid both stand on whole steps, and a whole step would be too
-- far for both to be near.
private theorem eq_of_le (near : Near exact (s * 10 ^ t))
    (near' : Near exact (s' * 10 ^ t')) (short : s ≤ 10 ^ 15) (finer : t ≤ t') :
    s * 10 ^ t = s' * 10 ^ t' := by
  obtain ⟨gap, rfl⟩ := Nat.exists_eq_add_of_le finer
  have scaled : s' * 10 ^ (t + gap) = s' * 10 ^ gap * 10 ^ t := by
    rw [Nat.pow_add]
    ring
  have positive : 0 < 10 ^ t := Nat.pow_pos (by decide)
  obtain ⟨above, below⟩ := near
  obtain ⟨above', below'⟩ := near'
  rw [scaled] at above' below' ⊢
  generalize s' * 10 ^ gap = u at *
  have least : s * 10 ^ t ≤ 10 ^ 15 * 10 ^ t := Nat.mul_le_mul_right _ short
  generalize 10 ^ t = grain at *
  rcases Nat.lt_trichotomy s u with less | same | greater
  · have apart : (s + 1) * grain ≤ u * grain := Nat.mul_le_mul_right _ less
    rw [Nat.add_mul, Nat.one_mul] at apart
    omega
  · rw [same]
  · have apart : (u + 1) * grain ≤ s * grain := Nat.mul_le_mul_right _ greater
    rw [Nat.add_mul, Nat.one_mul] at apart
    omega

/-- Of the decimals of up to fifteen digits no two are near the same
magnitude. -/
theorem unique (near : Near exact (s * 10 ^ t))
    (near' : Near exact (s' * 10 ^ t')) (short : s ≤ 10 ^ 15)
    (short' : s' ≤ 10 ^ 15) : s * 10 ^ t = s' * 10 ^ t' := by
  rcases Nat.le_total t t' with finer | finer
  · exact eq_of_le near near' short finer
  · exact (eq_of_le near' near short' finer).symm

theorem cut_le (near : Near exact (s * 10 ^ t)) (short : s < 10 ^ 15)
    (long : 10 ^ (cut + 14) ≤ exact) : cut ≤ t := by
  by_contra finer
  have coarse : 10 ^ 15 * 10 ^ t ≤ exact := by
    rw [← Nat.pow_add]
    exact (Nat.pow_le_pow_right (by decide) (by omega)).trans long
  have least : s * 10 ^ t ≤ (10 ^ 15 - 1) * 10 ^ t :=
    Nat.mul_le_mul_right _ (by omega)
  have positive : 0 < 10 ^ t := Nat.pow_pos (by decide)
  have above := near.above
  generalize s * 10 ^ t = other at *
  generalize 10 ^ t = grain at *
  omega

theorem eq_neighbour {grid g : Nat} (near : Near exact (g * grid))
    (positive : 0 < grid) (bounded : exact < 10 ^ 15 * grid) :
    g = exact / grid ∨ g = exact / grid + 1 := by
  have split := Nat.div_add_mod' exact grid
  have rest := Nat.mod_lt exact positive
  obtain ⟨above, below⟩ := near
  generalize exact / grid = low at *
  rcases Nat.lt_or_ge g low with less | notLess
  · have apart : (g + 1) * grid ≤ low * grid := Nat.mul_le_mul_right _ less
    rw [Nat.add_mul, Nat.one_mul] at apart
    omega
  · rcases Nat.lt_or_ge (low + 1) g with greater | notGreater
    · have apart : (low + 2) * grid ≤ g * grid := Nat.mul_le_mul_right _ greater
      rw [Nat.add_mul] at apart
      omega
    · omega

end Near

namespace Decimal

/-- How many times 10⁻¹⁰⁷⁴ goes into a decimal, if it does so without
remainder. -/
def grains (d : Decimal) : Nat :=
  d.significand * 10 ^ (d.exponent + 1074).toNat

theorem unitRatio_mul_pow {d : Decimal} {depth : Nat}
    (deep : -depth ≤ d.exponent) :
    d.unitRatio.1 * Nat.pow 10 depth =
      d.significand * 10 ^ (d.exponent + depth).toNat * Double.one *
        d.unitRatio.2 := by
  obtain ⟨significand, exponent⟩ := d
  cases exponent with
  | ofNat power =>
      have power_add : (Int.ofNat power + depth).toNat = power + depth := by
        rw [Int.ofNat_eq_natCast]
        omega
      simp only [unitRatio, power_add, Nat.pow_eq, Nat.pow_add]
      ring
  | negSucc power =>
      dsimp only at deep
      have power_add :
          (Int.negSucc power + depth).toNat + (power + 1) = depth := by
        rw [Int.negSucc_eq] at deep ⊢
        omega
      simp only [unitRatio, Nat.pow_eq]
      rw [← power_add, Nat.pow_add]
      simp only [power_add]
      ring

section

variable {d : Decimal} {negative sign : Bool} {units : Nat}
  {representable : Double.Representable units}

/-- A decimal that is not too fine for the doubles around it is near the double
that it is rounded to. -/
theorem near_of_round
    (rounded : Double.round negative d.unitRatio.1 d.unitRatio.2 =
      .finite sign units representable)
    (large : 2 ^ 52 ≤ d.unitRatio.1 / d.unitRatio.2)
    (deep : -1074 ≤ d.exponent) :
    Near (Double.exactDecimal units).significand d.grains := by
  obtain ⟨above, below⟩ := Double.round_bounds (unitRatio_pos d) large rounded
  have whole : -((1073 + 1 : Nat) : Int) ≤ d.exponent := deep
  have scaled := unitRatio_mul_pow whole
  have grains :
      d.significand * 10 ^ (d.exponent + (1073 + 1 : Nat)).toNat = d.grains :=
    rfl
  have exact :
      (Double.exactDecimal units).significand = units * Nat.pow 5 1074 :=
    rfl
  have positive : 0 < Double.one * d.unitRatio.2 :=
    Nat.mul_pos Double.one_pos (unitRatio_pos d)
  rw [exact]
  rw [grains, ← Double.five_pow_mul_one] at scaled
  -- From here on the great powers are mere names.
  generalize Nat.pow 5 1074 = fives at *
  generalize Double.one = one at *
  generalize d.unitRatio = ratio at *
  obtain ⟨numerator, denominator⟩ := ratio
  dsimp only at *
  constructor
  · refine Nat.le_of_mul_le_mul_right ?_ positive
    calc 2 ^ 53 * (units * fives) * (one * denominator)
        = 2 ^ 53 * (units * denominator) * (fives * one) := by ring
      _ ≤ (2 ^ 53 + 1) * numerator * (fives * one) :=
        Nat.mul_le_mul_right _ above
      _ = (2 ^ 53 + 1) * (numerator * (fives * one)) := Nat.mul_assoc ..
      _ = (2 ^ 53 + 1) * d.grains * (one * denominator) := by rw [scaled]; ring
  · refine Nat.le_of_mul_le_mul_right ?_ positive
    calc (2 ^ 53 - 1) * d.grains * (one * denominator)
        = (2 ^ 53 - 1) * (d.grains * one * denominator) := by ring
      _ = (2 ^ 53 - 1) * numerator * (fives * one) := by rw [← scaled]; ring
      _ ≤ 2 ^ 53 * (units * denominator) * (fives * one) :=
        Nat.mul_le_mul_right _ below
      _ = 2 ^ 53 * (units * fives) * (one * denominator) := by ring

theorem round_of_toDouble (nonzero : units ≠ 0)
    (reads : d.toDouble negative = .finite sign units representable) :
    Double.round negative d.unitRatio.1 d.unitRatio.2 =
      .finite sign units representable := by
  rw [toDouble] at reads
  split at reads
  · exact absurd (Double.zero_eq_finite_iff.mp reads).2 nonzero
  · split at reads
    · cases reads
    · exact reads

theorem toDouble_eq_finite_iff :
    d.toDouble negative = .finite sign units representable ↔
      negative = sign ∧
        d.toDouble false = .finite false units representable := by
  rw [toDouble, toDouble]
  split
  · simp only [Double.zero_eq_finite_iff, true_and]
  · split
    · simp only [reduceCtorEq, and_false]
    · simp only [Double.round, Double.ofUnits_eq_finite_iff, true_and]

/-! A decimal that is a multiple of 10⁻³⁰⁰ is not too fine for the doubles
around it. -/

variable (nonzero : d.significand ≠ 0) (coarse : -300 ≤ d.exponent)
include nonzero coarse

theorem large_unitRatio : 2 ^ 53 ≤ d.unitRatio.1 / d.unitRatio.2 := by
  have positive := Nat.pos_of_ne_zero nonzero
  rw [Nat.le_div_iff_mul_le (unitRatio_pos d)]
  have least : Double.one ≤ d.significand * Double.one :=
    Nat.le_mul_of_pos_left _ positive
  obtain ⟨significand, exponent⟩ := d
  cases exponent with
  | ofNat power =>
      have scaled : significand * Double.one ≤ significand * Nat.pow 10 power *
          Double.one := by
        rw [Nat.mul_right_comm]
        exact Nat.le_mul_of_pos_right _ (Nat.pow_pos (by decide))
      have room : 2 ^ 53 ≤ Double.one := by decide +kernel
      rw [unitRatio, Nat.mul_one]
      exact (room.trans least).trans scaled
  | negSucc power =>
      have bounded : power + 1 ≤ 300 := by
        dsimp only at coarse
        omega
      have room : ∀ places ≤ 300, 2 ^ 53 * Nat.pow 10 places ≤ Double.one := by
        decide +kernel
      rw [unitRatio_negSucc]
      exact (room (power + 1) bounded).trans least

variable (reads : d.toDouble negative = .finite sign units representable)
include reads

theorem round_of_coarse :
    Double.round negative d.unitRatio.1 d.unitRatio.2 =
      .finite sign units representable := by
  have kept : ¬ (d.significand = 0 ∨
      ((digits d.significand).length : Int) + d.exponent < -330) := by
    rw [not_or]
    exact ⟨nonzero, by omega⟩
  rw [toDouble, if_neg kept] at reads
  split at reads
  · cases reads
  · exact reads

theorem near_of_coarse :
    Near (Double.exactDecimal units).significand d.grains := by
  have large := large_unitRatio nonzero coarse
  exact near_of_round (round_of_coarse nonzero coarse reads)
    (Nat.le_trans (by decide) large) (by omega)

theorem large_of_coarse : 2 ^ 52 < units := by
  have rounded := round_of_coarse nonzero coarse reads
  have large := large_unitRatio nonzero coarse
  have positive := unitRatio_pos d
  obtain ⟨-, below⟩ :=
    Double.round_bounds positive (Nat.le_trans (by decide) large) rounded
  have most := (Nat.le_div_iff_mul_le positive).mp large
  generalize d.unitRatio.1 = numerator at *
  generalize d.unitRatio.2 = denominator at *
  by_contra small
  have least : units * denominator ≤ 2 ^ 52 * denominator :=
    Nat.mul_le_mul_right _ (Nat.not_lt.mp small)
  omega

end

theorem digits_length_bounds {n : Nat} (long : 1 < (digits n).length) :
    10 ^ ((digits n).length - 1) ≤ n ∧ n < 10 ^ (digits n).length := by
  constructor
  · rw [← Nat.not_lt]
    intro less
    have := (Double.length_digits_le (Nat.sub_pos_of_lt long)).mpr less
    omega
  · exact (Double.length_digits_le (by omega)).mp (Nat.le_refl _)

end Decimal

namespace Double

theorem mem_gridNeighbours {tie : TieRule} {exact d : Decimal} {cut : Nat} :
    d ∈ gridNeighbours tie exact cut ↔
      d = ⟨exact.significand / 10 ^ cut, exact.exponent + cut⟩ ∨
        d = ⟨exact.significand / 10 ^ cut + 1, exact.exponent + cut⟩ := by
  rw [gridNeighbours]
  split
  · rw [List.mem_cons, List.mem_singleton, Or.comm]
    rfl
  · rw [List.mem_cons, List.mem_singleton]
    rfl

theorem readsBack_iff {units : Nat} (representable : Representable units)
    {d : Decimal} :
    readsBack units d = true ↔
      d.toDouble false = .finite false units representable := by
  have same : ofUnits false units = .finite false units representable :=
    dif_pos representable
  rw [readsBack, same, beq_iff_eq]

section

variable {tie : TieRule} {units : Nat} {representable : Representable units}
  {d : Decimal}

theorem isSome_shorter?
    (reads : d.toDouble false = .finite false units representable)
    (nonzero : d.significand ≠ 0) (short : d.significand < 10 ^ 15)
    (coarse : -300 ≤ d.exponent) :
    (shorter? tie units (Decimal.digits (exactDecimal units).significand).length
      15).isSome = true := by
  have big := Decimal.large_of_coarse nonzero coarse reads
  have near := Decimal.near_of_coarse nonzero coarse reads
  have longer := (length_exactDecimal (by omega : 0 < units) representable.1).1
  obtain ⟨atLeast, below⟩ :=
    Decimal.digits_length_bounds
      (show 1 <
        (Decimal.digits (exactDecimal units).significand).length by omega)
  generalize (Decimal.digits (exactDecimal units).significand).length =
    count at *
  obtain ⟨cut, rfl⟩ := Nat.exists_eq_add_of_le' (show 15 ≤ count by omega)
  have depth : ((d.exponent + 1074).toNat : Int) = d.exponent + 1074 := by omega
  rw [Decimal.grains] at near
  generalize (d.exponent + 1074).toNat = t at *
  -- The decimal that was read stands on the grid of fifteen digits, beside the
  -- exact value.
  obtain ⟨rest, rfl⟩ := Nat.exists_eq_add_of_le (near.cut_le short atLeast)
  have scaled : d.significand * 10 ^ (cut + rest) = d.significand * 10 ^ rest *
      10 ^ cut := by
    rw [Nat.pow_add]
    ring
  rw [scaled] at near
  rw [Nat.pow_add, Nat.mul_comm] at below
  have neighbour := near.eq_neighbour (Nat.pow_pos (by decide)) below
  rw [shorter?, Nat.add_sub_cancel, List.find?_isSome]
  refine ⟨⟨d.significand * 10 ^ rest, (exactDecimal units).exponent + cut⟩, ?_,
    ?_⟩
  · rw [mem_gridNeighbours]
    exact neighbour.imp (congrArg (Decimal.mk · _)) (congrArg (Decimal.mk · _))
  · have exponent :
        (exactDecimal units).exponent + cut + rest = d.exponent := by
      have exact : (exactDecimal units).exponent = -1074 := rfl
      omega
    rw [readsBack_iff representable, Decimal.toDouble_mul_pow, exponent]
    exact reads

theorem significand_of_shorter {count : Nat}
    (within : count ≤ (Decimal.digits (exactDecimal units).significand).length)
    (long : 1 < (Decimal.digits (exactDecimal units).significand).length)
    (found : shorter? tie units
      (Decimal.digits (exactDecimal units).significand).length count = some d) :
    d.significand ≤ 10 ^ count := by
  have below := (Decimal.digits_length_bounds long).2
  generalize (Decimal.digits (exactDecimal units).significand).length =
    length at *
  obtain ⟨cut, rfl⟩ := Nat.exists_eq_add_of_le' within
  rw [shorter?, Nat.add_sub_cancel] at found
  rw [Nat.pow_add] at below
  have low : (exactDecimal units).significand / 10 ^ cut < 10 ^ count :=
    Nat.div_lt_of_lt_mul below
  rcases mem_gridNeighbours.mp (List.mem_of_find?_eq_some found) with rfl | rfl
  · exact low.le
  · exact low

theorem exponent_of_shorter {length count : Nat}
    (found : shorter? tie units length count = some d) :
    -1074 ≤ d.exponent := by
  rw [shorter?] at found
  have exact : (exactDecimal units).exponent = -1074 := rfl
  have deep :
      -1074 ≤ (exactDecimal units).exponent + (length - count : Nat) := by
    omega
  rcases mem_gridNeighbours.mp (List.mem_of_find?_eq_some found) with rfl | rfl
  · exact deep
  · exact deep

theorem exponent_shortest (tie : TieRule) (units : Nat) :
    -1074 ≤ (shortest tie units).exponent := by
  rw [shortest]
  generalize search : List.findSome? _ _ = found
  cases found with
  | none => exact Int.le_refl _
  | some d =>
      obtain ⟨count, -, short⟩ := List.exists_of_findSome?_eq_some search
      exact exponent_of_shorter short

theorem exists_shorter?_eq_shortest
    (short :
      (shorter? tie units
        (Decimal.digits (exactDecimal units).significand).length 15).isSome =
          true) :
    ∃ count ≤ 15, shorter? tie units
      (Decimal.digits (exactDecimal units).significand).length count =
      some (shortest tie units) := by
  have range : List.range digitLimit = List.range 15 ++ [15, 16] := rfl
  have found : ((List.range 15).findSome? fun n =>
      shorter? tie units
        (Decimal.digits (exactDecimal units).significand).length
        (n + 1)).isSome = true :=
    List.findSome?_isSome_iff.mpr ⟨14, List.mem_range.mpr (by decide), short⟩
  obtain ⟨d, same⟩ := Option.isSome_iff_exists.mp found
  obtain ⟨n, member, shorter⟩ := List.exists_of_findSome?_eq_some same
  refine ⟨n + 1, Nat.succ_le_of_lt (List.mem_range.mp member), ?_⟩
  rw [shortest, range, List.findSome?_append, same]
  exact shorter

/-- The shortest decimal of the double that a decimal of up to fifteen digits
reads as has its value. -/
theorem grains_shortest
    (reads : d.toDouble false = .finite false units representable)
    (nonzero : d.significand ≠ 0) (short : d.significand < 10 ^ 15)
    (coarse : -300 ≤ d.exponent) : (shortest tie units).grains = d.grains := by
  have big := Decimal.large_of_coarse nonzero coarse reads
  have near := Decimal.near_of_coarse nonzero coarse reads
  have longer := (length_exactDecimal (by omega : 0 < units) representable.1).1
  have enough : (shorter? tie units _ 15).isSome = true :=
    isSome_shorter? reads nonzero short coarse
  obtain ⟨count, few, found⟩ := exists_shorter?_eq_shortest enough
  have bounded := significand_of_shorter (by omega) (by omega) found
  have same := (readsBack_iff representable).mp (readsBack_of_shorter found)
  have rounded := Decimal.round_of_toDouble (by omega) same
  have near' :=
    Decimal.near_of_round rounded (large_of_round rounded big)
      (exponent_shortest tie units)
  exact near'.unique near
    (bounded.trans (Nat.pow_le_pow_right (by decide) few)) short.le

end

end Double

end RowAudit
