import Mathlib.Data.List.Basic
import RowAudit.Proofs.Double.Notation
import RowAudit.Proofs.Double.ShortDecimals

namespace RowAudit

namespace Decimal

theorem exists_digitChar_eq {c : Char} (digit : c.isDigit = true) :
    ∃ n < 10, Nat.digitChar n = c := by
  obtain ⟨atLeast, atMost⟩ := Char.isDigit_iff_toNat.mp digit
  have first : '0'.toNat = 48 := rfl
  have last : '9'.toNat = 57 := rfl
  refine ⟨c.toNat - 48, by omega, ?_⟩
  apply Char.toNat_inj.mp
  rw [Nat.toNat_digitChar_of_lt_ten (by omega)]
  omega

theorem digits_append {n : Nat} (positive : 0 < n) {cs : List Char}
    (isDigit : ∀ c ∈ cs, c.isDigit = true) :
    digits n ++ cs = digits (Nat.ofDigitChars 10 cs n) := by
  induction cs generalizing n with
  | nil => exact List.append_nil _
  | cons c cs ih =>
      obtain ⟨first, later⟩ := List.forall_mem_cons.mp isDigit
      obtain ⟨d, small, rfl⟩ := exists_digitChar_eq first
      have next : 0 < 10 * n + d := by omega
      have split :=
        Nat.toDigits_append_toDigits (b := 10) (by decide) positive small
      rw [Nat.toDigits_of_lt_base small] at split
      rw [Nat.ofDigitChars_cons_digitChar_of_lt_ten small, ← ih next later,
        digits, digits, ← split, List.append_assoc]
      rfl

theorem digits_ofDigits {cs : List Char} (nonempty : cs ≠ [])
    (isDigit : ∀ c ∈ cs, c.isDigit = true) (head : cs.head? ≠ some '0') :
    digits (ofDigits cs) = cs := by
  cases cs with
  | nil => exact absurd rfl nonempty
  | cons c cs =>
      obtain ⟨first, later⟩ := List.forall_mem_cons.mp isDigit
      obtain ⟨d, small, rfl⟩ := exists_digitChar_eq first
      have positive : 0 < d := by
        apply Nat.pos_of_ne_zero
        intro zero
        subst zero
        exact head rfl
      have value : ofDigits (Nat.digitChar d :: cs) =
          Nat.ofDigitChars 10 cs (10 * 0 + d) :=
        Nat.ofDigitChars_cons_digitChar_of_lt_ten small
      rw [value, Nat.mul_zero, Nat.zero_add, ← digits_append positive later,
        digits, Nat.toDigits_of_lt_base small]
      rfl

theorem ofDigits_ne_zero {cs : List Char} (all : digits (ofDigits cs) = cs)
    (head : cs.head? ≠ some '0') : ofDigits cs ≠ 0 := by
  intro zero
  rw [zero] at all
  rw [← all] at head
  exact head rfl

theorem head?_digits_ne {n : Nat} (positive : 0 < n) :
    (digits n).head? ≠ some '0' := by
  induction n using Nat.strongRecOn with
  | ind n ih =>
      rw [digits]
      by_cases small : n < 10
      · rw [Nat.toDigits_of_lt_base small, List.head?_cons]
        intro zero
        have := Nat.digitChar_eq_zero.mp (Option.some.inj zero)
        omega
      · have front :=
          ih (n / 10) (Nat.div_lt_self positive (by decide)) (by omega)
        rw [digits] at front
        obtain ⟨c, cs, split⟩ :=
          List.exists_cons_of_ne_nil
            (Nat.toDigits_ne_nil (b := 10) (n := n / 10))
        rw [Nat.toDigits_of_base_le (by decide) (Nat.not_lt.mp small), split]
        rw [split] at front
        exact front

/-! The digits of a decimal depend on its value alone. -/

theorem pointed_mul_ten {significand : Nat} (nonzero : significand ≠ 0)
    (exponent : Int) :
    pointed ⟨significand * 10, exponent⟩ =
      pointed ⟨significand, exponent + 1⟩ := by
  have all := digits_mul_ten (Nat.pos_of_ne_zero nonzero)
  have dropped : (digits significand ++ ['0']).reverse.dropWhile (· = '0') =
      (digits significand).reverse.dropWhile (· = '0') := by
    rw [List.reverse_append]
    exact List.dropWhile_cons_of_pos rfl
  rw [pointed, pointed]
  simp only [all, dropped, List.length_append, List.length_singleton,
    PointedDigits.mk.injEq, true_and]
  omega

theorem pointed_mul_pow {significand : Nat} (nonzero : significand ≠ 0)
    (power : Nat) (exponent : Int) :
    pointed ⟨significand * 10 ^ power, exponent⟩ =
      pointed ⟨significand, exponent + power⟩ := by
  induction power generalizing exponent with
  | zero => simp
  | succ power ih =>
      have scaled : significand * 10 ^ power ≠ 0 :=
        Nat.mul_ne_zero nonzero (Nat.pow_pos (by decide)).ne'
      rw [Nat.pow_succ, ← Nat.mul_assoc, pointed_mul_ten scaled, ih]
      congr 2
      omega

private theorem pointed_eq_of_le {d other : Decimal}
    (nonzero : other.significand ≠ 0) (deep : -1074 ≤ d.exponent)
    (finer : d.exponent ≤ other.exponent) (same : d.grains = other.grains) :
    d.pointed = other.pointed := by
  obtain ⟨gap, exponent⟩ := Int.exists_add_of_le finer
  have depth :
      (other.exponent + 1074).toNat = gap + (d.exponent + 1074).toNat := by
    omega
  rw [grains, grains, depth, Nat.pow_add, ← Nat.mul_assoc,
    Nat.mul_left_inj (Nat.pow_pos (by decide)).ne'] at same
  obtain ⟨significand, exponent⟩ := d
  obtain ⟨otherSignificand, otherExponent⟩ := other
  dsimp only at *
  subst same
  rw [pointed_mul_pow nonzero]
  congr 2
  omega

theorem pointed_eq_of_grains {d other : Decimal} (nonzero : d.significand ≠ 0)
    (otherNonzero : other.significand ≠ 0) (deep : -1074 ≤ d.exponent)
    (otherDeep : -1074 ≤ other.exponent) (same : d.grains = other.grains) :
    d.pointed = other.pointed := by
  rcases Int.le_total d.exponent other.exponent with finer | finer
  · exact pointed_eq_of_le otherNonzero deep finer same
  · exact (pointed_eq_of_le nonzero otherDeep finer same.symm).symm

end Decimal

theorem head?_dropWhile_zero_ne (cs : List Char) :
    (cs.dropWhile (· = '0')).head? ≠ some '0' := by
  intro zero
  have kept := List.head?_dropWhile_not (· = '0') cs
  rw [zero] at kept
  simp at kept

theorem exists_zeros_append (cs : List Char) :
    ∃ count rest, List.replicate count '0' ++ rest = cs ∧
      rest.head? ≠ some '0' := by
  have zeros :=
    List.eq_replicate_of_mem fun c (member : c ∈ cs.takeWhile (· = '0')) => by
    simpa using List.mem_takeWhile_imp member
  have split := List.takeWhile_append_dropWhile (p := (· = '0')) (l := cs)
  rw [zeros] at split
  exact ⟨_, _, split, head?_dropWhile_zero_ne cs⟩

/-- The digits on both sides of a point, none of them needless. Without a
fraction there is no point. -/
structure Neat (whole fraction : List Char) : Prop where
  nonempty : whole ≠ []
  wholeDigits : ∀ c ∈ whole, c.isDigit = true
  fractionDigits : ∀ c ∈ fraction, c.isDigit = true
  front : whole.head? = some '0' → whole = ['0']
  back : fraction.getLast? ≠ some '0'

namespace Neat

def text (whole fraction : List Char) : List Char :=
  whole ++ if fraction = [] then [] else '.' :: fraction

def numeral (whole fraction : List Char) : Numeral :=
  ⟨false, whole, if fraction = [] then none else some fraction, 0⟩

variable {whole fraction : List Char}

theorem spells (neat : Neat whole fraction) :
    (numeral whole fraction).Spells (text whole fraction) := by
  rw [numeral, text]
  by_cases empty : fraction = []
  · rw [if_pos empty, if_pos empty, List.append_nil]
    exact .whole neat.nonempty neat.wholeDigits
  · rw [if_neg empty, if_neg empty]
    exact .fraction empty neat.wholeDigits neat.fractionDigits

theorem isPlain (neat : Neat whole fraction) :
    (numeral whole fraction).isPlain = true := by
  have front : whole.head? ≠ some '0' ∨ whole = ['0'] := by
    by_cases zero : whole.head? = some '0'
    · exact .inr (neat.front zero)
    · exact .inl zero
  by_cases empty : fraction = []
  · simpa [numeral, Numeral.isPlain, Numeral.digits, empty, neat.nonempty]
      using front
  · simpa [numeral, Numeral.isPlain, Numeral.digits, empty, neat.nonempty]
      using front

theorem toDecimal_numeral (whole fraction : List Char) :
    (numeral whole fraction).toDecimal =
      ⟨Decimal.ofDigits (whole ++ fraction), -fraction.length⟩ := by
  by_cases empty : fraction = []
  · simp [numeral, Numeral.toDecimal, Numeral.digits, empty]
  · simp [numeral, Numeral.toDecimal, Numeral.digits, empty]

end Neat

namespace PointedDigits

theorem positional_neg (digits : List Char) (count : Nat) :
    positional ⟨digits, -count⟩ = '0' :: '.' :: (zeros count ++ digits) := by
  have point : (-count : Int) ≤ 0 := by omega
  rw [positional, if_pos point, Int.natAbs_neg, Int.natAbs_natCast]

theorem positional_length_add {digits : List Char} (nonempty : digits ≠ [])
    (count : Nat) :
    positional ⟨digits, (digits.length + count : Nat)⟩ =
      digits ++ zeros count := by
  have positive := List.length_pos_iff.mpr nonempty
  have point : ¬ ((digits.length + count : Nat) : Int) ≤ 0 := by omega
  rw [positional, if_neg point, Int.toNat_natCast,
    if_pos (Nat.le_add_right _ _), Nat.add_sub_cancel_left]

theorem positional_append {before behind : List Char} (beforeSome : before ≠ [])
    (behindSome : behind ≠ []) :
    positional ⟨before ++ behind, before.length⟩ = before ++ '.' :: behind := by
  have beforePos := List.length_pos_iff.mpr beforeSome
  have behindPos := List.length_pos_iff.mpr behindSome
  have point : ¬ (before.length : Int) ≤ 0 := by omega
  have longer : ¬ (before ++ behind).length ≤ before.length := by
    rw [List.length_append]
    omega
  rw [positional, if_neg point, Int.toNat_natCast, if_neg longer,
    List.take_left, List.drop_left]

section

variable {p : PointedDigits} (nonempty : p.digits ≠ [])
  (isDigit : ∀ c ∈ p.digits, c.isDigit = true)
include nonempty isDigit

theorem neat_zeros_append (back : p.digits.getLast? ≠ some '0') (count : Nat) :
    Neat ['0'] (zeros count ++ p.digits) where
  nonempty := List.cons_ne_nil _ _
  wholeDigits := List.forall_mem_singleton.mpr rfl
  fractionDigits := by
    intro c member
    rcases List.mem_append.mp member with zero | digit
    · exact isDigit_of_mem_zeros zero
    · exact isDigit c digit
  front _ := rfl
  back := by
    rw [List.getLast?_append_of_ne_nil _ nonempty]
    exact back

theorem neat_append_zeros (front : p.digits.head? ≠ some '0') (count : Nat) :
    Neat (p.digits ++ zeros count) [] where
  nonempty := List.append_ne_nil_of_left_ne_nil nonempty _
  wholeDigits := by
    intro c member
    rcases List.mem_append.mp member with digit | zero
    · exact isDigit c digit
    · exact isDigit_of_mem_zeros zero
  fractionDigits _ member := nomatch member
  front zero := by
    rw [List.head?_append_of_ne_nil _ nonempty] at zero
    exact absurd zero front
  back := by decide

omit nonempty in
theorem neat_take_drop (front : p.digits.head? ≠ some '0')
    (back : p.digits.getLast? ≠ some '0') {before : Nat} (positive : 0 < before)
    (short : before < p.digits.length) :
    Neat (p.digits.take before) (p.digits.drop before) where
  nonempty := by
    rw [← List.length_pos_iff, List.length_take]
    omega
  wholeDigits c member := isDigit c (List.mem_of_mem_take member)
  fractionDigits c member := isDigit c (List.mem_of_mem_drop member)
  front zero := by
    rw [List.head?_take, if_neg (Nat.pos_iff_ne_zero.mp positive)] at zero
    exact absurd zero front
  back := by
    rw [List.getLast?_drop, if_neg (Nat.not_le.mpr short)]
    exact back

theorem exists_neat_positional (front : p.digits.head? ≠ some '0')
    (back : p.digits.getLast? ≠ some '0') :
    ∃ whole fraction,
      Neat whole fraction ∧ Neat.text whole fraction = p.positional := by
  rw [positional]
  by_cases small : p.point ≤ 0
  · rw [if_pos small]
    have fraction : zeros p.point.natAbs ++ p.digits ≠ [] :=
      List.append_ne_nil_of_right_ne_nil _ nonempty
    refine ⟨_, _, neat_zeros_append nonempty isDigit back p.point.natAbs, ?_⟩
    rw [Neat.text, if_neg fraction]
    rfl
  · rw [if_neg small]
    by_cases long : p.digits.length ≤ p.point.toNat
    · rw [if_pos long]
      refine ⟨_, _, neat_append_zeros nonempty isDigit front
        (p.point.toNat - p.digits.length), ?_⟩
      rw [Neat.text, if_pos rfl, List.append_nil]
    · rw [if_neg long]
      have fraction : p.digits.drop p.point.toNat ≠ [] := by
        rw [ne_eq, List.drop_eq_nil_iff]
        exact long
      refine ⟨_, _, neat_take_drop isDigit front back (by omega)
        (Nat.not_le.mp long), ?_⟩
      rw [Neat.text, if_neg fraction]

end

end PointedDigits

namespace Decimal

variable {d : Decimal}

theorem head?_pointed_ne (nonzero : d.significand ≠ 0) :
    d.pointed.digits.head? ≠ some '0' := by
  obtain ⟨count, split⟩ := d.exists_digits_eq_append_zeros
  have front := head?_digits_ne (Nat.pos_of_ne_zero nonzero)
  rw [split, List.head?_append_of_ne_nil _ (pointed_digits_ne_nil nonzero)]
    at front
  exact front

theorem getLast?_pointed_ne (d : Decimal) :
    d.pointed.digits.getLast? ≠ some '0' := by
  rw [pointed, List.getLast?_reverse]
  exact head?_dropWhile_zero_ne (digits d.significand).reverse

theorem pointed_of_digits {cs : List Char} (count : Nat)
    (split : digits d.significand = cs ++ List.replicate count '0')
    (back : cs.getLast? ≠ some '0') :
    d.pointed = ⟨cs, (digits d.significand).length + d.exponent⟩ := by
  have kept : cs.reverse.dropWhile (· = '0') = cs.reverse := by
    rw [← List.head?_reverse] at back
    cases shape : cs.reverse with
    | nil => rfl
    | cons c rest =>
        rw [shape, List.head?_cons] at back
        exact List.dropWhile_cons_of_neg (by simpa using back)
  have dropped :
      (digits d.significand).reverse.dropWhile (· = '0') = cs.reverse := by
    rw [split, List.reverse_append, List.reverse_replicate,
      List.dropWhile_append_of_pos, kept]
    intro c member
    exact decide_eq_true (List.eq_of_mem_replicate member)
  rw [pointed]
  simp only [dropped, List.reverse_reverse]

end Decimal

namespace Neat

variable {whole fraction : List Char}

theorem digits_spelt (neat : Neat whole fraction)
    (front : whole.head? ≠ some '0') :
    Decimal.digits (Decimal.ofDigits (whole ++ fraction)) =
      whole ++ fraction := by
  apply Decimal.digits_ofDigits
  · exact List.append_ne_nil_of_left_ne_nil neat.nonempty _
  · intro c member
    rcases List.mem_append.mp member with before | behind
    · exact neat.wholeDigits c before
    · exact neat.fractionDigits c behind
  · rw [List.head?_append_of_ne_nil _ neat.nonempty]
    exact front

theorem positional_whole (neat : Neat whole [])
    (front : whole.head? ≠ some '0') :
    (Decimal.pointed ⟨Decimal.ofDigits whole, 0⟩).positional = whole := by
  have all := neat.digits_spelt front
  rw [List.append_nil] at all
  have nonzero := Decimal.ofDigits_ne_zero all front
  obtain ⟨count, split⟩ :=
    Decimal.exists_digits_eq_append_zeros ⟨Decimal.ofDigits whole, 0⟩
  have digits :=
    Decimal.pointed_digits_ne_nil (d := ⟨Decimal.ofDigits whole, 0⟩) nonzero
  have shape :=
    Decimal.pointed_of_digits count split (Decimal.getLast?_pointed_ne _)
  dsimp only at split shape
  generalize (Decimal.pointed ⟨Decimal.ofDigits whole, 0⟩).digits = cs at *
  rw [shape, split, List.length_append, List.length_replicate, Int.add_zero,
    PointedDigits.positional_length_add digits, PointedDigits.zeros,
    ← split, all]

theorem positional_around (neat : Neat whole fraction)
    (front : whole.head? ≠ some '0') (nonempty : fraction ≠ []) :
    (Decimal.pointed
      ⟨Decimal.ofDigits (whole ++ fraction), -fraction.length⟩).positional =
      whole ++ '.' :: fraction := by
  have all := neat.digits_spelt front
  have back : (whole ++ fraction).getLast? ≠ some '0' := by
    rw [List.getLast?_append_of_ne_nil _ nonempty]
    exact neat.back
  have point :
      ((whole ++ fraction).length : Int) + -fraction.length = whole.length := by
    rw [List.length_append]
    omega
  have shape : Decimal.pointed
      ⟨Decimal.ofDigits (whole ++ fraction), -fraction.length⟩ = _ :=
    Decimal.pointed_of_digits 0 (all.trans (List.append_nil _).symm) back
  dsimp only at shape
  rw [shape, all, point, PointedDigits.positional_append neat.nonempty nonempty]

theorem positional_below (neat : Neat ['0'] fraction)
    (nonzero : Decimal.ofDigits fraction ≠ 0) :
    (Decimal.pointed ⟨Decimal.ofDigits fraction, -fraction.length⟩).positional =
      '0' :: '.' :: fraction := by
  obtain ⟨count, rest, rfl, front⟩ := exists_zeros_append fraction
  have nonempty : rest ≠ [] := by
    intro empty
    subst empty
    rw [List.append_nil, Decimal.ofDigits_zeros] at nonzero
    exact nonzero rfl
  have back : rest.getLast? ≠ some '0' := by
    have last := neat.back
    rw [List.getLast?_append_of_ne_nil _ nonempty] at last
    exact last
  have all : Decimal.digits (Decimal.ofDigits rest) = rest :=
    Decimal.digits_ofDigits nonempty
      (fun c member => neat.fractionDigits c (List.mem_append_right _ member))
      front
  have point : (rest.length : Int) +
      -(List.replicate count '0' ++ rest).length = -count := by
    rw [List.length_append, List.length_replicate]
    omega
  rw [Decimal.ofDigits_zeros_append]
  have shape : Decimal.pointed
      ⟨Decimal.ofDigits rest, -(List.replicate count '0' ++ rest).length⟩ = _ :=
    Decimal.pointed_of_digits 0 (all.trans (List.append_nil _).symm) back
  dsimp only at shape
  rw [shape, all, point, PointedDigits.positional_neg, PointedDigits.zeros]

/-- What a neat text stands for is written as that text again. -/
theorem positional_pointed (neat : Neat whole fraction)
    (nonzero : Decimal.ofDigits (whole ++ fraction) ≠ 0) :
    (Decimal.pointed
      ⟨Decimal.ofDigits (whole ++ fraction), -fraction.length⟩).positional =
      text whole fraction := by
  rw [text]
  by_cases front : whole.head? = some '0'
  · obtain rfl := neat.front front
    have value :
        Decimal.ofDigits (['0'] ++ fraction) = Decimal.ofDigits fraction :=
      Decimal.ofDigits_zeros_append 1 fraction
    have some : fraction ≠ [] := by
      intro empty
      subst empty
      exact nonzero rfl
    rw [value] at nonzero ⊢
    rw [if_neg some, neat.positional_below nonzero]
    rfl
  · by_cases empty : fraction = []
    · subst empty
      rw [if_pos rfl, List.append_nil]
      exact neat.positional_whole front
    · rw [if_neg empty]
      exact neat.positional_around front empty

theorem eq_of_zero (neat : Neat whole fraction)
    (zero : Decimal.ofDigits (whole ++ fraction) = 0) :
    whole = ['0'] ∧ fraction = [] := by
  have whole_eq : whole = ['0'] := by
    by_contra other
    have front : whole.head? ≠ some '0' := fun head => other (neat.front head)
    have all := neat.digits_spelt front
    rw [← List.head?_append_of_ne_nil _ neat.nonempty] at front
    exact Decimal.ofDigits_ne_zero all front zero
  subst whole_eq
  refine ⟨rfl, ?_⟩
  obtain ⟨count, rest, rfl, front⟩ := exists_zeros_append fraction
  have value : Decimal.ofDigits rest = 0 := by
    rw [← Decimal.ofDigits_zeros_append (count + 1) rest]
    exact zero
  have rest_eq : rest = [] := by
    by_contra nonempty
    have all := Decimal.digits_ofDigits nonempty
      (fun c member => neat.fractionDigits c (List.mem_append_right _ member))
      front
    exact Decimal.ofDigits_ne_zero all front value
  subst rest_eq
  cases count with
  | zero => rfl
  | succ count =>
      have back := neat.back
      rw [List.append_nil, List.replicate_succ', List.getLast?_concat] at back
      exact absurd rfl back

/-- At most fifteen significant digits, and no more than 300 behind the
point. -/
structure Short (whole fraction : List Char) : Prop where
  significant : ∃ significand < 10 ^ 15, ∃ count,
    significand * 10 ^ count = Decimal.ofDigits (whole ++ fraction)
  places : fraction.length ≤ 300

/-- A number that is written neatly, and short enough, is shown as it is
written. -/
theorem positionalText_eq {units : Nat}
    {representable : Double.Representable units} (neat : Neat whole fraction)
    (short : Short whole fraction)
    (reads : (numeral whole fraction).toDouble =
      .finite false units representable) :
    Double.positionalText units = text whole fraction := by
  rw [Numeral.toDouble, toDecimal_numeral] at reads
  by_cases zero : Decimal.ofDigits (whole ++ fraction) = 0
  · obtain ⟨rfl, rfl⟩ := neat.eq_of_zero zero
    have none : (units == 0) = true := (congrArg Double.isZero reads).symm
    rw [eq_of_beq none]
    rfl
  · obtain ⟨⟨significand, few, count, value⟩, places⟩ := short
    rw [← neat.positional_pointed zero]
    rw [← value] at reads zero ⊢
    have nonzero : significand ≠ 0 := Nat.ne_zero_of_mul_ne_zero_left zero
    have sign : (numeral whole fraction).negative = false := rfl
    rw [sign, Decimal.toDouble_mul_pow] at reads
    rw [Decimal.pointed_mul_pow nonzero]
    have coarse : -300 ≤ (-fraction.length + count : Int) := by omega
    have deep : -1074 ≤ (-fraction.length + count : Int) := by omega
    have some : units ≠ 0 := by
      have big := Decimal.large_of_coarse nonzero coarse reads
      omega
    rw [Double.positionalText, if_neg some]
    apply congrArg PointedDigits.positional
    exact Decimal.pointed_eq_of_grains
      (Double.significand_shortest_ne_zero some representable) nonzero
      (Double.exponent_shortest .upward units) deep
      (Double.grains_shortest reads nonzero few coarse)

end Neat

theorem Double.exists_neat_positionalText {units : Nat}
    (representable : Representable units) :
    ∃ whole fraction,
      Neat whole fraction ∧
      Neat.text whole fraction = positionalText units := by
  by_cases zero : units = 0
  · subst zero
    exact ⟨['0'], [], ⟨List.cons_ne_nil _ _, List.forall_mem_singleton.mpr rfl,
      List.forall_mem_nil _, fun _ => rfl, by decide⟩, rfl⟩
  · rw [positionalText, if_neg zero]
    have nonzero : (shortest .upward units).significand ≠ 0 :=
      significand_shortest_ne_zero zero representable
    exact PointedDigits.exists_neat_positional
      (Decimal.pointed_digits_ne_nil nonzero)
      (fun _ member => Decimal.isDigit_of_mem_pointed member)
      (Decimal.head?_pointed_ne nonzero)
      (Decimal.getLast?_pointed_ne _)

end RowAudit
