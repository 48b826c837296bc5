import Mathlib.Data.List.TakeWhile
import RowAudit.Double.Notation
import RowAudit.Double.Numeral
import RowAudit.Proofs.Double.Order
import RowAudit.Proofs.Double.Rounding

namespace RowAudit

namespace Decimal

theorem ofDigits_digits (n : Nat) : ofDigits (digits n) = n :=
  Nat.ofDigitChars_ten_toDigits

theorem ofDigits_append (left right : List Char) :
    ofDigits (left ++ right) = 10 ^ right.length * ofDigits left +
      ofDigits right := by
  have whole :
      ofDigits (left ++ right) = Nat.ofDigitChars 10 right (ofDigits left) :=
    Nat.ofDigitChars_append 0
  rw [whole, Nat.ofDigitChars_eq_ofDigitChars_zero]
  rfl

theorem ofDigits_zeros (count : Nat) :
    ofDigits (List.replicate count '0') = 0 :=
  Nat.ofDigitChars_replicate_zero.trans (Nat.mul_zero _)

theorem ofDigits_zeros_append (count : Nat) (cs : List Char) :
    ofDigits (List.replicate count '0' ++ cs) = ofDigits cs := by
  rw [ofDigits_append, ofDigits_zeros, Nat.mul_zero, Nat.zero_add]

theorem ofDigits_append_zeros (cs : List Char) (count : Nat) :
    ofDigits (cs ++ List.replicate count '0') = ofDigits cs * 10 ^ count := by
  rw [ofDigits_append, ofDigits_zeros, List.length_replicate, Nat.add_zero,
    Nat.mul_comm]

end Decimal

/-- A text without sign and exponent that spells a numeral. -/
inductive Numeral.Spells : List Char → Numeral → Prop
  | whole {whole : List Char} (nonempty : whole ≠ [])
      (digits : ∀ c ∈ whole, c.isDigit = true) :
      Spells whole ⟨false, whole, none, 0⟩
  | fraction {whole fraction : List Char} (nonempty : fraction ≠ [])
      (wholeDigits : ∀ c ∈ whole, c.isDigit = true)
      (fractionDigits : ∀ c ∈ fraction, c.isDigit = true) :
      Spells (whole ++ '.' :: fraction) ⟨false, whole, some fraction, 0⟩

/-- The end of a numeral that scales it: nothing, or an exponent without a plus
sign. -/
inductive Numeral.SpellsExponent : List Char → Int → Prop
  | absent : SpellsExponent [] 0
  | present {mark : Char} (isMark : mark = 'e' ∨ mark = 'E') (negative : Bool)
      {power : List Char}
      (nonempty : power ≠ []) (digits : ∀ c ∈ power, c.isDigit = true) :
      SpellsExponent (mark :: (Double.minus negative ++ power))
        (signed negative (Decimal.ofDigits power))

/-- What spells a numeral consists of digits, and it may have a point. -/
theorem Numeral.Spells.forall_mem {p : Char → Prop}
    (digit : ∀ c, c.isDigit = true → p c) (point : p '.') {cs : List Char}
    {n : Numeral} (spells : n.Spells cs) : ∀ c ∈ cs, p c := by
  intro c member
  cases spells with
  | whole nonempty wholeDigits => exact digit c (wholeDigits c member)
  | fraction nonempty wholeDigits fractionDigits =>
      rcases List.mem_append.mp member with before | behind
      · exact digit c (wholeDigits c before)
      · rcases List.mem_cons.mp behind with rfl | behind
        · exact point
        · exact digit c (fractionDigits c behind)

theorem Numeral.Spells.ne_nil {cs : List Char} {n : Numeral}
    (spells : n.Spells cs) : cs ≠ [] := by
  cases spells with
  | whole nonempty digits => exact nonempty
  | fraction nonempty wholeDigits fractionDigits => simp

theorem Numeral.Spells.unsigned {cs : List Char} {n : Numeral}
    (spells : n.Spells cs) : n.negative = false := by
  cases spells <;> rfl

namespace PointedDigits

def toDecimal (p : PointedDigits) : Decimal :=
  ⟨Decimal.ofDigits p.digits, p.point - p.digits.length⟩

theorem isDigit_of_mem_zeros {count : Nat} {c : Char}
    (member : c ∈ zeros count) : c.isDigit = true := by
  rw [List.eq_of_mem_replicate member]
  rfl

theorem toDouble_spelt_fraction {p : PointedDigits} {whole fraction : List Char}
    (value : Decimal.ofDigits (whole ++ fraction) = Decimal.ofDigits p.digits)
    (point : -(fraction.length : Int) = p.point - p.digits.length) :
    Numeral.toDouble ⟨false, whole, some fraction, 0⟩ =
      p.toDecimal.toDouble false := by
  rw [Numeral.toDouble, Numeral.toDecimal, toDecimal]
  simp only [Numeral.digits, Option.getD_some, value, Int.zero_sub, point]

theorem toDouble_spelt_whole {p : PointedDigits} {count : Nat}
    (point : (count : Int) = p.point - p.digits.length) :
    Numeral.toDouble ⟨false, p.digits ++ zeros count, none, 0⟩ =
      p.toDecimal.toDouble false := by
  rw [Numeral.toDouble, Numeral.toDecimal, toDecimal]
  simp only [Numeral.digits, Option.getD_none, List.append_nil, zeros,
    Decimal.ofDigits_append_zeros]
  rw [Decimal.toDouble_mul_pow, List.length_nil, ← point]
  simp

section

variable {p : PointedDigits} (nonempty : p.digits ≠ [])
  (digits : ∀ c ∈ p.digits, c.isDigit = true)
include nonempty digits

theorem spells_zeros_append (count : Nat) :
    Numeral.Spells ('0' :: '.' :: (zeros count ++ p.digits))
      ⟨false, ['0'], some (zeros count ++ p.digits), 0⟩ := by
  refine .fraction (by simp [nonempty]) (List.forall_mem_singleton.mpr rfl) ?_
  intro c member
  rcases List.mem_append.mp member with zero | digit
  · exact isDigit_of_mem_zeros zero
  · exact digits c digit

theorem spells_append_zeros (count : Nat) :
    Numeral.Spells (p.digits ++ zeros count)
      ⟨false, p.digits ++ zeros count, none, 0⟩ := by
  refine .whole (by simp [nonempty]) ?_
  intro c member
  rcases List.mem_append.mp member with digit | zero
  · exact digits c digit
  · exact isDigit_of_mem_zeros zero

theorem exists_spells_positional :
    ∃ n, Numeral.Spells p.positional n ∧
      n.toDouble = p.toDecimal.toDouble false := by
  rw [positional]
  by_cases small : p.point ≤ 0
  · rw [if_pos small]
    refine ⟨_, spells_zeros_append nonempty digits _,
      toDouble_spelt_fraction ?_ ?_⟩
    · exact Decimal.ofDigits_zeros_append (p.point.natAbs + 1) p.digits
    · rw [List.length_append, zeros, List.length_replicate]
      omega
  · rw [if_neg small]
    by_cases long : p.digits.length ≤ p.point.toNat
    · rw [if_pos long]
      exact ⟨_, spells_append_zeros nonempty digits _,
        toDouble_spelt_whole (by omega)⟩
    · rw [if_neg long]
      refine ⟨⟨false, p.digits.take p.point.toNat,
        some (p.digits.drop p.point.toNat), 0⟩, ?_,
        toDouble_spelt_fraction ?_ ?_⟩
      · refine .fraction ?_ ?_ ?_
        · rw [ne_eq, List.drop_eq_nil_iff]
          exact long
        · exact fun c member => digits c (List.mem_of_mem_take member)
        · exact fun c member => digits c (List.mem_of_mem_drop member)
      · rw [List.take_append_drop]
      · rw [List.length_drop]
        omega

end

end PointedDigits

namespace Decimal

theorem exists_digits_eq_append_zeros (d : Decimal) :
    ∃ count, digits d.significand = d.pointed.digits ++
      List.replicate count '0' := by
  have zeros := List.eq_replicate_of_mem fun c (member : c ∈
    (digits d.significand).reverse.takeWhile (· = '0')) => by
      simpa using List.mem_takeWhile_imp member
  have whole := congrArg List.reverse
    (List.takeWhile_append_dropWhile (p := (· = '0'))
      (l := (digits d.significand).reverse))
  rw [List.reverse_append, List.reverse_reverse, zeros, List.reverse_replicate]
    at whole
  exact ⟨_, whole.symm⟩

/-- Dropping the zeros at the end of a decimal leaves its double alone. -/
theorem toDouble_pointed (negative : Bool) (d : Decimal) :
    d.pointed.toDecimal.toDouble negative = d.toDouble negative := by
  obtain ⟨count, split⟩ := d.exists_digits_eq_append_zeros
  have significand :
      d.significand = ofDigits d.pointed.digits * 10 ^ count := by
    rw [← ofDigits_append_zeros, ← split, ofDigits_digits]
  have point :
      d.pointed.point - d.pointed.digits.length = d.exponent + count := by
    have length := congrArg List.length split
    rw [List.length_append, List.length_replicate] at length
    have point : d.pointed.point = (digits d.significand).length + d.exponent :=
      rfl
    omega
  rw [PointedDigits.toDecimal, point, ← toDouble_mul_pow, ← significand]

theorem pointed_digits_ne_nil {d : Decimal} (nonzero : d.significand ≠ 0) :
    d.pointed.digits ≠ [] := by
  intro none
  obtain ⟨count, split⟩ := d.exists_digits_eq_append_zeros
  apply nonzero
  rw [← ofDigits_digits d.significand, split, none, ofDigits_append_zeros]
  exact Nat.zero_mul _

theorem isDigit_of_mem_pointed {d : Decimal} {c : Char}
    (member : c ∈ d.pointed.digits) : c.isDigit = true := by
  obtain ⟨count, split⟩ := d.exists_digits_eq_append_zeros
  have among : c ∈ digits d.significand := by
    rw [split]
    exact List.mem_append_left _ member
  exact Nat.isDigit_of_mem_toDigits (by decide) (by decide) among

end Decimal

namespace Double

theorem significand_shortest_ne_zero {tie : TieRule} {units : Nat}
    (nonzero : units ≠ 0) (representable : Representable units) :
    (shortest tie units).significand ≠ 0 := by
  intro none
  have reads : (shortest tie units).toDouble false = _ :=
    toDouble_shortest nonzero representable
  rw [Decimal.toDouble, if_pos (.inl none)] at reads
  cases reads
  exact nonzero rfl

/-- The text of a double spells the double, but for its sign. -/
theorem exists_spells_positionalText {units : Nat}
    (representable : Representable units) :
    ∃ n, Numeral.Spells (positionalText units) n ∧
      n.toDouble = .finite false units representable := by
  by_cases zero : units = 0
  · subst zero
    refine ⟨⟨false, ['0'], none, 0⟩, ?_, rfl⟩
    exact .whole (List.cons_ne_nil _ _) (List.forall_mem_singleton.mpr rfl)
  · rw [positionalText, if_neg zero, ← toDouble_shortest zero representable,
      ← Decimal.toDouble_pointed]
    exact PointedDigits.exists_spells_positional
      (Decimal.pointed_digits_ne_nil
        (significand_shortest_ne_zero zero representable))
      fun c member => Decimal.isDigit_of_mem_pointed member

variable {negative sign : Bool} {units other : Nat}

theorem cellText_eq_positionalText (representable : Representable units) :
    (finite negative units representable).cellText =
      String.ofList (minus (negative && units != 0) ++ positionalText units) :=
  rfl

theorem cellText_eq_of_equals {representable : Representable units}
    {otherRepresentable : Representable other}
    (same : (finite negative units representable).equals
      (finite sign other otherRepresentable) = true) :
    (finite negative units representable).cellText =
      (finite sign other otherRepresentable).cellText := by
  obtain ⟨rfl, signs⟩ := equals_finite_iff.mp same
  rw [cellText_eq_positionalText, cellText_eq_positionalText]
  rcases signs with rfl | rfl
  · rfl
  · simp

end Double

end RowAudit
