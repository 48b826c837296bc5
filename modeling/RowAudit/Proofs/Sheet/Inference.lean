import RowAudit.Proofs.Double.Extremes
import RowAudit.Proofs.Double.Numeral
import RowAudit.Proofs.Sheet.Records
import RowAudit.Proofs.Sheet.Retold

/-!
What raw text is read as. Three tests stand in the way of a number: the text has
to be read as a numeral, to have its digits where numbers in sheets have them,
and to be no more than a double holds. Together they let plain decimals through
and nothing else, and whatever they stop is kept as it was written.
-/

namespace RowAudit

namespace Numeral

/-- Digits in front of a point: a zero alone, or digits of which the first is no
zero. -/
inductive WholePart : List Char → Prop
  | zero : WholePart ['0']
  | leading {first : Char} {rest : List Char} (nonzero : first ≠ '0')
      (isDigit : ∀ c ∈ first :: rest, c.isDigit = true) :
      WholePart (first :: rest)

structure FractionPart (fraction : List Char) : Prop where
  nonempty : fraction ≠ []
  isDigit : ∀ c ∈ fraction, c.isDigit = true

/-- The digits of a plain decimal: in front of a point or without one, behind a
point, or both. -/
inductive Mantissa : List Char → Option (List Char) → Prop
  | whole {whole : List Char} : WholePart whole → Mantissa whole none
  | both {whole fraction : List Char} : WholePart whole →
      FractionPart fraction → Mantissa whole (some fraction)
  | fraction {fraction : List Char} : FractionPart fraction →
      Mantissa [] (some fraction)

/-- A text that is a plain decimal: a sign or none, digits, and an exponent or
none. -/
inductive PlainDecimal : List Char → Numeral → Prop
  | mk {sign power : List Char} {n : Numeral} (signs : Sign sign n.negative)
      (mantissa : Mantissa n.whole n.fraction)
      (scales : Power power n.exponent) :
      PlainDecimal (sign ++ (pointed n.whole n.fraction ++ power)) n

def nearest (n : Numeral) : Double :=
  Double.round n.negative n.toDecimal.unitRatio.1 n.toDecimal.unitRatio.2

theorem toDouble_eq_nearest (n : Numeral) : n.toDouble = n.nearest :=
  n.toDecimal.toDouble_eq_round n.negative

variable {whole : List Char} {fraction : Option (List Char)}

theorem WholePart.isDigit (part : WholePart whole) :
    ∀ c ∈ whole, c.isDigit = true := by
  cases part with
  | zero => exact List.forall_mem_singleton.mpr rfl
  | leading nonzero isDigit => exact isDigit

theorem wholePart_iff (isDigit : ∀ c ∈ whole, c.isDigit = true) :
    WholePart whole ↔
      whole ≠ [] ∧ (whole.head? ≠ some '0' ∨ whole = ['0']) := by
  constructor
  · intro part
    cases part with
    | zero => exact ⟨List.cons_ne_nil _ _, .inr rfl⟩
    | leading nonzero =>
        exact ⟨List.cons_ne_nil _ _,
          .inl fun zero => nonzero (Option.some.inj zero)⟩
  · rintro ⟨nonempty, front | rfl⟩
    · obtain ⟨first, rest, rfl⟩ := List.exists_cons_of_ne_nil nonempty
      exact .leading (fun zero => front (congrArg some zero)) isDigit
    · exact .zero

theorem Mantissa.wholeDigits (mantissa : Mantissa whole fraction) :
    ∀ c ∈ whole, c.isDigit = true := by
  cases mantissa with
  | whole part => exact part.isDigit
  | both part => exact part.isDigit
  | fraction => exact List.forall_mem_nil _

theorem Mantissa.fractionDigits (mantissa : Mantissa whole fraction) :
    ∀ digits ∈ fraction, ∀ c ∈ digits, c.isDigit = true := by
  rintro digits ⟨⟩
  cases mantissa with
  | both _ part => exact part.isDigit
  | fraction part => exact part.isDigit

theorem mantissa_none_iff : Mantissa whole none ↔ WholePart whole := by
  refine ⟨fun mantissa => ?_, .whole⟩
  cases mantissa with
  | whole part => exact part

theorem mantissa_some_iff {digits : List Char} :
    Mantissa whole (some digits) ↔
      (whole = [] ∨ WholePart whole) ∧ FractionPart digits := by
  constructor
  · intro mantissa
    cases mantissa with
    | both part behind => exact ⟨.inr part, behind⟩
    | fraction behind => exact ⟨.inl rfl, behind⟩
  · rintro ⟨rfl | part, behind⟩
    · exact .fraction behind
    · exact .both part behind

theorem isPlain_iff {n : Numeral}
    (wholeDigits : ∀ c ∈ n.whole, c.isDigit = true)
    (fractionDigits : ∀ fraction ∈ n.fraction, ∀ c ∈ fraction,
      c.isDigit = true) : n.isPlain = true ↔ Mantissa n.whole n.fraction := by
  obtain ⟨negative, whole, fraction, exponent⟩ := n
  have part : WholePart whole ↔ _ := wholePart_iff wholeDigits
  cases fraction with
  | none =>
      rw [mantissa_none_iff, part]
      simp [isPlain, digits]
  | some fraction =>
      have behind : FractionPart fraction ↔ fraction ≠ [] :=
        ⟨FractionPart.nonempty,
          fun nonempty => ⟨nonempty, fractionDigits fraction rfl⟩⟩
      rw [mantissa_some_iff, part, behind]
      by_cases empty : whole = []
      · simp [isPlain, digits, empty]
      · simp [isPlain, digits, empty, and_comm]

theorem plainDecimal_iff {cs : List Char} {n : Numeral} :
    PlainDecimal cs n ↔ read? cs = some n ∧ n.isPlain = true := by
  rw [read?_eq_some_iff]
  constructor
  · rintro ⟨signs, mantissa, scales⟩
    exact ⟨.mk signs mantissa.wholeDigits mantissa.fractionDigits scales,
      (isPlain_iff mantissa.wholeDigits mantissa.fractionDigits).mpr mantissa⟩
  · rintro ⟨⟨signs, wholeDigits, fractionDigits, scales⟩, plain⟩
    exact .mk signs ((isPlain_iff wholeDigits fractionDigits).mp plain) scales

/-- A sign and an exponent are read as a numeral, but without any digit between
them they are no plain decimal. -/
theorem not_plainDecimal_bare {sign power : List Char} {negative : Bool}
    {scale : Int} (signs : Sign sign negative) (scales : Power power scale)
    (n : Numeral) : ¬ PlainDecimal (sign ++ power) n := by
  intro decimal
  obtain ⟨read, plain⟩ := plainDecimal_iff.mp decimal
  have bare := Written.of_whole signs (List.forall_mem_nil _) scales
  rw [List.nil_append] at bare
  obtain rfl := Option.some.inj (bare.read?_eq.symm.trans read)
  cases plain

end Numeral

namespace Cell

open Numeral (PlainDecimal Sign Power)

variable {inferNumbers : Bool} {raw : String} {x : Double}

theorem plainNumber?_eq_some_iff :
    plainNumber? raw = some x ↔
      ∃ n, PlainDecimal (Text.trim raw.toList) n ∧ n.nearest = x ∧
        x.isFinite = true := by
  simp only [Numeral.plainDecimal_iff, ← Numeral.toDouble_eq_nearest]
  rw [plainNumber?]
  cases Numeral.read? (Text.trim raw.toList) with
  | none => simp
  | some n =>
      simp only [Option.ite_none_right_eq_some, Option.some.injEq,
        Bool.and_eq_true, and_assoc, exists_eq_left']
      refine and_congr_right fun _ => ?_
      constructor
      · rintro ⟨finite, rfl⟩
        exact ⟨rfl, finite⟩
      · rintro ⟨rfl, finite⟩
        exact ⟨finite, rfl⟩

theorem infer_of_allBlank (blank : Text.allBlank raw = true) :
    infer inferNumbers raw = .blank := by
  rw [infer, if_pos blank]

theorem infer_of_not_allBlank (notBlank : ¬ Text.allBlank raw = true) :
    infer inferNumbers raw =
      if inferNumbers then ((plainNumber? raw).map number).getD (.text raw)
      else .text raw := by
  rw [infer, if_neg notBlank]
  cases plainNumber? raw <;> rfl

theorem infer_eq_number_iff :
    infer inferNumbers raw = .number x ↔
      inferNumbers = true ∧ plainNumber? raw = some x := by
  by_cases blank : Text.allBlank raw = true
  · simp [infer_of_allBlank blank, plainNumber?_of_allBlank blank]
  · rw [infer_of_not_allBlank blank]
    cases inferNumbers <;> cases plainNumber? raw <;> simp

theorem infer_eq_text (notBlank : infer inferNumbers raw ≠ .blank)
    (unnumbered : ∀ x, infer inferNumbers raw ≠ .number x) :
    infer inferNumbers raw = .text raw := by
  rw [ne_eq, infer_eq_blank_iff] at notBlank
  simp only [infer_of_not_allBlank notBlank] at unnumbered ⊢
  cases inferNumbers <;> cases read : plainNumber? raw <;>
    simp [read] at unnumbered ⊢

theorem infer_eq_or_number (raw : String) :
    infer true raw = infer false raw ∨
      ∃ x, plainNumber? raw = some x ∧ infer true raw = .number x ∧
        infer false raw = .text raw := by
  by_cases blank : Text.allBlank raw = true
  · exact .inl (by rw [infer_of_allBlank blank, infer_of_allBlank blank])
  · simp only [infer_of_not_allBlank blank]
    cases plainNumber? raw with
    | none => exact .inl rfl
    | some x => exact .inr ⟨x, rfl, rfl, rfl⟩

/-- What raw text is read as: a blank cell, a number, or the text itself. -/
structure Inferred (inferNumbers : Bool) (raw : String) (cell : Cell) :
    Prop where
  blank_iff : cell = .blank ↔ ∀ c ∈ raw.toList, Text.isBlank c = true
  number_iff : ∀ x, cell = .number x ↔ inferNumbers = true ∧
    ∃ n, PlainDecimal (Text.trim raw.toList) n ∧ n.nearest = x ∧
      x.isFinite = true
  text : cell ≠ .blank → (∀ x, cell ≠ .number x) → cell = .text raw
  bare : ∀ sign negative power scale, Sign sign negative → Power power scale →
    sign ++ power ≠ [] →
    Text.trim raw.toList = sign ++ power → cell = .text raw

/--
Blank text is read as a blank cell. Where numbers are looked for, text that is a
plain decimal around which there may be white space is read as the nearest
double, if that is finite. All other text is kept as it is, a sign and an
exponent without a digit between them included.
-/
theorem inferred_infer (inferNumbers : Bool) (raw : String) :
    Inferred inferNumbers raw (infer inferNumbers raw) where
  blank_iff := infer_eq_blank_iff.trans List.all_eq_true
  number_iff x := by rw [infer_eq_number_iff, plainNumber?_eq_some_iff]
  text := infer_eq_text
  bare := by
    intro sign negative power scale signs scales nonempty written
    apply infer_eq_text
    · intro blank
      have nothing : Text.trimmed raw = Text.trimmed "" :=
        Text.trimmed_of_allBlank (infer_eq_blank_iff.mp blank)
      exact nonempty (written.symm.trans (Text.trim_eq_of_trimmed_eq nothing))
    · intro x read
      obtain ⟨-, n, decimal, -⟩ :=
        infer_eq_number_iff.mp read |>.imp_right plainNumber?_eq_some_iff.mp
      rw [written] at decimal
      exact Numeral.not_plainDecimal_bare signs scales n decimal

example : ["-.5e1", " 0.0 ", "007", "5.", "e5", "1e400"].map (infer true) =
    [.number (.ofInt (-5)), .number (.ofInt 0), .text "007", .text "5.",
      .text "e5", .text "1e400"] := by
  decide +kernel

end Cell

end RowAudit
