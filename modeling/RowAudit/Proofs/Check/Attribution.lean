import RowAudit.Proofs.Check.Blame
import RowAudit.Proofs.Condition.Printed
import RowAudit.Proofs.Condition.Standing

/-!
Which conditions on a declared column are evaluated. A column is a name, a
header is looked for as a whole word, and the two part over the dollar, which
belongs to names but to no word: a condition on a column whose name begins or
ends with one may be passed over.
-/

namespace RowAudit

namespace Condition

def DollarEdged (name : String) : Prop :=
  name.toList.head? = some '$' ∨ name.toList.getLast? = some '$'

namespace IsName

variable {name : String}

theorem toList_ne_nil (isName : IsName name) : name.toList ≠ [] := by
  intro empty
  have start := isName.start
  rw [empty] at start
  cases start

theorem isWordChar_of_mem (isName : IsName name) {c : Char}
    (member : c ∈ name.toList) (plain : c ≠ '$') :
    Text.isWordChar c = true := by
  rw [isWordChar_of_isNameChar (isName.chars c member)]
  exact decide_eq_true plain

theorem isWordChar_head (isName : IsName name) (plain : ¬ DollarEdged name) :
    name.toList.head?.any Text.isWordChar = true := by
  obtain ⟨c, head⟩ :=
    Option.ne_none_iff_exists'.mp
      (mt List.head?_eq_none_iff.mp isName.toList_ne_nil)
  rw [head, Option.any_some]
  apply isName.isWordChar_of_mem (List.mem_of_mem_head? head)
  intro dollar
  exact plain (.inl (head.trans (congrArg some dollar)))

theorem isWordChar_getLast (isName : IsName name) (plain : ¬ DollarEdged name) :
    name.toList.getLast?.any Text.isWordChar = true := by
  obtain ⟨c, last⟩ :=
    Option.ne_none_iff_exists'.mp
      (mt List.getLast?_eq_none_iff.mp isName.toList_ne_nil)
  rw [last, Option.any_some]
  apply isName.isWordChar_of_mem (List.mem_of_getLast? last)
  intro dollar
  exact plain (.inr (last.trans (congrArg some dollar)))

theorem settled_of_isNameChar {cs : List Char}
    (chars : ∀ c ∈ cs, Lexer.isNameChar c = true)
    (lower : ∀ c ∈ cs, c.isUpper = false) : Settled .outside cs := by
  induction cs with
  | nil => trivial
  | cons c rest ih =>
      obtain ⟨nameChar, laterChars⟩ := List.forall_mem_cons.mp chars
      obtain ⟨notUpper, laterLower⟩ := List.forall_mem_cons.mp lower
      constructor
      · rw [Place.form, notBlank_of_isNameChar nameChar,
          if_neg Bool.false_ne_true]
        exact Text.lowerChar_of_ascii (ascii_of_isNameChar nameChar) notUpper
      · have plain : Lexer.isPlain c = true := by
          rw [Lexer.isPlain, nameChar, Bool.true_or]
        rw [Place.after, (Lexer.of_isPlain plain).1, if_neg Bool.false_ne_true]
        exact ih laterChars laterLower

theorem normalize_eq (isName : IsName name) : normalize name = name :=
  normalize_of_settled (settled_of_isNameChar isName.chars isName.lower)

theorem parse?_eq (isName : IsName name) :
    Expr.parse? name = some (.column name) := by
  have printable : (Expr.column name).Printable :=
    ⟨fun _ member => (nomatch member), List.forall_mem_singleton.mpr isName⟩
  have parsed := Expr.parse?_text_eq printable
  rwa [Expr.text, Expr.chars, String.ofList_toList] at parsed

end IsName

theorem any_isWordChar_of_separators {edge : Option Char}
    (separated : ∀ c ∈ edge, c ∈ separators) :
    edge.any Text.isWordChar = false := by
  cases edge with
  | none => rfl
  | some c => exact (of_mem_separators (separated c rfl)).1

theorem wholeWord_of_standsAlone {name : String} {text : List Char}
    (isName : IsName name) (plain : ¬ DollarEdged name)
    (alone : StandsAlone name.toList text) :
    Text.WholeWord name.toList text := by
  obtain ⟨before, after, whole, separated, follows⟩ := alone
  refine ⟨before, after, whole, ?_, ?_⟩
  · rw [Text.isBoundary, any_isWordChar_of_separators separated,
      List.head?_append_of_ne_nil _ isName.toList_ne_nil,
      isName.isWordChar_head plain]
    rfl
  · rw [Text.isBoundary, any_isWordChar_of_separators follows,
      List.getLast?_append_of_ne_nil _ isName.toList_ne_nil,
      isName.isWordChar_getLast plain]
    rfl

/-- A name with a dollar at an end is no whole word of a text that it makes up
alone. -/
theorem not_wholeWord_self {name : String} (edged : DollarEdged name) :
    ¬ Text.WholeWord name.toList name.toList := by
  intro found
  obtain ⟨before, after, whole, first, last⟩ := found
  have lengths := congrArg List.length whole
  simp only [List.length_append] at lengths
  obtain rfl := List.eq_nil_of_length_eq_zero (l := before) (by omega)
  obtain rfl := List.eq_nil_of_length_eq_zero (l := after) (by omega)
  rw [List.append_nil] at first
  rw [List.nil_append] at last
  have dollar : Text.isWordChar '$' = false := by decide +kernel
  rcases edged with head | tail
  · simp [Text.isBoundary, head, dollar] at first
  · simp [Text.isBoundary, tail, dollar] at last

end Condition

namespace PreparedCondition

/-- A condition whose expression decides: it takes part, as a check it fails on
every row that it is not true on, and as a guard it is not taken as met. -/
structure Evaluated (condition : PreparedCondition) (e : Condition.Expr) :
    Prop where
  takesPart : condition.takesPart = true
  asCheck : ∀ row, condition.fails row = true ↔ e.isSatisfied row ≠ .ok true
  asGuard : ∀ rule : PreparedRule, rule.guard = condition → ∀ row,
    rule.violated? row =
      match e.isSatisfied row with
      | .ok true => rule.checks.find? (·.fails row)
      | .ok false => none
      | .error _ => some condition

theorem evaluated_iff {condition : PreparedCondition} {e : Condition.Expr}
    (parsed : condition.expr = some e) :
    condition.Evaluated e ↔ condition.takesPart = true := by
  constructor
  · exact Evaluated.takesPart
  · intro takesPart
    have verdict (row : Row) : condition.verdict row = e.isSatisfied row := by
      rw [PreparedCondition.verdict, parsed]
      rfl
    refine ⟨takesPart, ?_, ?_⟩
    · intro row
      rw [fails, takesPart, verdict, Bool.true_and]
      split
      · next true => simp [true]
      · next other => simpa using other
    · intro rule guard row
      subst guard
      have judged := verdict row
      cases decided : e.isSatisfied row with
      | error fault => simp [PreparedRule.violated?, takesPart, judged, decided]
      | ok met =>
          cases met <;> simp [PreparedRule.violated?, takesPart,
            judged, decided]

/-- Conditions on a declared column are always evaluated, unless the column's
name has a dollar at an end. -/
theorem evaluated_of_declared_iff (header : String) :
    (∀ headers text e, header ∈ headers →
      Condition.Expr.parse? (Condition.normalize text) = some e →
      Column.normalize header ∈ e.columns →
      (prepare (Header.declared headers) text).Evaluated e) ↔
    ¬ (Condition.IsName (Column.normalize header) ∧
      Condition.DollarEdged (Column.normalize header)) := by
  constructor
  · intro evaluated edged
    obtain ⟨isName, edged⟩ := edged
    have parsed := isName.parse?_eq
    rw [← congrArg Condition.Expr.parse? isName.normalize_eq] at parsed
    have takesPart :=
      (evaluated [header] _ _ List.mem_cons_self parsed
        List.mem_cons_self).takesPart
    obtain ⟨other, declared, -, found⟩ := takesPart_prepare_iff.mp takesPart
    obtain rfl := List.mem_singleton.mp declared
    rw [isName.normalize_eq] at found
    exact Condition.not_wholeWord_self edged found
  · intro plain headers text e member parsed column
    obtain ⟨isName, alone⟩ := Condition.standsAlone_of_mem_columns parsed column
    rw [evaluated_iff parsed, takesPart_prepare_iff]
    refine ⟨header, member, ?_, ?_⟩
    · intro empty
      apply isName.toList_ne_nil
      rw [empty]
      rfl
    · exact Condition.wholeWord_of_standsAlone isName
        (fun edged => plain ⟨isName, edged⟩) alone

example :
    (prepare (Header.declared ["$amount"]) "$amount > 5").takesPart =
      false := by
  decide +kernel

end PreparedCondition

end RowAudit
