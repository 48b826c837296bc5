import RowAudit.Proofs.Column
import RowAudit.Proofs.Condition.Dependence
import RowAudit.Proofs.Condition.Quoted
import RowAudit.Proofs.Text.FinalSigma

/-!
A column that holds a text, and the condition that it equals that text. The cell
is lower-cased as a whole and the condition character by character, so the
condition holds but for a capital sigma that ends a word.
-/

namespace RowAudit.Condition

open Lexer

def equality (heading text : String) : String :=
  heading ++ " == '" ++ String.ofList (escape '\'' text.toList) ++ "'"

def equalityExpr (heading text : String) : Expr :=
  .binary .equal (.column (Column.normalize heading))
    (.literal (.text (String.ofList (Text.lowerEach text.toList))))

variable {heading text : String}

theorem normalizeFrom_outside_append {cs : List Char}
    (unquoted : ∀ c ∈ cs, isQuote c = false) (rest : List Char) :
    normalizeFrom .outside (cs ++ rest) =
      Text.lowerEach (cs.filter fun c => !Text.isBlank c) ++
        normalizeFrom .outside rest := by
  induction cs with
  | nil => rfl
  | cons c cs ih =>
      obtain ⟨notQuote, later⟩ := List.forall_mem_cons.mp unquoted
      rw [List.cons_append, normalizeFrom_cons, Place.after, notQuote,
        if_neg Bool.false_ne_true, ih later]
      cases blank : Text.isBlank c with
      | true =>
          rw [Place.form, if_pos blank,
            List.filter_cons_of_neg (by simp [blank])]
          rfl
      | false =>
          rw [Place.form, blank, if_neg Bool.false_ne_true,
            List.filter_cons_of_pos (by simp [blank]), Text.lowerEach_cons,
            List.append_assoc]

/-- Quotes are no part of a name, however it is spelt. -/
theorem IsName.unquoted (isName : IsName (Column.normalize heading)) :
    ∀ c ∈ heading.toList, isQuote c = false := by
  intro c member
  rw [← Bool.not_eq_true]
  intro quote
  have kept : c ∈ (Column.normalize heading).toList := by
    rw [Column.normalize, String.toList_ofList]
    refine List.mem_flatMap.mpr ⟨c, List.mem_filter.mpr ⟨member, ?_⟩, ?_⟩
    · rw [isBlank_quote quote]
      rfl
    · rw [lowerChar_quote quote]
      exact List.mem_cons_self
  have nameChar := isName.chars c kept
  rcases isQuote_eq_true_iff.mp quote with rfl | rfl
  · cases nameChar
  · cases nameChar

theorem toList_normalize_equality (isName : IsName (Column.normalize heading)) :
    (normalize (equality heading text)).toList =
      (Column.normalize heading).toList ++
        '=' :: '=' :: '\'' ::
          (escape '\'' (Text.lowerEach text.toList) ++ ['\'']) := by
  have written : (equality heading text).toList =
      heading.toList ++ " == '".toList ++
      (escape '\'' text.toList ++ ['\'']) := by
    simp [equality]
  have name : (Column.normalize heading).toList =
      Text.lowerEach (heading.toList.filter fun c => !Text.isBlank c) :=
        String.toList_ofList
  have literal :
      normalizeFrom (.inside '\'') (escape '\'' text.toList ++ ['\'']) =
      escape '\'' (Text.lowerEach text.toList) ++
      normalizeFrom (.inside '\'') ['\''] :=
    normalizeFrom_escape rfl text.toList ['\'']
  have operator :
      normalizeFrom .outside
        (" == '".toList ++ (escape '\'' text.toList ++ ['\''])) =
      '=' :: '=' :: '\'' ::
          normalizeFrom (.inside '\'') (escape '\'' text.toList ++ ['\'']) :=
        rfl
  rw [normalize, String.toList_ofList, written, List.append_assoc,
    normalizeFrom_outside_append isName.unquoted, operator, literal, name]
  rfl

theorem tokens?_equality {name : String} (isName : IsName name)
    (cs : List Char) :
    tokens? .operand
      (name.toList ++ '=' :: '=' :: '\'' :: (escape '\'' cs ++ ['\''])) =
      some [.operand (.column name), .binary .equal,
        .operand (.literal (.ofText (String.ofList cs)))] := by
  have literal : tokens? .operand ('\'' :: (escape '\'' cs ++ ['\''])) =
      some [.operand (.literal (.ofText (String.ofList cs)))] := by
    rw [escape_eq_written, tokens?_marks rfl, meaning_marksOf rfl]
  have notEqual :
      ∀ c ∈ ('\'' :: (escape '\'' cs ++ ['\''])).head?, c ≠ '=' := by
    intro c first
    obtain rfl := Option.some.inj first
    decide
  have compared := tokens?_name_equality isName (.inl rfl) notEqual
  rw [literal] at compared
  exact compared

theorem parse?_equality (isName : IsName (Column.normalize heading)) :
    Expr.parse? (normalize (equality heading text)) =
      some (equalityExpr heading text) := by
  rw [Expr.parse?, toList_normalize_equality isName, tokens?_equality isName,
    Value.ofText, Text.lower_ofList_lowerEach]
  rfl

theorem evaluate_column_insert (row : Row) (cell : Cell) :
    (Expr.column (Column.normalize heading)).evaluate
      (row.insert heading cell) =
      .ok (Value.ofCell cell) := by
  apply Expr.evaluate_column_of_get?
  rw [ColumnMap.get?_insert, if_pos rfl]

theorem evaluate_equal (row : Row) (left right : Expr) :
    (Expr.binary .equal left right).evaluate row =
      (left.evaluate row).bind fun leftValue =>
        (right.evaluate row).bind fun rightValue =>
          BinaryOperator.equal.combine leftValue rightValue :=
  rfl

theorem choices?_text_eq_none {s : String} (pipeless : '|' ∉ s.toList) :
    Value.choices? (.text s) = none := by
  rw [Value.choices?, if_neg pipeless]

theorem isSatisfied_equalityExpr (pipeless : '|' ∉ text.toList) (row : Row) :
    (equalityExpr heading text).isSatisfied (row.insert heading (.text text)) =
      .ok
        (decide (Text.lower text =
          String.ofList (Text.lowerEach text.toList))) := by
  have single : Value.choices?
      (.text (String.ofList (Text.lowerEach text.toList))) = none := by
    apply choices?_text_eq_none
    rw [String.toList_ofList]
    exact Text.pipe_not_mem_lowerEach pipeless
  have column : (Expr.column (Column.normalize heading)).evaluate
      (row.insert heading (.text text)) =
      .ok (.ofText text) := evaluate_column_insert row (.text text)
  rw [Expr.isSatisfied, equalityExpr, evaluate_equal, column, Expr.evaluate]
  simp only [bind, Except.bind, BinaryOperator.combine, single]
  rfl

/-- A name in normal form has no capitals, so what it consists of decides
whether conditions can use it. -/
theorem isName_normalize
    (start : (Column.normalize heading).toList.head?.any isNameStart = true)
    (chars : ∀ c ∈ (Column.normalize heading).toList, isNameChar c = true)
    (notLiteral : Column.normalize heading ∉
      ["true", "false", "null", "undefined"]) :
    IsName (Column.normalize heading) := by
  refine ⟨start, chars, ?_, notLiteral⟩
  intro c member
  have settled := (Column.settled_of_mem_normalize member).1
  have ascii := ascii_of_isNameChar (chars c member)
  exact Text.forall_ascii
    (p := fun c => Text.lowerChar c = [c] → c.isUpper = false)
    (by decide +kernel) c ascii settled

/--
A condition that a column equals a text, written out with its backslashes and
quotes escaped, is well formed and holds of every row where the column has that
text, however the heading is spelt; but a capital sigma at the end of a word of
the cell has another form in lower case than the one in the condition, and the
condition fails.
-/
theorem isSatisfied_equality (heading text : String)
    (start : (Column.normalize heading).toList.head?.any isNameStart = true)
    (chars : ∀ c ∈ (Column.normalize heading).toList, isNameChar c = true)
    (notLiteral : Column.normalize heading ∉
      ["true", "false", "null", "undefined"]) (pipeless : '|' ∉ text.toList)
    (row : Row) :
    ∃ e, Expr.parse? (normalize (equality heading text)) = some e ∧
      (¬ Text.HasFinalSigma text.toList →
        e.isSatisfied (row.insert heading (.text text)) = .ok true) ∧
      (Text.HasFinalSigma text.toList →
        e.isSatisfied (row.insert heading (.text text)) = .ok false) := by
  have isName := isName_normalize start chars notLiteral
  refine ⟨equalityExpr heading text, parse?_equality isName, ?_, ?_⟩
  · intro noFinalSigma
    rw [isSatisfied_equalityExpr pipeless, decide_eq_true]
    exact (Text.lower_eq_ofList_lowerEach_iff text).mpr noFinalSigma
  · intro finalSigma
    rw [isSatisfied_equalityExpr pipeless, decide_eq_false]
    exact fun same =>
      (Text.lower_eq_ofList_lowerEach_iff text).mp same finalSigma

theorem exists_isSatisfied_equality_loss_place :
    (∃ e, Expr.parse?
      (normalize (equality "Loss  Place" "O'Hare \\ \u0130STANBUL")) = some e ∧
      e.isSatisfied (ColumnMap.empty.insert "Loss  Place"
        (.text "O'Hare \\ \u0130STANBUL")) =
        .ok true) ∧
    ∃ e, Expr.parse? (normalize (equality "Loss  Place" "ΟΔΟΣ")) = some e ∧
      e.isSatisfied (ColumnMap.empty.insert "Loss  Place" (.text "ΟΔΟΣ")) =
        .ok false := by
  constructor
  · obtain ⟨e, parsed, holds, -⟩ :=
      isSatisfied_equality "Loss  Place" "O'Hare \\ \u0130STANBUL"
      (by decide +kernel) (List.all_eq_true.mp (by decide +kernel))
      (by decide +kernel) (by decide)
      ColumnMap.empty
    refine ⟨e, parsed, holds ?_⟩
    exact (Text.lower_eq_ofList_lowerEach_iff _).mp (by decide +kernel)
  · obtain ⟨e, parsed, -, fails⟩ := isSatisfied_equality "Loss  Place" "ΟΔΟΣ"
      (by decide +kernel) (List.all_eq_true.mp (by decide +kernel))
      (by decide +kernel) (by decide)
      ColumnMap.empty
    exact ⟨e, parsed,
      fails ⟨['Ο', 'Δ', 'Ο'], [], by decide, by decide +kernel, rfl⟩⟩

end RowAudit.Condition
