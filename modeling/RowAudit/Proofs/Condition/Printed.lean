import RowAudit.Proofs.Condition.Leaves
import RowAudit.Proofs.Condition.Tokens

/-!
Reading back what an expression is written as. The text of an expression is cut
into the tokens of the expression, whatever follows it, and those are put
together to the expression again; zero alone loses its sign.
-/

namespace RowAudit.Condition

namespace Value

/-- A literal that conditions can be written with: no date, no number that is
infinite or below zero, and no text that is not in lower case or has a backslash
in it. -/
def Printable : Value → Prop
  | .null | .bool _ => True
  | .number value =>
      value.isFinite = true ∧ value.compare? (.zero false) ≠ some .lt
  | .text value => Text.lower value = value ∧ '\\' ∉ value.toList
  | .date _ => False

def unsigned : Value → Value
  | .number (.finite _ units representable) =>
      .number (.finite false units representable)
  | value => value

end Value

namespace Expr

structure Printable (e : Expr) : Prop where
  literals : ∀ value ∈ e.literals, value.Printable
  columns : ∀ name ∈ e.columns, IsName name

def unsigned : Expr → Expr
  | literal value => literal value.unsigned
  | column name => column name
  | unary op operand => unary op operand.unsigned
  | binary op left right => binary op left.unsigned right.unsigned

/-- Equality of expressions whose literals are strictly equal; it does not tell
the two zeros apart. -/
def equals : Expr → Expr → Bool
  | literal value, literal other => value.strictlyEquals other
  | column name, column other => name = other
  | unary op operand, unary op' operand' => op = op' && operand.equals operand'
  | binary op left right, binary op' left' right' =>
      op = op' && left.equals left' && right.equals right'
  | _, _ => false

def tokens : Expr → List Token
  | literal value => [.operand (literal value)]
  | column name => [.operand (column name)]
  | unary op operand => .unary op :: operand.tokens
  | binary op left right =>
      .opening :: left.tokens ++ .binary op :: right.tokens ++ [.closing]

end Expr

namespace Assembly

theorem run_tokens (frames : List Frame) (e : Expr) (rest : List Token) :
    run frames none (e.tokens ++ rest) =
      run (applyUnary frames e).1 (some (applyUnary frames e).2) rest := by
  induction e generalizing frames rest with
  | literal value => rfl
  | column name => rfl
  | unary op operand ih => exact ih (.unary op :: frames) rest
  | binary op left right ihLeft ihRight =>
      have opened :=
        ihLeft (.group :: frames)
          (.binary op :: (right.tokens ++ .closing :: rest))
      have joined :=
        ihRight (.left left op :: .group :: frames) (.closing :: rest)
      calc
        run frames none ((Expr.binary op left right).tokens ++ rest) =
            run (.group :: frames) none
              (left.tokens ++ .binary op ::
                (right.tokens ++ .closing :: rest)) := by
          simp [Expr.tokens, run]
        _ = run (.left left op :: .group :: frames) none
          (right.tokens ++ .closing :: rest) := by
          rw [opened]
          simp [applyUnary, run, complete]
        _ = _ := by
          rw [joined]
          simp [applyUnary, run, complete]

end Assembly

namespace Value

open Lexer

/-- A number that conditions can be written with is a magnitude, but for the
sign of zero. -/
theorem Printable.exists_units {value : Double}
    (printable : (Value.number value).Printable) :
    ∃ negative units representable,
      value = .finite negative units representable ∧
      (negative = true → units = 0) := by
  obtain ⟨finite, notBelow⟩ := printable
  cases value with
  | nan => cases finite
  | infinite negative => cases finite
  | finite negative units representable =>
      refine ⟨negative, units, representable, rfl, ?_⟩
      intro below
      subst below
      by_contra some
      apply notBelow
      have less : (-(units : Int)) < 0 := by omega
      exact congrArg Option.some (compare_lt_iff_lt.mpr less)

theorem literalText_number {negative : Bool} {units : Nat}
    {representable : Double.Representable units}
    (unsigned : negative = true → units = 0) :
    literalText (.number (.finite negative units representable)) =
      Double.positionalText units := by
  have noMinus : (negative && units != 0) = false := by
    cases negative with
    | false => rfl
    | true => simp [unsigned rfl]
  simp [literalText, shown, toText, Double.cellText, noMinus, Double.minus]

theorem backsOff_literalText {value : Value} (printable : value.Printable)
    {rest : List Char} (ends : Ends rest) :
    BacksOff (literalText value ++ rest) := by
  cases value with
  | null =>
      have word : "null".toList.all isChoiceChar = true := by decide
      exact .append (fun c member => .inl (List.all_eq_true.mp word c member))
        (.of_ends ends)
  | bool value =>
      have word : (literalText (.bool value)).all isChoiceChar = true := by
        cases value <;> decide
      exact .append (fun c member => .inl (List.all_eq_true.mp word c member))
        (.of_ends ends)
  | number value =>
      obtain ⟨negative, units, representable, rfl, unsigned⟩ :=
        printable.exists_units
      obtain ⟨n, spells, -⟩ := Double.exists_spells_positionalText representable
      rw [literalText_number unsigned]
      exact .append (fun c member =>
        (of_isPlain (isPlain_of_spells spells c member)).2.2.2.2)
        (.of_ends ends)
  | text value => exact .cons_of_not_isChoiceChar rfl rfl (by decide)
  | date value => exact printable.elim

theorem tokens?_literalText {value : Value} (printable : value.Printable)
    {expected : Expectation} (awaited : expected ≠ .operator) {rest : List Char}
    (ends : Ends rest) :
    tokens? expected (literalText value ++ rest) =
      (tokens? .operator rest).map
        (.operand (.literal value.unsigned) :: ·) := by
  cases value with
  | null =>
      have chars : "null".toList.all isNameChar = true := by decide
      exact tokens?_name awaited rfl (List.all_eq_true.mp chars) ends
  | bool value =>
      cases value with
      | false =>
          have chars : "false".toList.all isNameChar = true := by decide
          exact tokens?_name awaited rfl (List.all_eq_true.mp chars) ends
      | true =>
          have chars : "true".toList.all isNameChar = true := by decide
          exact tokens?_name awaited rfl (List.all_eq_true.mp chars) ends
  | number value =>
      obtain ⟨negative, units, representable, rfl, unsigned⟩ :=
        printable.exists_units
      obtain ⟨n, spells, value⟩ :=
        Double.exists_spells_positionalText representable
      rw [literalText_number unsigned,
        tokens?_number awaited spells ends, value]
      rfl
  | text value => exact tokens?_quoteText awaited printable.1 printable.2 ends
  | date value => exact printable.elim

theorem strictlyEquals_unsigned {value : Value} (printable : value.Printable) :
    value.unsigned.strictlyEquals value = true := by
  cases value with
  | null => rfl
  | bool value => cases value <;> rfl
  | number value =>
      obtain ⟨negative, units, representable, rfl, unsigned⟩ :=
        printable.exists_units
      have same : (Double.finite negative units representable).position =
          some (units : Int) := by
        cases negative with
        | false => rfl
        | true => simp [Double.position, unsigned rfl]
      have positive :
          (Double.finite false units representable).position =
            some (units : Int) :=
        rfl
      simp [strictlyEquals, Value.unsigned, Double.equals, Double.compare?,
        same, positive]
  | text value => exact decide_eq_true rfl
  | date value => exact printable.elim

theorem unsigned_eq {value : Value} (printable : value.Printable)
    (signed : value ≠ .number (.zero true)) : value.unsigned = value := by
  cases value with
  | number value =>
      obtain ⟨negative, units, representable, rfl, unsigned⟩ :=
        printable.exists_units
      cases negative with
      | false => rfl
      | true =>
          obtain rfl := unsigned rfl
          exact absurd rfl signed
  | null => rfl
  | bool value => rfl
  | text value => rfl
  | date value => rfl

end Value

namespace Expr

open Lexer

namespace Printable

theorem operand {op : UnaryOperator} {e : Expr}
    (printable : (unary op e).Printable) : e.Printable :=
  ⟨printable.literals, printable.columns⟩

theorem left {op : BinaryOperator} {l r : Expr}
    (printable : (binary op l r).Printable) : l.Printable :=
  ⟨fun value member => printable.literals value (List.mem_append_left _ member),
    fun name member => printable.columns name (List.mem_append_left _ member)⟩

theorem right {op : BinaryOperator} {l r : Expr}
    (printable : (binary op l r).Printable) : r.Printable :=
  ⟨fun value member =>
    printable.literals value (List.mem_append_right _ member),
    fun name member => printable.columns name (List.mem_append_right _ member)⟩

end Printable

theorem backsOff_chars {e : Expr} (printable : e.Printable) {rest : List Char}
    (ends : Ends rest) : BacksOff (e.chars ++ rest) := by
  induction e with
  | literal value =>
      exact Value.backsOff_literalText
        (printable.literals value List.mem_cons_self) ends
  | column name =>
      have isName := printable.columns name List.mem_cons_self
      refine .append (fun c member => ?_) (.of_ends ends)
      have plain : isPlain c = true := by
        rw [isPlain, isName.chars c member, Bool.true_or]
      exact (of_isPlain plain).2.2.2.2
  | unary op operand ih =>
      cases op with
      | not => exact .cons_of_not_isChoiceChar rfl rfl (by decide)
      | negate => exact (ih printable.operand).cons_of_isChoiceChar rfl
  | binary op left right ihLeft ihRight =>
      exact .cons_of_not_isChoiceChar rfl rfl (by decide)

theorem tokens?_chars {e : Expr} (printable : e.Printable)
    {expected : Expectation} (awaited : expected ≠ .operator) {rest : List Char}
    (ends : Ends rest) :
    tokens? expected (e.chars ++ rest) =
      (tokens? .operator rest).map (e.unsigned.tokens ++ ·) := by
  induction e generalizing expected rest with
  | literal value =>
      exact Value.tokens?_literalText
        (printable.literals value List.mem_cons_self) awaited ends
  | column name =>
      have isName := printable.columns name List.mem_cons_self
      have named := isName.named_eq
      rw [chars, tokens?_name awaited isName.start isName.chars ends, named]
      rfl
  | unary op operand ih =>
      rw [chars, List.append_assoc,
        tokens?_unary awaited op (backsOff_chars printable.operand ends),
        ih printable.operand (by decide) ends, Option.map_map]
      rfl
  | binary op left right ihLeft ihRight =>
      have text : (binary op left right).chars ++ rest =
          '(' :: (left.chars ++ ' ' ::
            (op.symbol.toList ++ ' ' :: (right.chars ++ ')' :: rest))) := by
        simp [chars]
      rw [text, tokens?_opening awaited,
        ihLeft printable.left (by decide) (ends_symbol op _), tokens?_symbol,
        ihRight printable.right (by decide) (.closing rest), tokens?_closing]
      simp only [Option.map_map]
      congr 1
      funext tokens
      simp [unsigned, Expr.tokens]

theorem equals_unsigned {e : Expr} (printable : e.Printable) :
    e.unsigned.equals e = true := by
  induction e with
  | literal value =>
      exact Value.strictlyEquals_unsigned
        (printable.literals value List.mem_cons_self)
  | column name => exact decide_eq_true rfl
  | unary op operand ih => simp [unsigned, equals, ih printable.operand]
  | binary op left right ihLeft ihRight =>
      simp [unsigned, equals, ihLeft printable.left, ihRight printable.right]

theorem unsigned_eq {e : Expr} (printable : e.Printable)
    (signed : ∀ value ∈ e.literals, value ≠ .number (.zero true)) :
    e.unsigned = e := by
  induction e with
  | literal value =>
      rw [unsigned, Value.unsigned_eq
        (printable.literals value List.mem_cons_self)
        (signed value List.mem_cons_self)]
  | column name => rfl
  | unary op operand ih => rw [unsigned, ih printable.operand signed]
  | binary op left right ihLeft ihRight =>
      rw [unsigned, ihLeft printable.left fun value member =>
        signed value (List.mem_append_left _ member),
        ihRight printable.right fun value member =>
          signed value (List.mem_append_right _ member)]

theorem parse?_text_eq {e : Expr} (printable : e.Printable) :
    Expr.parse? e.text = some e.unsigned := by
  have cut : tokens? .operand (e.chars ++ []) = _ :=
    tokens?_chars printable (by decide) Ends.nil
  rw [List.append_nil, tokens?_nil, Option.map_some] at cut
  rw [Expr.parse?, text, String.toList_ofList, cut]
  exact Assembly.run_tokens [] e.unsigned []

/-- The text of an expression parses to the expression, up to the sign of
zero. -/
theorem parse?_text {e : Expr} (printable : e.Printable) :
    ∃ read, Expr.parse? e.text = some read ∧ read.equals e = true ∧
      ((∀ value ∈ e.literals, value ≠ .number (.zero true)) → read = e) :=
  ⟨e.unsigned, parse?_text_eq printable, equals_unsigned printable,
    unsigned_eq printable⟩

/-- The condition `(-!'it\'s a|b' || !($net_1 * 0))`, whose zero has a minus. -/
def intricate : Expr :=
  .binary .or (.unary .negate (.unary .not (.literal (.text "it's a|b\n"))))
    (.unary .not (.binary .multiply (.column "$net_1")
      (.literal (.number (.zero true)))))

theorem printable_intricate : intricate.Printable := by
  refine ⟨List.forall_mem_cons.mpr
    ⟨⟨by decide +kernel, by decide⟩, List.forall_mem_singleton.mpr ?_⟩,
    List.forall_mem_singleton.mpr ?_⟩
  · exact ⟨rfl, by decide +kernel⟩
  · decide

theorem parse?_text_intricate :
    intricate.Printable ∧ ∃ read, Expr.parse? intricate.text = some read ∧
      read.equals intricate = true ∧
      ((∀ value ∈ intricate.literals, value ≠ .number (.zero true)) →
        read = intricate) :=
  ⟨printable_intricate, parse?_text printable_intricate⟩

end Expr

end RowAudit.Condition
