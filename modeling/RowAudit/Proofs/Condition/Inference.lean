import RowAudit.Proofs.Condition.NumericMembership
import RowAudit.Proofs.Sheet.Inference
import RowAudit.Proofs.Text.LetterCase

/-!
Numeric conditions on a column whose cells are read as numbers where they can
be, or all kept as texts. A text is read as a number a second time when it is
compared with one or reckoned with, by a reader that takes more numerals and
sees them in lower case. On what the first reader takes the two agree, so the
condition comes to the same either way.
-/

namespace RowAudit

namespace Numeral

theorem of_isNumeralChar {c : Char} (isChar : isNumeralChar c = true) :
    Text.lowerChar c.toLower = [c.toLower] ∧ c ≠ '|' :=
  Text.forall_ascii
    (p := fun c => isNumeralChar c = true →
      Text.lowerChar c.toLower = [c.toLower] ∧ c ≠ '|')
    (by decide +kernel) c (ascii_of_isNumeralChar isChar) isChar

end Numeral

namespace Text

theorem mem_dropWhile_of_mem {p : Char → Bool} {c : Char} {cs : List Char}
    (member : c ∈ cs) (stops : p c = false) : c ∈ cs.dropWhile p := by
  rw [← List.takeWhile_append_dropWhile (p := p) (l := cs)] at member
  rcases List.mem_append.mp member with taken | left
  · rw [List.mem_takeWhile_imp taken] at stops
    cases stops
  · exact left

theorem mem_trim_of_mem {c : Char} {cs : List Char} (member : c ∈ cs)
    (solid : isBlank c = false) : c ∈ trim cs := by
  rw [trim, List.mem_reverse]
  exact mem_dropWhile_of_mem
    (List.mem_reverse.mpr (mem_dropWhile_of_mem member solid)) solid

variable {raw : String} {n : Numeral}

/-- Around a numeral there is only white space, so its text has the same
lower-case form, character by character. -/
theorem lower_of_written (written : Numeral.Written (trim raw.toList) n) :
    lower raw = String.ofList (raw.toList.map Char.toLower) := by
  rw [← lower_map_toLower, lower_eq_self_iff, String.toList_ofList,
    List.forall_mem_map]
  intro c member
  cases blank : isBlank c with
  | true => exact lowerChar_of_isBlank ((isBlank_toLower c).trans blank)
  | false =>
      exact (Numeral.of_isNumeralChar
        (written.isNumeralChar c (mem_trim_of_mem member blank))).1

theorem trim_lower_of_written (written : Numeral.Written (trim raw.toList) n) :
    trim (lower raw).toList = (trim raw.toList).map Char.toLower := by
  rw [lower_of_written written, String.toList_ofList, trim_map_toLower]

theorem pipe_not_mem_of_written
    (written : Numeral.Written (trim raw.toList) n) : '|' ∉ raw.toList := by
  intro member
  exact (Numeral.of_isNumeralChar
    (written.isNumeralChar '|' (mem_trim_of_mem member (by decide +kernel)))).2
    rfl

end Text

namespace Condition

open Lexer

namespace Value

variable {raw : String} {x : Double}

/-- The number that a cell would be read as is the one that its text stands for
in a condition. -/
theorem toNumber_ofText (read : Cell.plainNumber? raw = some x) :
    (ofText raw).toNumber = x := by
  obtain ⟨n, decimal, value, -⟩ := Cell.plainNumber?_eq_some_iff.mp read
  obtain ⟨reads, plain⟩ := Numeral.plainDecimal_iff.mp decimal
  have written := Numeral.read?_eq_some_iff.mp reads
  have digits : n.digits ≠ [] := by
    intro none
    simp [Numeral.isPlain, none] at plain
  have nonempty : (Text.trim raw.toList).map Char.toLower ≠ [] := by
    intro empty
    rw [List.map_eq_nil_iff.mp empty] at reads
    obtain rfl := Option.some.inj reads
    exact digits rfl
  simp only [ofText, toNumber, numberOfText, Text.trim_lower_of_written written,
    if_neg nonempty, written.map_toLower.read?_eq, if_neg digits]
  rw [Numeral.toDouble_eq_nearest, value]

theorem pipeless_of_plainNumber? (read : Cell.plainNumber? raw = some x) :
    (ofText raw).Pipeless := by
  obtain ⟨n, decimal, -⟩ := Cell.plainNumber?_eq_some_iff.mp read
  have written :=
    Numeral.read?_eq_some_iff.mp (Numeral.plainDecimal_iff.mp decimal).1
  exact Text.pipe_not_mem_lower (Text.pipe_not_mem_of_written written)

end Value

/-- The operators that compare numbers or reckon with them. Identity and
addition are not among them, as they tell a number from a text. -/
def numericOperators : List BinaryOperator :=
  [.equal, .unequal, .less, .lessEqual, .greater, .greaterEqual, .subtract,
    .multiply, .divide, .remainder]

namespace BinaryOperator

variable {op : BinaryOperator} {value : Value}

/-- Opposite a number, such an operator sees of a value nothing but the number
that it reads as. -/
theorem apply_number (numeric : op ∈ numericOperators) (notNull : value ≠ .null)
    (k : Double) :
    op.apply value (.number k) = op.apply (.number value.toNumber) (.number k) ∧
      op.apply (.number k) value = op.apply (.number k)
        (.number value.toNumber) := by
  have equal : value.looselyEquals (.number k) =
      Value.looselyEquals (.number value.toNumber) (.number k) ∧
      Value.looselyEquals (.number k) value =
        Value.looselyEquals (.number k) (.number value.toNumber) := by
    cases value <;> first | exact absurd rfl notNull | exact ⟨rfl, rfl⟩
  have order : value.compare? (.number k) =
      Value.compare? (.number value.toNumber) (.number k) ∧
      Value.compare? (.number k) value =
        Value.compare? (.number k) (.number value.toNumber) := by
    cases value <;> exact ⟨rfl, rfl⟩
  simp only [numericOperators, List.mem_cons, List.not_mem_nil, or_false]
    at numeric
  rcases numeric with
    rfl | rfl | rfl | rfl | rfl | rfl | rfl | rfl | rfl | rfl <;>
    simp only [apply, equal, order, Value.toNumber, and_self]

end BinaryOperator

namespace Expr

/-- Whether an expression comes to the same on two rows, be it a value or a
fault. -/
def Agrees (row other : Row) (e : Expr) : Prop :=
  e.evaluate row = e.evaluate other

variable {row other : Row} {name raw : String} {op : BinaryOperator}
  {left right : Expr}

theorem Agrees.binary (leftAgrees : Agrees row other left)
    (rightAgrees : Agrees row other right) (op : BinaryOperator) :
    Agrees row other (.binary op left right) := by
  rw [Agrees] at *
  cases op <;> simp only [evaluate, leftAgrees, rightAgrees]

section

variable {number : Expr} {k : Double}
  (evaluated : ∀ row : Row, number.evaluate row = .ok (.number k))
include evaluated

theorem agrees_of_plainNumber? {x : Double}
    (read : Cell.plainNumber? raw = some x)
    (counted : row.get? name = some (.number x))
    (kept : other.get? name = some (.text raw))
    (numeric : op ∈ numericOperators) :
    Agrees row other (.binary op (.column name) number) ∧
      Agrees row other (.binary op number (.column name)) := by
  have pipeless := (Value.pipeless_of_plainNumber? read).choices?_eq_none
  have countedValue := evaluate_column_of_get? counted
  have keptValue := evaluate_column_of_get? kept
  have notNull : Value.ofText raw ≠ .null := by simp [Value.ofText]
  have same := BinaryOperator.apply_number numeric notNull k
  rw [Value.toNumber_ofText read] at same
  constructor
  · rw [Agrees, evaluate_binary countedValue (evaluated row) rfl,
      evaluate_binary keptValue (evaluated other) rfl]
    exact congrArg Except.ok same.1.symm
  · rw [Agrees, evaluate_binary (evaluated row) countedValue rfl,
      evaluate_binary (evaluated other) keptValue pipeless]
    exact congrArg Except.ok same.2.symm

theorem agrees_infer (counted : row.get? name = some (.infer true raw))
    (kept : other.get? name = some (.infer false raw))
    (numeric : op ∈ numericOperators) :
    Agrees row other (.binary op (.column name) number) ∧
      Agrees row other (.binary op number (.column name)) := by
  rcases Cell.infer_eq_or_number raw with same | ⟨x, read, number, text⟩
  · have column : Agrees row other (.column name) := by
      rw [Agrees, evaluate_column_of_get? counted,
        evaluate_column_of_get? kept, same]
    have numeral : Agrees row other number :=
      (evaluated row).trans (evaluated other).symm
    exact ⟨column.binary numeral op, numeral.binary column op⟩
  · rw [number] at counted
    rw [text] at kept
    exact agrees_of_plainNumber? evaluated read counted kept numeric

end

end Expr

namespace WrittenNumber

variable (d : WrittenNumber) (op : BinaryOperator) (name : String)

def columnFirst : String :=
  String.ofList (name.toList ++ ' ' :: (op.symbol.toList ++ ' ' :: d.chars))

def numberFirst : String :=
  String.ofList (d.chars ++ ' ' :: (op.symbol.toList ++ ' ' :: name.toList))

variable {name}

theorem parse?_columnFirst (isName : IsName name) :
    Expr.parse? (d.columnFirst op name) =
      some (.binary op (.column name) d.expr) := by
  rw [Expr.parse?, columnFirst, String.toList_ofList,
    tokens?_name (by decide) isName.start isName.chars (ends_symbol op d.chars),
    isName.named_eq, tokens?_symbol, d.tokens?_chars, tokens, expr]
  cases d.negative <;> cases op <;> rfl

theorem parse?_numberFirst (isName : IsName name) :
    Expr.parse? (d.numberFirst op name) =
      some (.binary op d.expr (.column name)) := by
  have found :=
    tokens?_name (show Expectation.operand ≠ .operator by decide) isName.start
      isName.chars .nil
  rw [List.append_nil, tokens?_nil, isName.named_eq] at found
  rw [Expr.parse?, numberFirst, String.toList_ofList,
    d.tokens?_chars_append (ends_symbol op name.toList), tokens?_symbol, found,
    tokens, expr]
  cases d.negative <;> cases op <;> rfl

end WrittenNumber

/-- Whether a condition is well formed and comes to the same on two rows. -/
def ComesToSame (row other : Row) (condition : String) : Prop :=
  ∃ e, Expr.parse? condition = some e ∧ e.Agrees row other

/--
It makes no difference to a numeric condition whether the text of a cell was
read as a number where it is one, or kept as a text. The condition has a number
on one side of a numeric operator and the column on the other.
-/
theorem numericCondition_infer {row other : Row} {name raw : String}
    (isName : IsName name) (counted : row.get? name = some (.infer true raw))
    (kept : other.get? name = some (.infer false raw)) {op : BinaryOperator}
    (numeric : op ∈ numericOperators) :
    (∀ k : Double,
      (Expr.binary op (.column name) (.literal (.number k))).Agrees row other ∧
        (Expr.binary op (.literal (.number k)) (.column name)).Agrees
          row other) ∧
    ∀ d : WrittenNumber,
      ComesToSame row other (d.columnFirst op name) ∧
        ComesToSame row other (d.numberFirst op name) := by
  refine ⟨fun k => Expr.agrees_infer (fun _ => rfl) counted kept numeric,
    fun d => ?_⟩
  obtain ⟨behind, ahead⟩ :=
    Expr.agrees_infer d.evaluate_expr counted kept numeric
  exact ⟨⟨_, d.parse?_columnFirst op isName, behind⟩,
    ⟨_, d.parse?_numberFirst op isName, ahead⟩⟩

def amountRow (inferNumbers : Bool) : Row :=
  ⟨[("amount", .infer inferNumbers " 1E2 ")]⟩

theorem numericCondition_infer_amount :
    (amountRow true).get? "amount" = some (.number (.ofInt 100)) ∧
      (amountRow false).get? "amount" = some (.text " 1E2 ") ∧
      ComesToSame (amountRow true) (amountRow false) "amount < 2e2" ∧
      ComesToSame (amountRow true) (amountRow false) "-5 % amount" := by
  have isName : IsName "amount" := by decide +kernel
  have columnFirst :
      twoHundred.columnFirst .less "amount" = "amount < 2e2" := by
    decide +kernel
  have numberFirst :
      minusFive.numberFirst .remainder "amount" = "-5 % amount" := by
    decide +kernel
  have counted : (amountRow true).get? "amount" = some (.infer true " 1E2 ") :=
    rfl
  have kept : (amountRow false).get? "amount" = some (.infer false " 1E2 ") :=
    rfl
  have less : BinaryOperator.less ∈ numericOperators := by decide
  have remainder : BinaryOperator.remainder ∈ numericOperators := by decide
  have compared := numericCondition_infer isName counted kept less
  have divided := numericCondition_infer isName counted kept remainder
  refine ⟨by decide +kernel, by decide +kernel, ?_, ?_⟩
  · rw [← columnFirst]
    exact (compared.2 twoHundred).1
  · rw [← numberFirst]
    exact (divided.2 minusFive).2

example :
    ¬ (Expr.binary .identical (.column "amount")
      (.literal (.number (.ofInt 100)))).Agrees
    (amountRow true) (amountRow false) := by
  rw [Expr.Agrees]
  decide +kernel

end Condition

end RowAudit
