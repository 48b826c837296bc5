import RowAudit.Proofs.Condition.Dependence
import RowAudit.Proofs.Condition.Display
import RowAudit.Proofs.Condition.Precedence
import RowAudit.Proofs.Text.FinalSigma

/-!
The texts that expressions come to. Literals and cells come in lower case, and a
sum that is a text joins what its operands are shown as. Of that all is in lower
case, but for numbers that are infinite or no number at all.
-/

namespace RowAudit.Condition

namespace Expr

def subexpressions (e : Expr) : List Expr :=
  e :: match e with
    | literal _ | column _ => []
    | unary _ operand => operand.subexpressions
    | binary _ left right => left.subexpressions ++ right.subexpressions

/-- The values that an expression joins to a text; one that is no such sum has
its own value alone. -/
def joined (row : Row) (e : Expr) : List Value :=
  match e, e.evaluate row with
  | binary .add left right, .ok (.text _) => left.joined row ++ right.joined row
  | _, .ok value => [value]
  | _, .error _ => []

theorem mem_literals_of_mem_subexpressions {part whole : Expr}
    (within : part ∈ whole.subexpressions) {value : Value}
    (member : value ∈ part.literals) : value ∈ whole.literals := by
  induction whole with
  | literal other =>
      obtain rfl := List.mem_singleton.mp within
      exact member
  | column name =>
      obtain rfl := List.mem_singleton.mp within
      exact member
  | unary op operand ih =>
      rcases List.mem_cons.mp within with rfl | inside
      · exact member
      · exact ih inside
  | binary op left right ihLeft ihRight =>
      rcases List.mem_cons.mp within with rfl | inside
      · exact member
      · rcases List.mem_append.mp inside with inLeft | inRight
        · exact List.mem_append_left _ (ihLeft inLeft)
        · exact List.mem_append_right _ (ihRight inRight)

variable {row : Row} {op : BinaryOperator} {left right : Expr}

theorem evaluate_binary_eq_text {s : String}
    (evaluated : (binary op left right).evaluate row = .ok (.text s)) :
    op = .add ∧ ∃ leftValue rightValue, left.evaluate row = .ok leftValue ∧
      right.evaluate row = .ok rightValue ∧
        s = leftValue.toText ++ rightValue.toText := by
  rcases evaluate_binary_eq_ok evaluated with
    ⟨truth, same⟩ | ⟨leftValue, rightValue, isLeft, isRight, same⟩
  · cases same
  · cases op with
    | add =>
        refine ⟨rfl, leftValue, rightValue, isLeft, isRight, ?_⟩
        rw [BinaryOperator.apply] at same
        unfold sum at same
        split at same <;> cases same <;> rfl
    | _ => cases same

theorem joined_sum {s : String}
    (evaluated : (binary .add left right).evaluate row = .ok (.text s)) :
    (binary .add left right).joined row = left.joined row ++ right.joined row :=
  joined.eq_1 row left right s evaluated

theorem joined_of_single {e : Expr} {value : Value}
    (evaluated : e.evaluate row = .ok value)
    (single : ∀ left right, e = binary .add left right → ∀ s, value ≠ .text s) :
    e.joined row = [value] := by
  rw [joined.eq_def, evaluated]
  split
  · next same =>
      cases same
      exact absurd rfl (single _ _ rfl _)
  · next same =>
      cases same
      rfl
  · next same => cases same

theorem joined_cases {e : Expr} {value : Value}
    (evaluated : e.evaluate row = .ok value) :
    (e.joined row = [value] ∧
      (value ∈ e.literals ∨ (∃ cell, value = .ofCell cell) ∨ ∀ s,
        value ≠ .text s)) ∨
    ∃ left right leftValue rightValue, e = binary .add left right ∧
      left.evaluate row = .ok leftValue ∧ right.evaluate row = .ok rightValue ∧
      value = .text (leftValue.toText ++ rightValue.toText) ∧
      e.joined row = left.joined row ++ right.joined row := by
  cases e with
  | literal other =>
      obtain rfl := Except.ok.inj evaluated
      exact .inl ⟨joined_of_single rfl (by simp), .inl List.mem_cons_self⟩
  | column name =>
      have cell := evaluated
      rw [evaluate_column] at cell
      exact .inl ⟨joined_of_single evaluated (by simp),
        .inr (.inl ⟨_, (Except.ok.inj cell).symm⟩)⟩
  | unary op operand =>
      obtain ⟨inner, -, applied⟩ := bind_eq_ok_iff.mp evaluated
      refine .inl ⟨joined_of_single evaluated (by simp), .inr (.inr ?_)⟩
      obtain rfl := Except.ok.inj applied
      cases op <;> simp [UnaryOperator.apply]
  | binary op left right =>
      by_cases text : ∃ s, value = .text s
      · obtain ⟨s, rfl⟩ := text
        obtain ⟨rfl, leftValue, rightValue, isLeft, isRight, rfl⟩ :=
          evaluate_binary_eq_text evaluated
        exact .inr ⟨left, right, leftValue, rightValue, rfl, isLeft, isRight,
          rfl, joined_sum evaluated⟩
      · have notText : ∀ s, value ≠ .text s := fun s same => text ⟨s, same⟩
        exact .inl ⟨joined_of_single evaluated fun _ _ _ => notText,
          .inr (.inr notText)⟩

theorem toText_eq_join {e : Expr} {value : Value}
    (evaluated : e.evaluate row = .ok value) :
    value.toText = String.join ((e.joined row).map Value.toText) := by
  induction e generalizing value with
  | binary op left right ihLeft ihRight =>
      rcases joined_cases evaluated with
        ⟨single, -⟩ | ⟨_, _, _, _, same, isLeft, isRight, rfl, both⟩
      · simp [single]
      · obtain ⟨rfl, rfl, rfl⟩ := Expr.binary.inj same
        rw [both, List.map_append, String.join_append, ← ihLeft isLeft,
          ← ihRight isRight]
        rfl
  | _ =>
      rcases joined_cases evaluated with ⟨single, -⟩ | ⟨_, _, _, _, same, -⟩
      · simp [single]
      · cases same

end Expr

namespace Value

/-- A value that is no text with capitals in it. -/
def InLowerCase : Value → Prop
  | .text s => Text.lower s = s
  | _ => True

theorem inLowerCase_ofText (s : String) : (ofText s).InLowerCase :=
  Text.lower_lower s

theorem inLowerCase_ofCell (cell : Cell) : (ofCell cell).InLowerCase := by
  cases cell with
  | text s => exact inLowerCase_ofText s
  | blank => trivial
  | number value => trivial
  | date value => trivial

theorem inLowerCase_of_ne_text {value : Value}
    (notText : ∀ s, value ≠ .text s) : value.InLowerCase := by
  cases value with
  | text s => exact absurd rfl (notText s)
  | _ => trivial

theorem lowerChar_cellText_iff (x : Double) :
    (∀ c ∈ x.cellText.toList, Text.lowerChar c = [c]) ↔ x.isFinite = true := by
  constructor
  · intro settled
    cases x with
    | nan => exact absurd (settled 'N' (by decide)) (by decide +kernel)
    | infinite negative =>
        exact absurd (settled 'I' (by cases negative <;> decide))
          (by decide +kernel)
    | finite negative units representable => rfl
  · intro finite c member
    exact (of_isFigure (Double.isFigure_of_mem_cellText finite c member)).2

/-- What a value is shown as is in lower case, unless it is a number that is
infinite or none. -/
theorem lowerChar_toText_iff {value : Value} (inLowerCase : value.InLowerCase) :
    (∀ c ∈ value.toText.toList, Text.lowerChar c = [c]) ↔
      ∀ x, value = .number x → x.isFinite = true := by
  cases value with
  | number x =>
      simp only [toText, lowerChar_cellText_iff, Value.number.injEq, forall_eq']
  | text s => simpa [toText] using Text.lower_eq_self_iff.mp inLowerCase
  | null => simp [toText]
  | bool truth => cases truth <;> simp [toText] <;> decide +kernel
  | date moment =>
      have figures :=
        fun c member =>
          (of_isFigure (moment.isFigure_of_mem_cellText c member)).2
      simpa [toText] using figures

end Value

namespace Expr

theorem inLowerCase_of_mem_literals {text : String} {whole : Expr}
    (parsed : parse? text = some whole) {value : Value}
    (member : value ∈ whole.literals) : value.InLowerCase := by
  obtain ⟨rest, after, read⟩ := exists_operand?_of_mem_literals parsed member
  rcases Lexer.operand?_eq_some read with ⟨s, same⟩ | ⟨x, same⟩ | ⟨word, same⟩
  · cases same
    exact Value.inLowerCase_ofText s
  · cases same
    trivial
  · unfold Lexer.named at same
    split_ifs at same <;> cases same <;> trivial

theorem inLowerCase_of_single {e : Expr}
    (literals : ∀ value ∈ e.literals, value.InLowerCase) {value : Value}
    (stands : value ∈ e.literals ∨ (∃ cell, value = .ofCell cell) ∨ ∀ s,
      value ≠ .text s) : value.InLowerCase := by
  rcases stands with literal | ⟨cell, rfl⟩ | notText
  · exact literals value literal
  · exact Value.inLowerCase_ofCell cell
  · exact Value.inLowerCase_of_ne_text notText

theorem inLowerCase_of_mem_joined {row : Row} {e : Expr}
    (literals : ∀ value ∈ e.literals, value.InLowerCase) {value : Value}
    (evaluated : e.evaluate row = .ok value) {part : Value}
    (member : part ∈ e.joined row) : part.InLowerCase := by
  induction e generalizing value with
  | binary op left right ihLeft ihRight =>
      rcases joined_cases evaluated with
        ⟨single, stands⟩ | ⟨_, _, _, _, same, isLeft, isRight, -, both⟩
      · rw [single] at member
        obtain rfl := List.mem_singleton.mp member
        exact inLowerCase_of_single literals stands
      · obtain ⟨rfl, rfl, rfl⟩ := Expr.binary.inj same
        rw [both] at member
        rcases List.mem_append.mp member with inLeft | inRight
        · exact ihLeft (fun _ inside =>
            literals _ (List.mem_append_left _ inside)) isLeft inLeft
        · exact ihRight (fun _ inside =>
            literals _ (List.mem_append_right _ inside)) isRight inRight
  | _ =>
      rcases joined_cases evaluated with
        ⟨single, stands⟩ | ⟨_, _, _, _, same, -⟩
      · rw [single] at member
        obtain rfl := List.mem_singleton.mp member
        exact inLowerCase_of_single literals stands
      · cases same

/--
A text that a part of a condition comes to joins what its parts are shown as,
and it is in lower case just if no number among them is infinite or no number at
all.
-/
theorem lower_text_iff {text : String} {whole part : Expr}
    (parsed : parse? text = some whole) (within : part ∈ whole.subexpressions)
    {row : Row} {s : String} (evaluated : part.evaluate row = .ok (.text s)) :
    s = String.join ((part.joined row).map Value.toText) ∧
      (Text.lower s = s ↔ ∀ x, .number x ∈ part.joined row →
        x.isFinite = true) := by
  have shown := toText_eq_join evaluated
  have literals : ∀ value ∈ part.literals, value.InLowerCase :=
    fun value member =>
    inLowerCase_of_mem_literals parsed
      (mem_literals_of_mem_subexpressions within member)
  refine ⟨shown, ?_⟩
  calc Text.lower s = s
    _ ↔ ∀ c ∈ s.toList, Text.lowerChar c = [c] := Text.lower_eq_self_iff
    _ ↔ ∀ value ∈ part.joined row, ∀ c ∈ value.toText.toList,
      Text.lowerChar c = [c] := by
        rw [show s = _ from shown]
        simp only [String.toList_join, List.mem_flatMap, List.mem_map]
        constructor
        · exact fun settled value member c inside =>
            settled c ⟨_, ⟨value, member, rfl⟩, inside⟩
        · rintro settled c ⟨_, ⟨value, member, rfl⟩, inside⟩
          exact settled value member c inside
    _ ↔ ∀ value ∈ part.joined row, ∀ x, value = .number x → x.isFinite = true :=
        forall₂_congr fun value member =>
          Value.lowerChar_toText_iff
            (inLowerCase_of_mem_joined literals evaluated member)
    _ ↔ ∀ x, .number x ∈ part.joined row → x.isFinite = true := by
        constructor
        · exact fun finite x member => finite _ member x rfl
        · rintro finite _ member x rfl
          exact finite x member

def totalled : Expr :=
  .binary .add (.literal (.text "total: "))
    (.binary .multiply (.column "amount") (.literal (.number (.ofInt 1))))

theorem lower_text_totalled :
    parse? "'total: '+amount*1" = some totalled ∧
      totalled.evaluate ⟨[]⟩ = .ok (.text "total: NaN") ∧
      Text.lower "total: NaN" ≠ "total: NaN" ∧
      totalled.evaluate ⟨[("amount", .number (.ofInt 250))]⟩ =
        .ok (.text "total: 250") ∧
      Text.lower "total: 250" = "total: 250" := by
  have parsed : parse? "'total: '+amount*1" = some totalled := by decide +kernel
  have absent : totalled.evaluate ⟨[]⟩ = .ok (.text "total: NaN") := by
    decide +kernel
  have present :
      totalled.evaluate ⟨[("amount", .number (.ofInt 250))]⟩ =
        .ok (.text "total: 250") := by
    decide +kernel
  have within : totalled ∈ totalled.subexpressions := List.mem_cons_self
  refine ⟨parsed, absent, fun lowered => ?_, present, ?_⟩
  · have finite :=
      (lower_text_iff parsed within absent).2.mp lowered .nan
        (by decide +kernel)
    cases finite
  · refine (lower_text_iff parsed within present).2.mpr ?_
    have parts : totalled.joined ⟨[("amount", .number (.ofInt 250))]⟩ =
        [.text "total: ", .number (.ofInt 250)] := by
      decide +kernel
    have finite : (Double.ofInt 250).isFinite = true := by decide +kernel
    rw [parts]
    intro x member
    rcases List.mem_cons.mp member with same | same
    · cases same
    · rw [Value.number.inj (List.mem_singleton.mp same)]
      exact finite

end Expr

end RowAudit.Condition
