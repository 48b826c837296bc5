import RowAudit.Condition.Assembly

namespace RowAudit.Condition

namespace Expr

def literals : Expr → List Value
  | literal value => [value]
  | column _ => []
  | unary _ operand => operand.literals
  | binary _ left right => left.literals ++ right.literals

def columns : Expr → List String
  | literal _ => []
  | column name => [name]
  | unary _ operand => operand.columns
  | binary _ left right => left.columns ++ right.columns

end Expr

def Frame.columns : Frame → List String
  | .unary _ => []
  | .left e _ => e.columns
  | .group => []

namespace Assembly

def columns (frames : List Frame) (current : Option Expr) : List String :=
  frames.flatMap Frame.columns ++ current.toList.flatMap Expr.columns

variable {name : String}

theorem mem_columns_some {frames : List Frame} {e : Expr} :
    name ∈ columns frames (some e) ↔
      name ∈ columns frames none ∨ name ∈ e.columns := by
  simp [columns]

theorem mem_columns_applyUnary {frames waiting : List Frame} {e whole : Expr}
    (applied : applyUnary frames e = (waiting, whole)) :
    name ∈ columns waiting (some whole) ↔ name ∈ columns frames (some e) := by
  fun_induction applyUnary frames e with
  | case1 op frames e ih => exact ih applied
  | case2 frames e _ =>
      cases applied
      rfl

theorem mem_columns_complete {level : Nat} {frames waiting : List Frame}
    {e whole : Expr} (completed : complete level frames e = (waiting, whole)) :
    name ∈ columns waiting (some whole) ↔ name ∈ columns frames (some e) := by
  fun_induction complete level frames e with
  | case1 l op frames e binds ih =>
      rw [ih completed]
      simp only [columns, List.flatMap_cons, Frame.columns, Expr.columns,
        Option.toList_some, List.flatMap_nil, List.append_nil, List.mem_append]
      rw [or_left_comm, or_assoc]
  | case2 l op frames e loose =>
      cases completed
      rfl
  | case3 frames e _ =>
      cases completed
      rfl

theorem mem_columns_of_run {frames : List Frame} {current : Option Expr}
    {tokens : List Token} {parsed : Expr}
    (assembled : run frames current tokens = some parsed)
    (member : name ∈ parsed.columns) :
    name ∈ columns frames current ∨ ∃ e,
      Token.operand e ∈ tokens ∧ name ∈ e.columns := by
  have later {token : Token} {rest : List Token}
      (found : ∃ e, Token.operand e ∈ rest ∧ name ∈ e.columns) :
      ∃ e, Token.operand e ∈ token :: rest ∧ name ∈ e.columns := by
    obtain ⟨e, among, member⟩ := found
    exact ⟨e, List.mem_cons_of_mem _ among, member⟩
  fun_induction run frames current tokens with
  | case1 frames e rest waiting whole applied ih =>
      rcases ih assembled with pending | found
      · rcases mem_columns_some.mp
          ((mem_columns_applyUnary applied).mp pending) with pending | here
        · exact .inl pending
        · exact .inr ⟨e, List.mem_cons_self, here⟩
      · exact .inr (later found)
  | case2 frames op rest ih => exact (ih assembled).imp id later
  | case3 frames rest ih => exact (ih assembled).imp id later
  | case4 frames e op rest waiting left completed ih =>
      rcases ih assembled with pending | found
      · refine .inl ((mem_columns_complete completed).mp
          (mem_columns_some.mpr ?_))
        simpa [columns, Frame.columns, or_comm] using pending
      · exact .inr (later found)
  | case5 frames e rest outer inner completed waiting whole applied ih =>
      rcases ih assembled with pending | found
      · refine .inl ((mem_columns_complete completed).mp ?_)
        exact (mem_columns_applyUnary applied).mp pending
      · exact .inr (later found)
  | case6 frames e rest unopened => cases assembled
  | case7 frames e whole completed =>
      cases assembled
      exact .inl ((mem_columns_complete completed).mp
        (mem_columns_some.mpr (.inr member)))
  | case8 frames e unclosed => cases assembled
  | case9 => cases assembled

end Assembly

theorem Expr.exists_tokens_of_mem_columns {text name : String} {e : Expr}
    (parsed : Expr.parse? text = some e) (member : name ∈ e.columns) :
    ∃ tokens, Lexer.tokens? .operand text.toList = some tokens ∧
      ∃ operand, Token.operand operand ∈ tokens ∧ name ∈ operand.columns := by
  rw [Expr.parse?] at parsed
  split at parsed
  · next tokens cut =>
      refine ⟨tokens, cut, ?_⟩
      rcases Assembly.mem_columns_of_run parsed member with pending | found
      · cases pending
      · exact found
  · cases parsed

end RowAudit.Condition
