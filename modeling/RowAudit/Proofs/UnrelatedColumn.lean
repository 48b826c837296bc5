import Mathlib.Data.List.InsertIdx
import RowAudit.Proofs.Check.Comparison
import RowAudit.Proofs.Sheet.Columns

/-!
A column that nothing has to do with. Wherever it is put into a sheet and
whatever it holds, the audit comes to the very same summary: each header keeps
its cells, each condition its header, and nothing looks at the cells of the new
column.
-/

namespace RowAudit

/-! Lists with something inserted. -/

section

variable {α β : Type}

theorem zip_insertIdx {left : List α} {right : List β}
    (same : left.length = right.length) (position : Nat) (a : α) (b : β) :
    (left.insertIdx position a).zip (right.insertIdx position b) =
      (left.zip right).insertIdx position (a, b) := by
  induction position generalizing left right with
  | zero => rfl
  | succ position ih =>
      cases left with
      | nil =>
          obtain rfl := List.eq_nil_of_length_eq_zero same.symm
          rfl
      | cons first left =>
          cases right with
          | nil => cases same
          | cons second right =>
              simp only [List.insertIdx_succ_cons, List.zip_cons_cons]
              rw [ih (Nat.succ.inj same)]

theorem filter_insertIdx {p : α → Bool} {a : α} (dropped : p a = false)
    (l : List α) (position : Nat) :
    (l.insertIdx position a).filter p = l.filter p := by
  induction position generalizing l with
  | zero =>
      rw [List.insertIdx_zero, List.filter_cons_of_neg (by simp [dropped])]
  | succ position ih =>
      cases l with
      | nil => rfl
      | cons first l =>
          rw [List.insertIdx_succ_cons, List.filter_cons, List.filter_cons, ih]

theorem find?_insertIdx {p : α → Bool} {a : α} (dropped : p a = false)
    (l : List α) (position : Nat) :
    (l.insertIdx position a).find? p = l.find? p := by
  rw [← List.head?_filter, ← List.head?_filter, filter_insertIdx dropped]

theorem forall₂_mapIdx {related : α → β → Prop} {change : Nat → α → β}
    {l : List α} (each : ∀ a ∈ l, ∀ index, related a (change index a)) :
    List.Forall₂ related l (l.mapIdx change) := by
  induction l generalizing change with
  | nil => exact .nil
  | cons a rest ih =>
      obtain ⟨here, later⟩ := List.forall_mem_cons.mp each
      rw [List.mapIdx_cons]
      exact .cons (here 0)
        (ih fun other member index => later other member (index + 1))

end

def Row.AgreeOff (column : String) (row other : Row) : Prop :=
  ∀ key, column ≠ key → row.cell key = other.cell key

/-- The sheet with one column more: a header at the given position, and a cell
there in every row. -/
def Sheet.insertColumn (sheet : Sheet) (position : Nat) (header : String)
    (cell : Nat → Cell) : Sheet :=
  { sheet with
    headers := sheet.headers.insertIdx position header
    rows :=
      sheet.rows.mapIdx fun index cells =>
        cells.insertIdx position (cell index) }

theorem Sheet.Rectangular.insertColumn {sheet : Sheet}
    (rectangular : sheet.Rectangular) (position : Nat) (header : String)
    (cell : Nat → Cell) :
    (sheet.insertColumn position header cell).Rectangular := by
  intro cells member
  obtain ⟨index, within, rfl⟩ := List.mem_mapIdx.mp member
  have full := rectangular _ (List.getElem_mem within)
  change (List.insertIdx _ _ _).length = (List.insertIdx _ _ _).length
  rw [List.length_insertIdx, List.length_insertIdx, full]

namespace PreparedCondition

variable {headers : List String} {header text : String}

/-- A condition keeps its header when one that it does not mention is put among
the headers. -/
theorem prepare_insertIdx (unmentioned : ¬ Condition.Mentions text header)
    (position : Nat) :
    prepare (Header.declared (headers.insertIdx position header)) text =
      prepare (Header.declared headers) text := by
  let mentioning (other : String) : Bool := Column.normalize other ≠ "" &&
    Text.mentions (Condition.normalize text).toList
      (Column.normalize other).toList
  have dropped : mentioning header = false := by
    rw [← Bool.not_eq_true]
    exact mt mentions_eq_true_iff.mp unmentioned
  have same :
      (prepare (Header.declared (headers.insertIdx position header))
        text).header =
      (prepare (Header.declared headers) text).header := by
    rw [header_prepare, header_prepare]
    exact congrArg _ (find?_insertIdx dropped headers position)
  exact congrArg
    (PreparedCondition.mk
      text · (Condition.Expr.parse? (Condition.normalize text))) same

end PreparedCondition

namespace RuleCheck

variable {headers : List String} {header : String} {rule : Rule}

theorem report?_insertIdx
    (unmentioned : ∀ text ∈ rule.conditions, ¬ Condition.Mentions text header)
    (position : Nat) (claimColumn : String) (index : Nat) (row : Row) :
    report? (headers.insertIdx position header) claimColumn index row rule =
      report? headers claimColumn index row rule := by
  have prepared :
      PreparedRule.prepare?
        (Header.declared (headers.insertIdx position header)) rule =
      PreparedRule.prepare? (Header.declared headers) rule := by
    unfold PreparedRule.prepare?
    cases all : rule.conditions with
    | nil => rfl
    | cons guard checks =>
        rw [all] at unmentioned
        obtain ⟨guardAlone, checksAlone⟩ := List.forall_mem_cons.mp unmentioned
        have same : checks.map
            (.prepare (Header.declared (headers.insertIdx position header))) =
            checks.map (PreparedCondition.prepare (Header.declared headers)) :=
          List.map_congr_left fun check member =>
            PreparedCondition.prepare_insertIdx
              (checksAlone check member) position
        simp only [PreparedCondition.prepare_insertIdx guardAlone, same]
  rw [report?, report?, prepared]

end RuleCheck

namespace Settings

variable {settings : Settings} {data : Sheet} {typeMap : TypeMap}
  {rules : List Rule} {header : String}

/-- A header whose column is no other header's, does not identify the rows, has
no declared type, and is neither mentioned nor looked up by any condition. -/
structure Unrelated (settings : Settings) (data : Sheet) (typeMap : TypeMap)
    (rules : List Rule) (header : String) : Prop where
  fresh : Column.normalize header ∉ data.headers.map Column.normalize
  unclaimed : Column.normalize header ≠ Column.normalize settings.claimColumn
  untyped : Column.normalize header ∉ typeMap.keys
  unmentioned : ∀ rule ∈ rules, ∀ text ∈ rule.conditions,
    ¬ Text.WholeWord (Column.normalize header).toList
      (Condition.normalize text).toList
  unread : ∀ rule ∈ rules, ∀ text ∈ rule.conditions,
    ¬ Condition.Reads text (Column.normalize header)

theorem agreeOff_rowOf_insertIdx {headers : List String} {cells : List Cell}
    (full : cells.length = headers.length) (position : Nat) (cell : Cell) :
    Row.AgreeOff (Column.normalize header) (settings.rowOf headers cells)
      (settings.rowOf (headers.insertIdx position header)
        (cells.insertIdx position cell)) := by
  intro key apart
  have longer : (cells.insertIdx position cell).length =
      (headers.insertIdx position header).length := by
    rw [List.length_insertIdx, List.length_insertIdx, full]
  have dropped : decide (Column.Names header key) = false :=
    decide_eq_false fun names => apart names.2
  rw [Row.cell, Row.cell, get?_rowOf_of_full longer, get?_rowOf_of_full full,
    zip_insertIdx full.symm, filter_insertIdx]
  exact dropped

theorem rows_insertColumn (rectangular : data.Rectangular) (position : Nat)
    (cell : Nat → Cell) :
    List.Forall₂ (Row.AgreeOff (Column.normalize header))
      (data.rows.map (settings.rowOf data.headers))
      ((data.insertColumn position header cell).rows.map
        (settings.rowOf (data.insertColumn position header cell).headers)) := by
  unfold Sheet.insertColumn
  rw [List.forall₂_map_left_iff, List.forall₂_map_right_iff]
  apply forall₂_mapIdx
  intro cells member index
  exact agreeOff_rowOf_insertIdx (rectangular cells member) position
    (cell index)

theorem Unrelated.ne_of_looks
    (unrelated : settings.Unrelated data typeMap rules header) {rule : Rule}
    (member : rule ∈ rules) {column : String}
    (looks : RuleCheck.Looks data.headers settings.claimColumn rule column) :
    Column.normalize header ≠ column := by
  rcases looks with rfl | ⟨other, declared, rfl⟩ | ⟨text, condition, reads⟩
  · exact unrelated.unclaimed
  · intro same
    apply unrelated.fresh
    rw [same]
    exact List.mem_map_of_mem declared
  · intro same
    subst same
    exact unrelated.unread rule member text condition reads

theorem summaryOf_insertColumn (rectangular : data.Rectangular)
    (unrelated : settings.Unrelated data typeMap rules header) (position : Nat)
    (cell : Nat → Cell) :
    settings.summaryOf data typeMap rules =
      settings.summaryOf
        (data.insertColumn position header cell) typeMap rules := by
  apply Summary.Matches.eq
  refine summaryOf_matches (rows_insertColumn rectangular position cell) ?_ ?_
  · intro index row other agree entry declared
    have typed : Column.normalize header ≠ entry.1 := by
      intro same
      apply unrelated.untyped
      rw [same]
      exact List.mem_map_of_mem declared
    apply rel_of_eq
    exact TypeCheck.columnViolation?_congr (agree _ unrelated.unclaimed)
      (agree _ typed)
  · intro index row other agree rule member
    have alone : ∀ text ∈ rule.conditions, ¬ Condition.Mentions text header :=
      fun text condition mentioned =>
        unrelated.unmentioned rule member text condition mentioned.2
    apply rel_of_eq
    calc RuleCheck.report? data.headers settings.claimColumn index row rule
      _ = RuleCheck.report? data.headers settings.claimColumn index
        other rule :=
        RuleCheck.report?_congr
          (fun column looks =>
            agree column (unrelated.ne_of_looks member looks)) index
      _ = RuleCheck.report?
        (data.headers.insertIdx position header) settings.claimColumn index
        other rule :=
        (RuleCheck.report?_insertIdx alone position _ index other).symm

theorem audit_insertColumn (rectangular : data.Rectangular)
    (unrelated : settings.Unrelated data typeMap rules header) (position : Nat)
    (cell : Nat → Cell) :
    ∃ summary, settings.audit data typeMap rules = .ok summary ∧
      settings.audit (data.insertColumn position header cell) typeMap rules =
        .ok summary := by
  refine ⟨_, audit_of_fits rectangular.fits, ?_⟩
  rw [summaryOf_insertColumn rectangular unrelated position cell]
  exact audit_of_fits (rectangular.insertColumn position header cell).fits

def claimSheet : Sheet :=
  ⟨"Input", ["Claim No", "Amount", "Status"],
    [[.text "C1", .text "n/a", .text "open"],
      [.text "C2", .blank, .text "Settled"]]⟩

def claimTypes : TypeMap :=
  .ofList [("Amount", .number)]

def claimRules : List Rule :=
  [⟨"1", "settled", ["status==settled", "claimno!='' && amount>0"]⟩]

theorem audit_insertColumn_amounts :
    claimSheet.Rectangular ∧
      Unrelated {} claimSheet claimTypes claimRules "Amounts" ∧
    ∃ summary, audit {} claimSheet claimTypes claimRules = .ok summary ∧
      audit {} (claimSheet.insertColumn 1 "Amounts" fun index =>
        if index = 0 then .blank else .text "a | b")
        claimTypes claimRules = .ok summary := by
  have rectangular : claimSheet.Rectangular := by
    unfold Sheet.Rectangular
    decide +kernel
  have unrelated : Unrelated {} claimSheet claimTypes claimRules "Amounts" :=
    ⟨by decide +kernel, by decide +kernel, by decide +kernel,
      by decide +kernel, by decide +kernel⟩
  exact ⟨rectangular, unrelated, audit_insertColumn rectangular unrelated 1 _⟩

end Settings

end RowAudit
