import Mathlib.Data.List.Nodup
import RowAudit.Proofs.Check.Comparison
import RowAudit.Proofs.Sheet.Columns

/-!
The order of the columns. Where no two headers name the same column, a row has
the same in every column however the columns are ordered, and the same
conditions participate; the order decides only which of the mentioned headers a
condition is attributed to.
-/

namespace RowAudit

/-! The entries of a list in another order. -/

section

variable {α β : Type}

def entriesAt (positions : List Nat) (l : List α) : List α :=
  positions.filterMap fun position => l[position]?

theorem entriesAt_range (l : List α) :
    entriesAt (List.range l.length) l = l := by
  induction l with
  | nil => rfl
  | cons a rest ih =>
      unfold entriesAt at ih ⊢
      rw [List.length_cons, List.range_succ_eq_map, List.filterMap_cons,
        List.filterMap_map]
      exact congrArg (a :: ·) ih

theorem entriesAt_perm {positions : List Nat} {l : List α}
    (order : positions.Perm (List.range l.length)) :
    (entriesAt positions l).Perm l := by
  have perm :
      (entriesAt positions l).Perm (entriesAt (List.range l.length) l) :=
    order.filterMap _
  rwa [entriesAt_range] at perm

theorem zip_entriesAt {left : List α} {right : List β}
    (same : left.length = right.length) (positions : List Nat) :
    (entriesAt positions left).zip (entriesAt positions right) =
      entriesAt positions (left.zip right) := by
  have width : (left.zip right).length = left.length := by
    rw [List.length_zip, ← same, Nat.min_self]
  induction positions with
  | nil => rfl
  | cons position rest ih =>
      unfold entriesAt at ih ⊢
      simp only [List.filterMap_cons]
      by_cases within : position < left.length
      · simp [List.getElem?_eq_getElem within,
          List.getElem?_eq_getElem (same ▸ within),
          List.getElem?_eq_getElem (width.symm ▸ within), ih]
      · have beyond : left.length ≤ position := Nat.le_of_not_lt within
        simp [List.getElem?_eq_none beyond,
          List.getElem?_eq_none (same ▸ beyond),
          List.getElem?_eq_none (width.symm ▸ beyond), ih]

theorem filter_eq_of_perm {p : α → Bool} {left right : List α}
    (perm : left.Perm right) (alone : left.countP p ≤ 1) :
    left.filter p = right.filter p := by
  have passing := perm.filter p
  rw [List.countP_eq_length_filter] at alone
  match found : left.filter p, alone with
  | [], _ =>
      rw [found] at passing
      exact passing.nil_eq
  | [entry], _ =>
      rw [found] at passing
      exact List.singleton_perm.mp passing

end

/-- The sheet with its columns in another order: at each place the column that
was at the given position. -/
def Sheet.reorderColumns (sheet : Sheet) (order : List Nat) : Sheet :=
  { sheet with
    headers := entriesAt order sheet.headers
    rows := sheet.rows.map (entriesAt order) }

/-- No two headers name the same column. -/
def Column.Distinct (headers : List String) : Prop :=
  ((headers.map Column.normalize).filter (· ≠ "")).Nodup

instance (headers : List String) : Decidable (Column.Distinct headers) :=
  inferInstanceAs (Decidable (List.Nodup _))

theorem Column.Distinct.countP_names {headers : List String}
    (distinct : Column.Distinct headers) (key : String) :
    headers.countP (Column.Names · key) ≤ 1 := by
  have once := List.nodup_iff_count.mp distinct key
  rw [List.count_eq_countP, List.countP_filter, List.countP_map] at once
  refine Nat.le_trans (List.countP_mono_left ?_) once
  intro header _ names
  obtain ⟨named, rfl⟩ := of_decide_eq_true names
  simp [named]

variable {order : List Nat} {sheet : Sheet}

theorem Sheet.Rectangular.reorderColumns (rectangular : sheet.Rectangular)
    (permutation : order.Perm (List.range sheet.headers.length)) :
    (sheet.reorderColumns order).Rectangular := by
  intro reordered member
  obtain ⟨cells, found, rfl⟩ := List.mem_map.mp member
  have full := rectangular cells found
  change (entriesAt order cells).length = (entriesAt order sheet.headers).length
  rw [(entriesAt_perm (full.symm ▸ permutation)).length_eq,
    (entriesAt_perm permutation).length_eq, full]

namespace Condition

variable {headers others : List String} {text : String}

theorem Participates.of_perm (perm : headers.Perm others)
    (participates : Participates headers text) : Participates others text := by
  obtain ⟨header, member, mentioned⟩ := participates
  exact ⟨header, perm.mem_iff.mp member, mentioned⟩

theorem participates_perm (perm : headers.Perm others) (text : String) :
    Participates headers text ↔ Participates others text :=
  ⟨.of_perm perm, .of_perm perm.symm⟩

end Condition

/-- The same violation, but for the header it is attributed to and the cell
under that. -/
def Violation.SameButAttribution (violation other : Violation) : Prop :=
  { violation with header := other.header, value := other.value } = other

/-- How violations depend on the order of the columns. -/
def Category.reordered : Category → Violation → Violation → Prop
  | .dataType => (· = ·)
  | .condition => Violation.SameButAttribution

theorem Rule.Reports.reorder {headers others : List String}
    {claimColumn : String} {index : Nat} {row other : Row} {rule : Rule}
    {violation : Violation} (perm : headers.Perm others)
    (agree : ∀ column, row.cell column = other.cell column)
    (reports : rule.Reports headers claimColumn index row violation) :
    ∃ counterpart, rule.Reports others claimColumn index other counterpart ∧
      violation.SameButAttribution counterpart := by
  cases reports with
  | @mk text header blamed _ =>
      have judged (text : String) :
          Condition.judge row text = Condition.judge other text :=
        Condition.judge_congr fun column _ =>
          congrArg Condition.Value.ofCell (agree column)
      have carried : Rule.Blames others other rule.conditions text :=
        blamed.transfer (Condition.participates_perm perm) fun text _ =>
          judged text
      obtain ⟨mentioned, attributed⟩ :=
        PreparedCondition.exists_firstMention carried.participates
      refine ⟨_, .mk carried attributed, ?_⟩
      rw [Violation.SameButAttribution, Row.claim?_congr (agree _)]

namespace Settings

variable {settings : Settings} {data : Sheet} {typeMap : TypeMap}
  {rules : List Rule}

theorem cell_rowOf_reorder {headers : List String} {cells : List Cell}
    (full : cells.length = headers.length) (distinct : Column.Distinct headers)
    (permutation : order.Perm (List.range headers.length)) (column : String) :
    (settings.rowOf headers cells).cell column =
      (settings.rowOf (entriesAt order headers) (entriesAt order cells)).cell
        column := by
  have paired : (headers.zip cells).length = headers.length := by
    rw [List.length_zip, full, Nat.min_self]
  have perm : (headers.zip cells).Perm (entriesAt order (headers.zip cells)) :=
    (entriesAt_perm (paired.symm ▸ permutation)).symm
  have alone : (headers.zip cells).countP
      (fun entry => Column.Names entry.1 column) ≤ 1 := by
    have once := distinct.countP_names column
    rwa [← List.map_fst_zip (Nat.le_of_eq full.symm), List.countP_map] at once
  have reordered :
      (entriesAt order cells).length = (entriesAt order headers).length := by
    rw [(entriesAt_perm permutation).length_eq,
      (entriesAt_perm (full.symm ▸ permutation)).length_eq, full]
  rw [Row.cell, Row.cell, get?_rowOf_of_full full, get?_rowOf_of_full reordered,
    zip_entriesAt full.symm, filter_eq_of_perm perm alone]

theorem summaryOf_reorderColumns (rectangular : data.Rectangular)
    (distinct : Column.Distinct data.headers)
    (permutation : order.Perm (List.range data.headers.length)) :
    (settings.summaryOf data typeMap rules).Matches Category.reordered
      (settings.summaryOf (data.reorderColumns order) typeMap rules) := by
  have perm : data.headers.Perm (entriesAt order data.headers) :=
    (entriesAt_perm permutation).symm
  have pairs : List.Forall₂
      (fun row other : Row => ∀ column, row.cell column = other.cell column)
      (data.rows.map (settings.rowOf data.headers))
      ((data.reorderColumns order).rows.map
        (settings.rowOf (data.reorderColumns order).headers)) := by
    unfold Sheet.reorderColumns
    rw [List.map_map, List.forall₂_map_left_iff, List.forall₂_map_right_iff,
      List.forall₂_same]
    intro cells member
    exact cell_rowOf_reorder (rectangular cells member) distinct permutation
  refine summaryOf_matches pairs ?_ ?_
  · intro index row other agree entry _
    exact rel_of_eq (TypeCheck.columnViolation?_congr (agree _) (agree _))
  · intro index row other agree rule _
    apply RuleCheck.report?_rel
    · intro violation reports
      exact reports.reorder perm agree
    · -- Read backwards, the same lemma takes the second sheet to the first.
      intro counterpart reports
      obtain ⟨violation, matching, -⟩ :=
        reports.reorder perm.symm fun column => (agree column).symm
      exact ⟨violation, matching⟩

theorem audit_reorderColumns (rectangular : data.Rectangular)
    (distinct : Column.Distinct data.headers)
    (permutation : order.Perm (List.range data.headers.length)) :
    ∃ summary reordered,
      settings.audit data typeMap rules = .ok summary ∧
      settings.audit (data.reorderColumns order) typeMap rules = .ok reordered ∧
      summary.Matches Category.reordered reordered :=
  ⟨_, _, audit_of_fits rectangular.fits,
    audit_of_fits (rectangular.reorderColumns permutation).fits,
    summaryOf_reorderColumns rectangular distinct permutation⟩

def paymentSheet : Sheet :=
  ⟨"Input", ["Claim No", "", "Amount", " ", "Status"],
    [[.text "C1", .blank, .text "n/a", .text "x", .text "open"],
      [.text "C2", .text "y", .blank, .blank, .text "paid"]]⟩

def paymentTypes : TypeMap :=
  .ofList [("Amount", .number), ("Status", .text)]

def paymentRules : List Rule :=
  [⟨"1", "paid", ["status=='paid'", "amount>0 && status!=''"]⟩]

theorem audit_reorderColumns_payments :
    paymentSheet.Rectangular ∧ Column.Distinct paymentSheet.headers ∧
    [4, 1, 0, 3, 2].Perm (List.range paymentSheet.headers.length) ∧
    ∃ summary reordered,
      audit {} paymentSheet paymentTypes paymentRules = .ok summary ∧
      audit {} (paymentSheet.reorderColumns [4, 1, 0, 3, 2]) paymentTypes
        paymentRules = .ok reordered ∧
      summary.Matches Category.reordered reordered := by
  have rectangular : paymentSheet.Rectangular := by
    unfold Sheet.Rectangular
    decide +kernel
  have distinct : Column.Distinct paymentSheet.headers := by decide +kernel
  have permutation :
      [4, 1, 0, 3, 2].Perm (List.range paymentSheet.headers.length) := by
    decide
  exact ⟨rectangular, distinct, permutation,
    audit_reorderColumns rectangular distinct permutation⟩

end Settings

end RowAudit
