import RowAudit.Proofs.Check.Blame
import RowAudit.Proofs.Column
import RowAudit.Proofs.Sheet.Fit

/-!
What does not depend on what. Of every row, each rule reports for itself and
each column of the type map for itself, and neither check takes any notice of
the other.
-/

namespace RowAudit

namespace Tally

variable {check : Nat → Row → List Violation}

/-- A check that reports what it finds in a row under the index of that row. -/
def Indexed (check : Nat → Row → List Violation) : Prop :=
  ∀ index row, ∀ violation ∈ check index row, violation.row = index

theorem violations_run_concat (check : Nat → Row → List Violation)
    (rows : List Row) (row : Row) :
    (run check (rows ++ [row])).violations = (run check rows).violations ++
      check rows.length row := by
  rw [run_concat, record]
  split
  · next none => rw [none, List.append_nil]
  · rfl

theorem filter_row_of_indexed (indexed : Indexed check) (index other : Nat)
    (row : Row) :
    (check other row).filter (fun violation => violation.row = index) =
      if other = index then check other row else [] := by
  split
  · next same =>
      rw [List.filter_eq_self]
      intro violation member
      exact decide_eq_true ((indexed other row violation member).trans same)
  · next different =>
      rw [List.filter_eq_nil_iff]
      intro violation member
      rw [decide_eq_true_eq, indexed other row violation member]
      exact different

theorem filter_row_run (indexed : Indexed check) (rows : List Row)
    (index : Nat) :
    (run check rows).violations.filter
      (fun violation => violation.row = index) =
      (rows[index]?.map (check index)).getD [] := by
  induction rows using List.reverseRecOn with
  | nil => rfl
  | append_singleton rows row ih =>
      rw [violations_run_concat, List.filter_append, ih,
        filter_row_of_indexed indexed]
      rcases Nat.lt_trichotomy rows.length index with behind | rfl | before
      · rw [if_neg (Nat.ne_of_lt behind),
          List.getElem?_eq_none (Nat.le_of_lt behind),
          List.getElem?_eq_none (by simpa using Nat.succ_le_of_lt behind)]
        rfl
      · simp
      · rw [if_neg (Nat.ne_of_gt before), List.getElem?_append_left before,
          List.append_nil]

end Tally

theorem RuleCheck.indexed (check : RuleCheck) :
    Tally.Indexed check.violations :=
  fun _ _ _ member => (shape_of_mem member).1

theorem TypeCheck.indexed (check : TypeCheck) :
    Tally.Indexed check.violations :=
  fun _ _ _ member => (shape_of_mem member).1

theorem RuleCheck.violations_prepare_append (first second : List Rule)
    (headers : List String) (claimColumn : String) (index : Nat) (row : Row) :
    (prepare (first ++ second) headers claimColumn).violations index row =
      (prepare first headers claimColumn).violations index row ++
        (prepare second headers claimColumn).violations index row := by
  simp only [violations_prepare, List.filterMap_append]

theorem TypeCheck.violations_followedBy {settings : Settings}
    {first second : TypeMap} (firstCanonical : first.Canonical)
    (secondCanonical : second.Canonical)
    (apart : ∀ key ∈ first.keys, key ∉ second.keys) (index : Nat) (row : Row) :
    (settings.typeCheck (first.followedBy second)).violations index row =
      (settings.typeCheck first).violations index row ++
        (settings.typeCheck second).violations index row := by
  have entries :=
    ColumnMap.entries_followedBy firstCanonical secondCanonical apart
  simp only [violations, Settings.typeCheck, entries, List.filterMap_append]
  rfl

def Summary.violationsAt (summary : Summary) (category : Category)
    (index : Nat) : List Violation :=
  (summary.violationsIn category).filter fun violation => violation.row = index

namespace Settings

/-- How the audits of one sheet depend on the type map and the rules. -/
structure Independent (settings : Settings) (data : Sheet)
    (audited : TypeMap → List Rule → Summary) : Prop where
  succeeds : ∀ typeMap rules,
    settings.audit data typeMap rules = .ok (audited typeMap rules)
  ruleByRule : ∀ typeMap first second index,
    (audited typeMap (first ++ second)).violationsAt .condition index =
      (audited typeMap first).violationsAt .condition index ++
        (audited typeMap second).violationsAt .condition index
  conditionsAlone : ∀ typeMap other rules,
    (audited typeMap rules).violationsIn .condition =
      (audited other rules).violationsIn .condition
  typesAlone : ∀ typeMap rules other,
    (audited typeMap rules).violationsIn .dataType =
      (audited typeMap other).violationsIn .dataType ∧
      (audited typeMap rules).types.valid = (audited typeMap other).types.valid
  columnByColumn : ∀ (first second : List (String × ExpectedType)) rules,
    (∀ column ∈ (ColumnMap.ofList first).keys,
      column ∉ (ColumnMap.ofList second).keys) → ∀ index,
    (audited ((ColumnMap.ofList first).followedBy (ColumnMap.ofList second))
      rules).violationsAt
        .dataType index =
      (audited (ColumnMap.ofList first) rules).violationsAt .dataType index ++
        (audited (ColumnMap.ofList second) rules).violationsAt .dataType index

variable {settings : Settings} {data : Sheet}

theorem violationsAt_condition (settings : Settings) (data : Sheet)
    (typeMap : TypeMap) (rules : List Rule) (index : Nat) :
    (settings.summaryOf data typeMap rules).violationsAt .condition index =
      ((data.rows.map (settings.rowOf data.headers))[index]?.map
        ((RuleCheck.prepare rules data.headers settings.claimColumn).violations
          index)).getD [] := by
  rw [Summary.violationsAt, violationsIn_summaryOf]
  exact Tally.filter_row_run (RuleCheck.indexed _) _ index

theorem violationsAt_dataType (settings : Settings) (data : Sheet)
    (typeMap : TypeMap) (rules : List Rule) (index : Nat) :
    (settings.summaryOf data typeMap rules).violationsAt .dataType index =
      ((data.rows.map (settings.rowOf data.headers))[index]?.map
        ((settings.typeCheck typeMap).violations index)).getD [] := by
  rw [Summary.violationsAt, violationsIn_summaryOf]
  exact Tally.filter_row_run (TypeCheck.indexed _) _ index

theorem audit_independent (settings : Settings) (fits : data.Fits) :
    ∃ audited, settings.Independent data audited := by
  refine ⟨settings.summaryOf data, fun _ _ => audit_of_fits fits, ?_,
    ?_, ?_, ?_⟩
  · intro typeMap first second index
    simp only [violationsAt_condition]
    cases (data.rows.map (settings.rowOf data.headers))[index]? with
    | none => rfl
    | some row =>
        exact RuleCheck.violations_prepare_append first second _ _ index row
  · intro typeMap other rules
    rw [violationsIn_summaryOf, violationsIn_summaryOf]
    rfl
  · intro typeMap rules other
    rw [violationsIn_summaryOf, violationsIn_summaryOf]
    exact ⟨rfl, rfl⟩
  · intro first second rules apart index
    simp only [violationsAt_dataType]
    cases (data.rows.map (settings.rowOf data.headers))[index]? with
    | none => rfl
    | some row =>
        exact TypeCheck.violations_followedBy (ColumnMap.canonical_ofList first)
          (ColumnMap.canonical_ofList second) apart index row

theorem audit_independent_two_rows :
    Sheet.Fits ⟨"Input", ["Claim No", "Amount"],
      [[.text "C1", .text "n/a"], [.text "C2"]]⟩ ∧
      ∃ audited, Settings.Independent {}
        ⟨"Input", ["Claim No", "Amount"],
          [[.text "C1", .text "n/a"], [.text "C2"]]⟩ audited := by
  have fits : Sheet.Fits
      ⟨"Input", ["Claim No", "Amount"],
        [[.text "C1", .text "n/a"], [.text "C2"]]⟩ :=
    List.forall_mem_cons.mpr
      ⟨Nat.le_refl 2, List.forall_mem_singleton.mpr (Nat.le_succ 1)⟩
  exact ⟨fits, audit_independent {} fits⟩

end Settings

end RowAudit
