import Mathlib.Algebra.Ring.Nat
import Mathlib.Data.List.Sort
import RowAudit.Audit
import RowAudit.Proofs.Check.Tally

/-!
The books of an audit. The rows at fault are collected from the violations, and
the rows that are counted invalid are counted as they are checked; the two come
to the same.
-/

namespace RowAudit

/-! Ascending lists without repetitions. -/

private theorem eraseRepsBy_loop (a : Nat) (rest seen : List Nat) :
    List.eraseRepsBy.loop (· == ·) a rest seen =
      seen.reverse ++ List.eraseRepsBy.loop (· == ·) a rest [] := by
  induction rest generalizing a seen with
  | nil => simp [List.eraseRepsBy.loop]
  | cons b rest ih =>
      simp only [List.eraseRepsBy.loop]
      split
      · exact ih a seen
      · rw [ih b (a :: seen), ih b [a]]
        simp

theorem eraseReps_cons_cons (a b : Nat) (rest : List Nat) :
    (a :: b :: rest).eraseReps =
      if a = b then (b :: rest).eraseReps else a :: (b :: rest).eraseReps := by
  simp only [List.eraseReps, List.eraseRepsBy, List.eraseRepsBy.loop]
  by_cases same : a = b
  · subst same
    simp
  · rw [if_neg same, beq_false_of_ne same]
    exact eraseRepsBy_loop b rest [a]

theorem mem_eraseReps {index : Nat} {rows : List Nat} :
    index ∈ rows.eraseReps ↔ index ∈ rows := by
  induction rows with
  | nil => rfl
  | cons a rest ih =>
      cases rest with
      | nil => rfl
      | cons b rest =>
          rw [eraseReps_cons_cons]
          split
          · next same => simp [ih, same]
          · simp only [List.mem_cons, ih]

theorem pairwise_lt_eraseReps {rows : List Nat}
    (ascending : rows.Pairwise (· ≤ ·)) : rows.eraseReps.Pairwise (· < ·) := by
  induction rows with
  | nil => exact List.Pairwise.nil
  | cons a rest ih =>
      cases rest with
      | nil => exact List.pairwise_singleton ..
      | cons b rest =>
          obtain ⟨least, later⟩ := List.pairwise_cons.mp ascending
          rw [eraseReps_cons_cons]
          split
          · exact ih later
          · next different =>
              refine List.pairwise_cons.mpr ⟨?_, ih later⟩
              intro index member
              have first := least b List.mem_cons_self
              rcases List.mem_cons.mp (mem_eraseReps.mp member) with
                rfl | behind
              · omega
              · have := (List.pairwise_cons.mp later).1 index behind
                omega

theorem eq_of_ascending {left right : List Nat}
    (leftAscending : left.Pairwise (· < ·))
    (rightAscending : right.Pairwise (· < ·))
    (same : ∀ index, index ∈ left ↔ index ∈ right) : left = right := by
  have perm : left.Perm right :=
    (List.perm_ext_iff_of_nodup leftAscending.nodup rightAscending.nodup).mpr
      fun {a} => same a
  exact perm.eq_of_pairwise
    (fun _ _ _ _ before after => absurd before (lt_asymm after))
    leftAscending rightAscending

namespace Summary

variable {summary : Summary} {category : Category}

theorem pairwise_lt_rowsIn (summary : Summary) (category : Category) :
    (summary.rowsIn category).Pairwise (· < ·) := by
  apply pairwise_lt_eraseReps
  have sorted := @List.pairwise_mergeSort _ (fun a b : Nat => decide (a ≤ b))
    (fun _ _ _ => by simpa using Nat.le_trans)
    (fun a b => by simpa using Nat.le_total a b)
    ((summary.violationsIn category).map Violation.row)
  exact sorted.imp fun le => by simpa using le

theorem mem_rowsIn {index : Nat} :
    index ∈ summary.rowsIn category ↔
      ∃ violation ∈ summary.violations,
        violation.category = category ∧ violation.row = index := by
  simp [rowsIn, violationsIn, mem_eraseReps, and_assoc]

/-! Merging the outcomes of the checks. -/

def tally (summary : Summary) (category : Category) : Tally :=
  ⟨summary.count category, summary.violationsIn category⟩

theorem mem_violations_tally {violation : Violation} :
    violation ∈ (summary.tally category).violations ↔
      violation ∈ summary.violations ∧ violation.category = category := by
  rw [tally, violationsIn, List.mem_filter, decide_eq_true_eq]

section

variable (outcome : Category → Tally) (categories : List Category)

theorem total_mergeAll (summary : Summary) :
    (summary.mergeAll outcome categories).total = summary.total := by
  induction categories generalizing summary with
  | nil => rfl
  | cons own rest ih =>
      refine (ih (summary.merge own (outcome own))).trans ?_
      cases own <;> rfl

/-- The rows that some check found invalid are counted once for each. -/
theorem invalid_mergeAll (summary : Summary) :
    (summary.mergeAll outcome categories).invalid =
      summary.invalid +
        (categories.map fun own => (outcome own).invalid).sum := by
  induction categories generalizing summary with
  | nil => rfl
  | cons own rest ih =>
      refine (ih (summary.merge own (outcome own))).trans ?_
      rw [merge, List.map_cons, List.sum_cons, Nat.add_assoc]

theorem violations_mergeAll (summary : Summary) :
    (summary.mergeAll outcome categories).violations =
      summary.violations ++
        categories.flatMap fun own => (outcome own).violations := by
  induction categories generalizing summary with
  | nil => exact (List.append_nil _).symm
  | cons own rest ih =>
      refine (ih (summary.merge own (outcome own))).trans ?_
      rw [merge, List.flatMap_cons, List.append_assoc]

theorem count_merge (summary : Summary) (own : Category) (found : Tally) :
    (summary.merge own found).count category =
      if own = category then found.toCount else summary.count category := by
  cases own <;> cases category <;> rfl

theorem count_mergeAll (summary : Summary) :
    (summary.mergeAll outcome categories).count category =
      if category ∈ categories then (outcome category).toCount
      else summary.count category := by
  induction categories generalizing summary with
  | nil => rfl
  | cons own rest ih =>
      refine (ih (summary.merge own (outcome own))).trans ?_
      rw [count_merge]
      by_cases later : category ∈ rest
      · rw [if_pos later, if_pos (List.mem_cons_of_mem own later)]
      · by_cases same : own = category
        · subst same
          rw [if_neg later, if_pos rfl, if_pos List.mem_cons_self]
        · have absent : category ∉ own :: rest := by
            simp [later, Ne.symm same]
          rw [if_neg later, if_neg same, if_neg absent]

end

theorem invalid_merged (total : Nat) (outcome : Category → Tally) :
    (merged total outcome).invalid =
      (outcome .dataType).invalid + (outcome .condition).invalid := by
  rw [merged, invalid_mergeAll]
  exact Nat.zero_add _

theorem violations_merged (total : Nat) (outcome : Category → Tally) :
    (merged total outcome).violations =
      (outcome .dataType).violations ++ (outcome .condition).violations := by
  rw [merged, violations_mergeAll, List.flatMap_cons, List.flatMap_singleton]
  exact List.nil_append _

theorem count_merged (total : Nat) (outcome : Category → Tally)
    (category : Category) :
    (merged total outcome).count category = (outcome category).toCount := by
  have member : category ∈ [Category.dataType, .condition] := by
    cases category <;> decide
  rw [merged, count_mergeAll, if_pos member]

section

variable {outcome : Category → Tally}
  (categorized : ∀ own, ∀ violation ∈ (outcome own).violations,
    violation.category = own)
include categorized

theorem violationsIn_merged (total : Nat) (category : Category) :
    (merged total outcome).violationsIn category =
      (outcome category).violations := by
  have kept (own : Category) :
      (outcome own).violations.filter (fun v => v.category = category) =
        if own = category then (outcome own).violations else [] := by
    split
    · next same =>
        rw [List.filter_eq_self]
        intro violation member
        simp [categorized own violation member, same]
    · next other =>
        rw [List.filter_eq_nil_iff]
        intro violation member
        simp [categorized own violation member, other]
  rw [violationsIn, violations_merged, List.filter_append, kept, kept]
  cases category with
  | dataType => exact List.append_nil _
  | condition => exact List.nil_append _

theorem tally_merged (total : Nat) (category : Category) :
    (merged total outcome).tally category = outcome category := by
  rw [tally, count_merged, violationsIn_merged categorized]

end

/-- What the books of an audit of `count` rows have to show. -/
structure Accounts (summary : Summary) (count : Nat) : Prop where
  total : summary.total = count
  types : summary.types.valid + summary.types.invalid = count
  conditions : summary.conditions.valid + summary.conditions.invalid = count
  invalid : summary.invalid =
    (summary.count .dataType).invalid + (summary.count .condition).invalid
  blocks : ∃ first second, summary.violations = first ++ second ∧
    (∀ violation ∈ first, violation.category = .dataType) ∧
    (∀ violation ∈ second, violation.category = .condition) ∧
    (first.map Violation.row).Pairwise (· ≤ ·) ∧
    (second.map Violation.row).Pairwise (· ≤ ·)
  bounded : ∀ violation ∈ summary.violations, violation.row < count
  ascending : ∀ category, (summary.rowsIn category).Pairwise (· < ·)
  length : ∀ category,
    (summary.rowsIn category).length = (summary.count category).invalid
  members : ∀ category index, index ∈ summary.rowsIn category ↔
    ∃ violation ∈ summary.violations,
      violation.category = category ∧ violation.row = index

/-- Merged from the two tallies it tells of, which are balanced. -/
structure Sound (summary : Summary) (count : Nat) : Prop where
  total : summary.total = count
  invalid : summary.invalid =
    (summary.count .dataType).invalid + (summary.count .condition).invalid
  violations : summary.violations =
    summary.violationsIn .dataType ++ summary.violationsIn .condition
  balanced : ∀ category, (summary.tally category).Balanced count

namespace Sound

variable {count : Nat}

theorem length_rowsIn (sound : summary.Sound count) (category : Category) :
    (summary.rowsIn category).length = (summary.count category).invalid := by
  obtain ⟨faulty, ascending, length, members⟩ :=
    (sound.balanced category).faulty
  have same : summary.rowsIn category = faulty := by
    refine eq_of_ascending (pairwise_lt_rowsIn summary category) ascending
      fun index => ?_
    simp only [mem_rowsIn, members, mem_violations_tally, and_assoc]
  rw [same, length]
  rfl

theorem accounts (sound : summary.Sound count) : summary.Accounts count where
  total := sound.total
  types := (sound.balanced .dataType).counted
  conditions := (sound.balanced .condition).counted
  invalid := sound.invalid
  blocks := ⟨_, _, sound.violations,
    fun _ member => (mem_violations_tally.mp member).2,
    fun _ member => (mem_violations_tally.mp member).2,
    (sound.balanced .dataType).ascending, (sound.balanced .condition).ascending⟩
  bounded violation member :=
    (sound.balanced violation.category).bounded violation
      (mem_violations_tally.mpr ⟨member, rfl⟩)
  ascending := pairwise_lt_rowsIn summary
  length := sound.length_rowsIn
  members _ _ := mem_rowsIn

end Sound

end Summary

namespace Settings

variable {settings : Settings} {data : Sheet} {typeMap : TypeMap}
  {rules : List Rule} {summary : Summary}

theorem length_of_rows_eq_ok {rows : List Row}
    (read : settings.rows data = .ok rows) :
    rows.length = data.rows.length := by
  simp only [Settings.rows] at read
  split at read
  · cases read
  · obtain rfl := Except.ok.inj read
    simp

theorem audit_eq_ok_iff :
    settings.audit data typeMap rules = .ok summary ↔
      ∃ rows, settings.rows data = .ok rows ∧
        Summary.merged rows.length
          (settings.tally data.headers typeMap rules rows) = summary := by
  simp only [audit]
  cases settings.rows data with
  | error fault => simp [bind, Except.bind]
  | ok rows => simp [bind, Except.bind, pure, Except.pure]

theorem balanced_tally (settings : Settings) (headers : List String)
    (typeMap : TypeMap) (rules : List Rule) (rows : List Row)
    (category : Category) :
    (settings.tally headers typeMap rules rows category).Balanced
      rows.length := by
  cases category with
  | dataType => exact TypeCheck.balanced_tally _ rows
  | condition => exact RuleCheck.balanced_tally _ rows

theorem category_of_mem_tally {headers : List String} {rows : List Row} :
    ∀ category, ∀ violation ∈
        (settings.tally headers typeMap rules rows category).violations,
      violation.category = category := by
  intro category violation member
  cases category with
  | dataType => exact TypeCheck.category_of_mem_tally member
  | condition => exact RuleCheck.category_of_mem_tally member

theorem sound_merged (settings : Settings) (headers : List String)
    (typeMap : TypeMap) (rules : List Rule) (rows : List Row) :
    (Summary.merged rows.length
      (settings.tally headers typeMap rules rows)).Sound rows.length where
  total := Summary.total_mergeAll ..
  invalid := by
    rw [Summary.invalid_merged, Summary.count_merged, Summary.count_merged]
  violations := by
    rw [Summary.violations_merged,
      Summary.violationsIn_merged category_of_mem_tally,
      Summary.violationsIn_merged category_of_mem_tally]
  balanced category := by
    rw [Summary.tally_merged category_of_mem_tally]
    exact balanced_tally settings headers typeMap rules rows category

theorem audit_sound
    (audited : settings.audit data typeMap rules = .ok summary) :
    summary.Sound data.rows.length := by
  obtain ⟨rows, read, rfl⟩ := audit_eq_ok_iff.mp audited
  rw [← length_of_rows_eq_ok read]
  exact sound_merged settings data.headers typeMap rules rows

theorem audit_accounts
    (audited : settings.audit data typeMap rules = .ok summary) :
    summary.Accounts data.rows.length :=
  (audit_sound audited).accounts

theorem exists_audit_accounts_two_rows :
    ∃ summary : Summary,
      Settings.audit {}
        ⟨"Input", ["Claim No", "Amount"],
          [[.text "C1", .text "100"], [.text "C2", .text "n/a"]]⟩
        ((ColumnMap.empty).insert "Amount" .number)
        [⟨"1", "amount present", ["claimno!=''", "amount>0"]⟩] = .ok summary ∧
      summary.Accounts 2 :=
  Exists.imp (fun _ audited => ⟨audited, audit_accounts audited⟩) ⟨_, rfl⟩

end Settings

end RowAudit
