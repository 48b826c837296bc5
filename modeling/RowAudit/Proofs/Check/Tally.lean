import Mathlib.Data.List.Induction
import RowAudit.Check.Rules
import RowAudit.Check.Types

namespace RowAudit

namespace Tally

def record (tally : Tally) (found : List Violation) : Tally :=
  if found = [] then { tally with valid := tally.valid + 1 }
  else
    { tally with
      invalid := tally.invalid + 1
      violations := tally.violations ++ found }

theorem record_nil (tally : Tally) :
    tally.record [] = { tally with valid := tally.valid + 1 } := rfl

theorem record_of_ne_nil (tally : Tally) {found : List Violation}
    (some : found ≠ []) :
    tally.record found =
      { tally with
        invalid := tally.invalid + 1
        violations := tally.violations ++ found } := by
  rw [record, if_neg some]

theorem ofRows_concat (earlier : List (List Violation))
    (found : List Violation) :
    ofRows (earlier ++ [found]) = (ofRows earlier).record found := by
  by_cases none : found = []
  · subst none
    simp [ofRows, record_nil]
  · simp [ofRows, record_of_ne_nil _ none, none]

theorem run_concat (check : Nat → Row → List Violation) (rows : List Row)
    (row : Row) :
    run check (rows ++ [row]) =
      (run check rows).record (check rows.length row) := by
  rw [run, run, List.zipIdx_append, List.map_append]
  simpa using ofRows_concat _ _

/-- What holds of a tally of `count` rows. The rows at fault are as many as were
counted invalid. -/
structure Balanced (tally : Tally) (count : Nat) : Prop where
  counted : tally.valid + tally.invalid = count
  ascending : (tally.violations.map Violation.row).Pairwise (· ≤ ·)
  bounded : ∀ violation ∈ tally.violations, violation.row < count
  faulty : ∃ faulty : List Nat,
    faulty.Pairwise (· < ·) ∧ faulty.length = tally.invalid ∧
    ∀ index, index ∈ faulty ↔ ∃ violation ∈ tally.violations,
      violation.row = index

theorem balanced_zero : (⟨⟨0, 0⟩, []⟩ : Tally).Balanced 0 :=
  ⟨rfl, List.Pairwise.nil, by simp, [], List.Pairwise.nil, rfl, by simp⟩

namespace Balanced

variable {count : Nat} {tally : Tally}

theorem record_valid (balanced : tally.Balanced count) :
    ({ tally with valid := tally.valid + 1 } : Tally).Balanced (count + 1) where
  counted := by
    have := balanced.counted
    simp only
    omega
  ascending := balanced.ascending
  bounded violation member :=
    Nat.lt_succ_of_lt (balanced.bounded violation member)
  faulty := balanced.faulty

theorem ascending_append (balanced : tally.Balanced count)
    {found : List Violation}
    (indexed : ∀ violation ∈ found, violation.row = count) :
    ((tally.violations ++ found).map Violation.row).Pairwise (· ≤ ·) := by
  rw [List.map_append, List.pairwise_append]
  refine ⟨balanced.ascending, ?_, ?_⟩
  · rw [List.pairwise_map]
    refine List.pairwise_of_forall_mem_list ?_
    intro left leftMember right rightMember
    exact Nat.le_of_eq
      ((indexed left leftMember).trans (indexed right rightMember).symm)
  · intro left leftMember right rightMember
    obtain ⟨violation, member, rfl⟩ := List.mem_map.mp leftMember
    obtain ⟨other, otherMember, rfl⟩ := List.mem_map.mp rightMember
    rw [indexed other otherMember]
    exact Nat.le_of_lt (balanced.bounded violation member)

theorem exists_row_append_iff {violations found : List Violation}
    (nonempty : found ≠ [])
    (indexed : ∀ violation ∈ found, violation.row = count) (index : Nat) :
    (∃ violation ∈ violations ++ found, violation.row = index) ↔
      (∃ violation ∈ violations, violation.row = index) ∨ index = count := by
  constructor
  · intro present
    obtain ⟨violation, member, same⟩ := present
    rcases List.mem_append.mp member with earlier | last
    · exact .inl ⟨violation, earlier, same⟩
    · exact .inr (same.symm.trans (indexed violation last))
  · intro present
    rcases present with ⟨violation, member, same⟩ | rfl
    · exact ⟨violation, List.mem_append_left _ member, same⟩
    · obtain ⟨first, member⟩ := List.exists_mem_of_ne_nil found nonempty
      exact ⟨first, List.mem_append_right _ member, indexed first member⟩

theorem record_invalid (balanced : tally.Balanced count)
    {found : List Violation} (nonempty : found ≠ [])
    (indexed : ∀ violation ∈ found, violation.row = count) :
    ({ tally with
        invalid := tally.invalid + 1
        violations :=
          tally.violations ++ found } : Tally).Balanced (count + 1) where
  counted := by
    have := balanced.counted
    simp only
    omega
  ascending := balanced.ascending_append indexed
  bounded violation member := by
    rcases List.mem_append.mp member with earlier | last
    · exact Nat.lt_succ_of_lt (balanced.bounded violation earlier)
    · rw [indexed violation last]
      exact Nat.lt_succ_self count
  faulty := by
    obtain ⟨faulty, ascending, length, members⟩ := balanced.faulty
    refine ⟨faulty ++ [count], ?_, by simp [length], ?_⟩
    · rw [List.pairwise_append]
      refine ⟨ascending, List.pairwise_singleton .., ?_⟩
      intro index member last lastMember
      obtain ⟨violation, violationMember, rfl⟩ := (members index).mp member
      obtain rfl := List.mem_singleton.mp lastMember
      exact balanced.bounded violation violationMember
    · intro index
      rw [exists_row_append_iff nonempty indexed, List.mem_append, members,
        List.mem_singleton]

theorem record (balanced : tally.Balanced count) {found : List Violation}
    (indexed : ∀ violation ∈ found, violation.row = count) :
    (tally.record found).Balanced (count + 1) := by
  by_cases none : found = []
  · subst none
    exact balanced.record_valid
  · rw [record_of_ne_nil tally none]
    exact balanced.record_invalid none indexed

end Balanced

/-- A check that reports every violation under the index of its row keeps a
balanced tally. -/
theorem run_balanced {check : Nat → Row → List Violation}
    (indexed : ∀ index row, ∀ violation ∈ check index row,
      violation.row = index) (rows : List Row) :
    (run check rows).Balanced rows.length := by
  induction rows using List.reverseRecOn with
  | nil => exact balanced_zero
  | append_singleton rows row ih =>
      rw [run_concat, List.length_append, List.length_singleton]
      exact ih.record (indexed rows.length row)

theorem mem_violations_run {check : Nat → Row → List Violation}
    {rows : List Row} {violation : Violation} :
    violation ∈ (run check rows).violations ↔
      ∃ row index, (row, index) ∈ rows.zipIdx ∧
        violation ∈ check index row := by
  simp only [run, ofRows, List.mem_flatten, List.mem_map]
  constructor
  · intro found
    obtain ⟨_, ⟨⟨row, index⟩, member, rfl⟩, found⟩ := found
    exact ⟨row, index, member, found⟩
  · intro found
    obtain ⟨row, index, member, found⟩ := found
    exact ⟨_, ⟨(row, index), member, rfl⟩, found⟩

end Tally

namespace TypeCheck

variable {check : TypeCheck} {rows : List Row} {violation : Violation}

theorem shape_of_mem {index : Nat} {row : Row}
    (member : violation ∈ check.violations index row) :
    violation.row = index ∧ violation.category = .dataType := by
  obtain ⟨⟨column, expected⟩, -, found⟩ := List.mem_filterMap.mp member
  simp only [columnViolation?] at found
  split at found
  · cases found
  · obtain rfl := Option.some.inj found
    exact ⟨rfl, rfl⟩

theorem balanced_tally (check : TypeCheck) (rows : List Row) :
    (check.tally rows).Balanced rows.length :=
  Tally.run_balanced (fun _ _ _ member => (shape_of_mem member).1) rows

theorem category_of_mem_tally
    (member : violation ∈ (check.tally rows).violations) :
    violation.category = .dataType := by
  obtain ⟨row, index, -, found⟩ := Tally.mem_violations_run.mp member
  exact (shape_of_mem found).2

end TypeCheck

namespace RuleCheck

variable {check : RuleCheck} {rows : List Row} {violation : Violation}

theorem shape_of_mem {index : Nat} {row : Row}
    (member : violation ∈ check.violations index row) :
    violation.row = index ∧ violation.category = .condition := by
  obtain ⟨rule, -, found⟩ := List.mem_filterMap.mp member
  obtain ⟨condition, -, rfl⟩ := Option.map_eq_some_iff.mp found
  exact ⟨rfl, rfl⟩

theorem balanced_tally (check : RuleCheck) (rows : List Row) :
    (check.tally rows).Balanced rows.length :=
  Tally.run_balanced (fun _ _ _ member => (shape_of_mem member).1) rows

theorem category_of_mem_tally
    (member : violation ∈ (check.tally rows).violations) :
    violation.category = .condition := by
  obtain ⟨row, index, -, found⟩ := Tally.mem_violations_run.mp member
  exact (shape_of_mem found).2

end RuleCheck

end RowAudit
