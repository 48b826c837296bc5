import RowAudit.Proofs.Sheet.Fit

/-!
Auditing rows in batches. A row is checked by itself, wherever it stands, so the
audit of two batches in a row is the audits of the two put together, with the
rows of the second counted on from the first.
-/

namespace RowAudit

/-- The same violation of a row that stands so many rows further down. -/
def Violation.down (offset : Nat) (violation : Violation) : Violation :=
  { violation with row := violation.row + offset }

namespace Tally

def join (first : Tally) (offset : Nat) (second : Tally) : Tally where
  valid := first.valid + second.valid
  invalid := first.invalid + second.invalid
  violations := first.violations ++ second.violations.map (.down offset)

/-- A check that finds the same in a row wherever the row stands. -/
def Uniform (check : Nat → Row → List Violation) : Prop :=
  ∀ index offset row,
    check (index + offset) row = (check index row).map (.down offset)

theorem ofRows_append (first second : List (List Violation)) :
    ofRows (first ++ second) =
      { valid := (ofRows first).valid + (ofRows second).valid
        invalid := (ofRows first).invalid + (ofRows second).invalid
        violations :=
          (ofRows first).violations ++ (ofRows second).violations } := by
  simp only [ofRows, List.countP_append, List.flatten_append]

theorem ofRows_map_down (offset : Nat) (found : List (List Violation)) :
    ofRows (found.map (List.map (.down offset))) =
      { ofRows found with
        violations := (ofRows found).violations.map (.down offset) } := by
  have empty :
      List.isEmpty ∘ List.map (Violation.down offset) = List.isEmpty := by
    funext violations
    exact List.isEmpty_map
  have filled : (fun violations => !List.isEmpty violations) ∘
      List.map (Violation.down offset) =
      fun violations => !List.isEmpty violations := by
    funext violations
    exact congrArg not List.isEmpty_map
  simp only [ofRows, List.countP_map, empty, filled, List.map_flatten]

theorem run_eq_ofRows (check : Nat → Row → List Violation) (rows : List Row) :
    run check rows =
      ofRows (rows.zipIdx.map fun entry => check entry.2 entry.1) :=
  rfl

theorem run_append {check : Nat → Row → List Violation}
    (uniform : Uniform check) (first second : List Row) :
    run check (first ++ second) =
      (run check first).join first.length (run check second) := by
  have later :
      (second.zipIdx first.length).map (fun entry => check entry.2 entry.1) =
      (second.zipIdx.map fun entry => check entry.2 entry.1).map
        (List.map (.down first.length)) := by
    rw [List.zipIdx_eq_map_add, List.map_map, List.map_map]
    apply List.map_congr_left
    intro entry _
    change check (first.length + entry.2) entry.1 = _
    rw [Nat.add_comm]
    exact uniform entry.2 first.length entry.1
  rw [run_eq_ofRows, List.zipIdx_append, List.map_append, ofRows_append,
    Nat.zero_add, later, ofRows_map_down]
  rfl

theorem run_map_append {check : Nat → Row → List Violation}
    (uniform : Uniform check) (rowOf : List Cell → Row)
    (first second : List (List Cell)) :
    run check ((first ++ second).map rowOf) =
      (run check (first.map rowOf)).join first.length
        (run check (second.map rowOf)) := by
  rw [List.map_append, run_append uniform, List.length_map]

end Tally

theorem TypeCheck.uniform (check : TypeCheck) :
    Tally.Uniform check.violations := by
  intro index offset row
  rw [violations, violations, List.map_filterMap]
  congr 1
  funext entry
  simp only [columnViolation?]
  split
  · rfl
  · rfl

theorem RuleCheck.uniform (check : RuleCheck) :
    Tally.Uniform check.violations := by
  intro index offset row
  rw [violations, violations, List.map_filterMap]
  congr 1
  funext rule
  rw [Option.map_map]
  rfl

namespace Sheet

variable {name : String} {headers : List String}
  {first second : List (List Cell)}

theorem fits_append :
    (⟨name, headers, first ++ second⟩ : Sheet).Fits ↔
      (⟨name, headers, first⟩ : Sheet).Fits ∧
        (⟨name, headers, second⟩ : Sheet).Fits :=
  List.forall_mem_append

theorem FirstWide.append {index : Nat} {cells : List Cell}
    (wide : (⟨name, headers, first⟩ : Sheet).FirstWide index cells) :
    (⟨name, headers, first ++ second⟩ : Sheet).FirstWide index cells := by
  obtain ⟨found, wide, earlier⟩ := wide
  have within : index < first.length := (List.getElem?_eq_some_iff.mp found).1
  refine ⟨(List.getElem?_append_left within).trans found, wide, ?_⟩
  intro other member
  rw [List.take_append_of_le_length (Nat.le_of_lt within)] at member
  exact earlier other member

theorem FirstWide.behind {index : Nat} {cells : List Cell}
    (fits : (⟨name, headers, first⟩ : Sheet).Fits)
    (wide : (⟨name, headers, second⟩ : Sheet).FirstWide index cells) :
    (⟨name, headers, first ++ second⟩ : Sheet).FirstWide
      (index + first.length) cells := by
  obtain ⟨found, wide, earlier⟩ := wide
  refine ⟨?_, wide, ?_⟩
  · rw [List.getElem?_append_right (Nat.le_add_left ..), Nat.add_sub_cancel]
    exact found
  · intro other member
    rw [List.take_append, List.take_of_length_le (Nat.le_add_left ..),
      Nat.add_sub_cancel] at member
    rcases List.mem_append.mp member with inFirst | inSecond
    · exact fits other inFirst
    · exact earlier other inSecond

end Sheet

structure Summary.Joins (offset : Nat) (first second whole : Summary) :
    Prop where
  total : whole.total = first.total + second.total
  valid : whole.types.valid = first.types.valid + second.types.valid
  invalid : whole.invalid = first.invalid + second.invalid
  invalidIn : ∀ category,
    (whole.count category).invalid =
      (first.count category).invalid + (second.count category).invalid
  conditionValid :
    whole.conditions.valid = first.conditions.valid + second.conditions.valid
  violationsIn : ∀ category, whole.violationsIn category =
    first.violationsIn category ++ (second.violationsIn category).map
      (.down offset)

namespace Settings

/-- How the audits of two batches, the first of so many rows, make up the audit
of both together. -/
inductive Composes (offset : Nat) :
    Except Fault Summary → Except Fault Summary → Except Fault Summary → Prop
  | firstFails (fault : Fault) (second : Except Fault Summary) :
      Composes offset (.error fault) second (.error fault)
  | secondFails (first : Summary) (row cells headers : Nat) :
      Composes offset (.ok first) (.error (.malformedRow row cells headers))
        (.error (.malformedRow (row + offset) cells headers))
  | bothSucceed {first second whole : Summary}
      (joins : Summary.Joins offset first second whole) :
      Composes offset (.ok first) (.ok second) (.ok whole)

variable {settings : Settings} {headers : List String} {typeMap : TypeMap}
  {rules : List Rule}

theorem joins_of_audits {name : String} {first second : List (List Cell)}
    {left right whole : Summary}
    (leftAudit : settings.audit ⟨name, headers, first⟩ typeMap rules = .ok left)
    (rightAudit : settings.audit ⟨name, headers, second⟩ typeMap rules =
      .ok right) (wholeAudit :
      settings.audit ⟨name, headers, first ++ second⟩ typeMap rules =
        .ok whole) : Summary.Joins first.length left right whole := by
  have leftFits := exists_audit_eq_ok_iff.mp ⟨_, leftAudit⟩
  have rightFits := exists_audit_eq_ok_iff.mp ⟨_, rightAudit⟩
  have total : whole.total = left.total + right.total := by
    rw [(audit_sound leftAudit).total, (audit_sound rightAudit).total,
      (audit_sound wholeAudit).total]
    exact List.length_append
  have joined (category : Category) : whole.tally category =
      (left.tally category).join first.length (right.tally category) := by
    rw [audit_of_fits leftFits, Except.ok.injEq] at leftAudit
    rw [audit_of_fits rightFits, Except.ok.injEq] at rightAudit
    rw [audit_of_fits (Sheet.fits_append.mpr ⟨leftFits, rightFits⟩),
      Except.ok.injEq] at wholeAudit
    subst leftAudit rightAudit wholeAudit
    rw [tally_summaryOf, tally_summaryOf, tally_summaryOf]
    cases category with
    | dataType =>
        exact Tally.run_map_append (TypeCheck.uniform _)
          (settings.rowOf headers) first second
    | condition =>
        exact Tally.run_map_append (RuleCheck.uniform _)
          (settings.rowOf headers) first second
  have valid (category : Category) : (whole.count category).valid =
      (left.count category).valid + (right.count category).valid :=
    congrArg (·.valid) (joined category)
  have invalid (category : Category) : (whole.count category).invalid =
      (left.count category).invalid + (right.count category).invalid :=
    congrArg (·.invalid) (joined category)
  refine ⟨total, valid .dataType, ?_, invalid, valid .condition, ?_⟩
  · rw [(audit_sound leftAudit).invalid, (audit_sound rightAudit).invalid,
      (audit_sound wholeAudit).invalid, invalid, invalid]
    omega
  · exact fun category => congrArg Tally.violations (joined category)

theorem audit_append (settings : Settings) (name : String)
    (headers : List String) (typeMap : TypeMap) (rules : List Rule)
    (first second : List (List Cell)) :
    Composes first.length
      (settings.audit ⟨name, headers, first⟩ typeMap rules)
      (settings.audit ⟨name, headers, second⟩ typeMap rules)
      (settings.audit ⟨name, headers, first ++ second⟩ typeMap rules) := by
  cases firstAudit : settings.audit ⟨name, headers, first⟩ typeMap rules with
  | error fault =>
      obtain ⟨index, cells, wide, same⟩ := audit_eq_error_iff.mp firstAudit
      rw [audit_eq_error_iff.mpr ⟨index, cells, wide.append, same⟩]
      exact .firstFails fault _
  | ok firstSummary =>
      have firstFits := exists_audit_eq_ok_iff.mp ⟨_, firstAudit⟩
      cases secondAudit :
        settings.audit ⟨name, headers, second⟩ typeMap rules with
      | error fault =>
          obtain ⟨index, cells, wide, rfl⟩ := audit_eq_error_iff.mp secondAudit
          rw [audit_eq_error_iff.mpr ⟨_, cells, wide.behind firstFits, rfl⟩]
          exact .secondFails firstSummary index cells.length headers.length
      | ok secondSummary =>
          have secondFits := exists_audit_eq_ok_iff.mp ⟨_, secondAudit⟩
          obtain ⟨whole, wholeAudit⟩ := exists_audit_eq_ok_iff.mpr
            (Sheet.fits_append.mpr ⟨firstFits, secondFits⟩)
          rw [wholeAudit]
          exact .bothSucceed (joins_of_audits firstAudit secondAudit wholeAudit)

end Settings

end RowAudit
