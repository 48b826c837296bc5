import RowAudit.Proofs.Check.Comparison
import RowAudit.Proofs.Sheet.Columns
import RowAudit.Proofs.Text.LetterCase

namespace RowAudit

namespace Cell

/-- One and the same cell, or texts that differ in the case of ASCII letters
alone. -/
inductive SameButCase : Cell → Cell → Prop
  | same (cell : Cell) : SameButCase cell cell
  | text {value other : String} (alike : Text.SameButCase value other) :
      SameButCase (.text value) (.text other)

namespace SameButCase

variable {cell other : Cell}

theorem symm (alike : cell.SameButCase other) : other.SameButCase cell := by
  cases alike with
  | same => exact .same cell
  | text alike => exact .text alike.symm

theorem ofCell_eq (alike : cell.SameButCase other) :
    Condition.Value.ofCell cell = Condition.Value.ofCell other := by
  cases alike with
  | same => rfl
  | text alike => exact congrArg Condition.Value.text alike.lower_eq

theorem classify_eq (alike : cell.SameButCase other) (flagBlankCells : Bool)
    (expected : ExpectedType) :
    cell.classify flagBlankCells expected =
      other.classify flagBlankCells expected := by
  cases alike with
  | same => rfl
  | @text value other alike =>
      have direct : Classification.isDirect (.text value) expected =
          Classification.isDirect (.text other) expected := by
        cases expected <;>
          simp only [Classification.isDirect, alike.allBlank_eq]
      have vacant : isVacant (.text value) = isVacant (.text other) :=
        alike.allBlank_eq
      have general :
          Classification.isGeneral (.text value) =
            Classification.isGeneral (.text other) :=
        Classification.isCode_eq alike
      have remaining : Classification.ofRemaining (.text value) expected =
          Classification.ofRemaining (.text other) expected := by
        cases expected <;> rfl
      rw [classify, classify, direct, vacant, general, remaining]
      rfl

theorem readCell (alike : cell.SameButCase other) (settings : Settings)
    (column : String) :
    (settings.readCell column cell).SameButCase
      (settings.readCell column other) := by
  cases alike with
  | same => exact .same _
  | text alike =>
      unfold Settings.readCell
      split_ifs
      · exact .text alike
      · exact .text alike

theorem getD {cells twins : List Cell}
    (alike : List.Forall₂ SameButCase cells twins) (position : Nat) :
    (cells.getD position .blank).SameButCase (twins.getD position .blank) := by
  induction alike generalizing position with
  | nil => exact .same .blank -- Beyond the last cell both rows are blank.
  | cons here _ ih =>
      cases position with
      | zero => exact here
      | succ position => exact ih position

end SameButCase

end Cell

def Row.SameButCase (row other : Row) : Prop :=
  ∀ column, (row.cell column).SameButCase (other.cell column)

theorem Row.SameButCase.claim? {row other : Row} (alike : row.SameButCase other)
    (column : String) :
    Option.Rel Text.SameButCase (row.claim? column) (other.claim? column) := by
  have same := alike column
  unfold Row.claim?
  generalize row.cell column = cell at same
  generalize other.cell column = twin at same
  cases same with
  | same =>
      cases cell with
      | blank => exact .none
      | _ => exact .some (.refl _)
  | text same => exact .some same

structure Violation.SameButCase (violation other : Violation) : Prop where
  claim : Option.Rel Text.SameButCase violation.claim other.claim
  value : violation.value.SameButCase other.value
  rest : { violation with claim := other.claim, value := other.value } = other

structure Sheet.SameButCase (sheet other : Sheet) : Prop where
  headers : sheet.headers = other.headers
  rows : List.Forall₂ (List.Forall₂ Cell.SameButCase) sheet.rows other.rows

theorem Sheet.SameButCase.widths {sheet other : Sheet}
    (alike : sheet.SameButCase other) :
    sheet.rows.map List.length = other.rows.map List.length := by
  rw [← List.forall₂_eq_eq_eq, List.forall₂_map_left_iff,
    List.forall₂_map_right_iff]
  exact alike.rows.imp fun _ _ cells => cells.length_eq

theorem TypeCheck.columnViolation?_sameButCase {check : TypeCheck}
    {row other : Row} (alike : row.SameButCase other) (index : Nat)
    (column : String) (expected : ExpectedType) :
    Option.Rel Violation.SameButCase
      (check.columnViolation? index row column expected)
      (check.columnViolation? index other column expected) := by
  simp only [columnViolation?, (alike column).classify_eq]
  split_ifs
  · exact .none
  · exact .some ⟨alike.claim? _, alike column, rfl⟩

theorem Rule.Reports.sameButCase {headers : List String} {claimColumn : String}
    {index : Nat} {row other : Row} {rule : Rule} {violation : Violation}
    (alike : row.SameButCase other)
    (reports : rule.Reports headers claimColumn index row violation) :
    ∃ counterpart, rule.Reports headers claimColumn index other counterpart ∧
      violation.SameButCase counterpart := by
  cases reports with
  | mk blamed attributed =>
      have judged (text : String) :
          Condition.judge row text = Condition.judge other text :=
        Condition.judge_congr fun column _ => (alike column).ofCell_eq
      exact ⟨_, .mk (blamed.transfer (fun _ => .rfl) fun text _ => judged text)
        attributed,
        alike.claim? _, alike _, rfl⟩

namespace Settings

variable {settings : Settings} {data other : Sheet} {typeMap : TypeMap}
  {rules : List Rule}

theorem rowOf_sameButCase {headers : List String} {cells twins : List Cell}
    (alike : List.Forall₂ Cell.SameButCase cells twins) :
    (settings.rowOf headers cells).SameButCase
      (settings.rowOf headers twins) := by
  intro column
  rw [Row.cell, Row.cell, get?_rowOf, get?_rowOf]
  cases (headers.zipIdx.filter fun entry =>
    Column.Names entry.1 column).getLast? with
  | none => exact .same .blank
  | some entry =>
      exact (Cell.SameButCase.getD alike entry.2).readCell settings column

theorem summaryOf_sameButCase (alike : data.SameButCase other) :
    (settings.summaryOf data typeMap rules).Matches
      (fun _ => Violation.SameButCase)
      (settings.summaryOf other typeMap rules) := by
  have pairs :
      List.Forall₂ Row.SameButCase (data.rows.map (settings.rowOf data.headers))
      (other.rows.map (settings.rowOf other.headers)) := by
    rw [List.forall₂_map_left_iff, List.forall₂_map_right_iff, alike.headers]
    exact alike.rows.imp fun _ _ => rowOf_sameButCase
  refine summaryOf_matches pairs ?_ ?_
  · intro index row twin same entry _
    exact TypeCheck.columnViolation?_sameButCase same index entry.1 entry.2
  · intro index row twin same rule _
    rw [alike.headers]
    apply RuleCheck.report?_rel
    · intro violation reports
      exact reports.sameButCase same
    · intro counterpart reports
      obtain ⟨violation, matching, -⟩ :=
        reports.sameButCase fun column => (same column).symm
      exact ⟨violation, matching⟩

/-- Sheets that differ in the case of letters alone have the same fault, or
summaries that match. -/
theorem audit_sameButCase (alike : data.SameButCase other) :
    (∃ fault, settings.audit data typeMap rules = .error fault ∧
      settings.audit other typeMap rules = .error fault) ∨
    ∃ summary twin, settings.audit data typeMap rules = .ok summary ∧
      settings.audit other typeMap rules = .ok twin ∧
      summary.Matches (fun _ => Violation.SameButCase) twin := by
  cases audited : settings.audit data typeMap rules with
  | error fault =>
      obtain ⟨index, cells, first, rfl⟩ := audit_eq_error_iff.mp audited
      obtain ⟨twin, wide, same⟩ :=
        first.of_widths (congrArg List.length alike.headers) alike.widths
      refine .inl ⟨_, rfl, audit_eq_error_iff.mpr ⟨index, twin, wide, ?_⟩⟩
      rw [same, alike.headers]
  | ok summary =>
      have fits : data.Fits := exists_audit_eq_ok_iff.mp ⟨summary, audited⟩
      have fitting : other.Fits :=
        fits.of_widths (congrArg List.length alike.headers) alike.widths
      rw [audit_of_fits fits] at audited
      obtain rfl := Except.ok.inj audited
      exact .inr ⟨_, _, rfl, audit_of_fits fitting, summaryOf_sameButCase alike⟩

def openClaims : Sheet :=
  ⟨"Input", ["Claim No", "Status", "Code"],
    [[.text "c1", .text "Open | paid", .text "x1"],
      [.text "Über-2", .text "CLOSED", .number (.ofInt 7)]]⟩

def shoutedClaims : Sheet :=
  ⟨"Input", ["Claim No", "Status", "Code"],
    [[.text "C1", .text "OPEN | PAID", .text "X1"],
      [.text "ÜBER-2", .text "closed", .number (.ofInt 7)]]⟩

def statusTypes : TypeMap :=
  .ofList [("Claim No", .text), ("Code", .number)]

def statusRules : List Rule :=
  [⟨"1", "open", ["claimno!=''", "status=='OPEN'"]⟩]

theorem audit_sameButCase_claims :
    openClaims.SameButCase shoutedClaims ∧
    ((∃ fault, audit {} openClaims statusTypes statusRules = .error fault ∧
      audit {} shoutedClaims statusTypes statusRules = .error fault) ∨
    ∃ summary twin, audit {} openClaims statusTypes statusRules = .ok summary ∧
      audit {} shoutedClaims statusTypes statusRules = .ok twin ∧
      summary.Matches (fun _ => Violation.SameButCase) twin) := by
  have alike : openClaims.SameButCase shoutedClaims :=
    ⟨rfl, .cons
      (.cons (.text (by decide))
        (.cons (.text (by decide)) (.cons (.text (by decide)) .nil))) <|
      .cons (.cons (.text (by decide))
        (.cons (.text (by decide)) (.cons (.same _) .nil))) .nil⟩
  exact ⟨alike, audit_sameButCase alike⟩

end Settings

end RowAudit
