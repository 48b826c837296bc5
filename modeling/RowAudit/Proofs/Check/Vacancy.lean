import RowAudit.Proofs.Independence

/-!
Flagging blank cells. A cell is vacant in one of three ways, and the only thing
that the flag decides is whether vacant cells are reported; each of them is
reported once, as nothing where its type was expected.
-/

namespace RowAudit

namespace Cell

variable {cell : Cell}

inductive Vacant : Cell → Prop
  | blank : Vacant .blank
  | white {s : String} (blank : ∀ c ∈ s.toList, Text.isBlank c = true) :
      Vacant (.text s)

theorem isVacant_iff : cell.isVacant = true ↔ cell.Vacant := by
  cases cell with
  | blank => exact ⟨fun _ => .blank, fun _ => rfl⟩
  | text s =>
      constructor
      · intro vacant
        exact .white (List.all_eq_true.mp vacant)
      · intro vacant
        cases vacant with
        | white blank => exact List.all_eq_true.mpr blank
  | number value =>
      constructor
      · intro vacant
        cases vacant
      · intro vacant
        cases vacant
  | date value =>
      constructor
      · intro vacant
        cases vacant
      · intro vacant
        cases vacant

theorem isDirect_of_isVacant (vacant : cell.isVacant = true)
    (expected : ExpectedType) :
    Classification.isDirect cell expected = false := by
  cases cell with
  | blank => rfl
  | text s =>
      have white : Text.allBlank s = true := vacant
      unfold Classification.isDirect
      split <;> simp_all
  | number value => cases vacant
  | date value => cases vacant

theorem classify_of_isVacant (vacant : cell.isVacant = true) (flag : Bool)
    (expected : ExpectedType) :
    cell.classify flag expected = ⟨.blank, !flag⟩ := by
  rw [classify, isDirect_of_isVacant vacant, if_neg Bool.false_ne_true,
    if_pos vacant]

theorem classify_of_not_isVacant (filled : cell.isVacant = false)
    (flag other : Bool) (expected : ExpectedType) :
    cell.classify flag expected = cell.classify other expected := by
  rw [classify, classify, filled]
  rfl

end Cell

/-- A row shows nothing in a column if it lacks the column or has a vacant cell
there. -/
inductive Row.ShowsNothing (row : Row) (column : String) : Prop
  | absent (missing : row.get? column = none) : ShowsNothing row column
  | vacant {cell : Cell} (held : row.get? column = some cell)
      (vacant : cell.Vacant) :
      ShowsNothing row column

theorem Row.isVacant_cell_iff {row : Row} {column : String} :
    (row.cell column).isVacant = true ↔ row.ShowsNothing column := by
  unfold Row.cell
  constructor
  · intro vacant
    cases held : row.get? column with
    | none => exact .absent held
    | some cell =>
        rw [held] at vacant
        exact .vacant held (Cell.isVacant_iff.mp vacant)
  · intro nothing
    cases nothing with
    | absent missing => rw [missing]; rfl
    | vacant held vacant => rw [held]; exact Cell.isVacant_iff.mpr vacant

namespace TypeCheck

variable {check : TypeCheck} {index : Nat} {row : Row} {column : String}
  {expected : ExpectedType}

def flagging (check : TypeCheck) (flag : Bool) : TypeCheck :=
  { check with flagBlankCells := flag }

def vacancy (check : TypeCheck) (index : Nat) (row : Row) (column : String)
    (expected : ExpectedType) : Violation where
  row := index
  claim := row.claim? (Column.normalize check.claimColumn)
  header := column
  value := row.cell column
  breach := .dataType expected .blank

theorem message_vacancy :
    (check.vacancy index row column expected).message =
      s!"Expected {expected.token}, got null" := by
  have label : ", got " ++ CellClass.blank.label = ", got null" := rfl
  unfold vacancy Violation.message Breach.message
  simp only [toString, String.append_assoc, label]

theorem shape_of_columnViolation? {violation : Violation}
    (found : check.columnViolation? index row column expected =
      some violation) :
    violation.header = column ∧ violation.value = row.cell column := by
  simp only [columnViolation?] at found
  split at found
  · cases found
  · obtain rfl := Option.some.inj found
    exact ⟨rfl, rfl⟩

theorem columnViolation?_of_isVacant
    (vacant : (row.cell column).isVacant = true) (flag : Bool) :
    (check.flagging flag).columnViolation? index row column expected =
      if flag then some (check.vacancy index row column expected)
      else none := by
  simp only [columnViolation?, Cell.classify_of_isVacant vacant]
  cases flag <;> rfl

theorem columnViolation?_of_not_isVacant
    (filled : (row.cell column).isVacant = false) (flag other : Bool) :
    (check.flagging flag).columnViolation? index row column expected =
      (check.flagging other).columnViolation? index row column expected := by
  have same :=
    Cell.classify_of_not_isVacant filled (check.flagging flag).flagBlankCells
    (check.flagging other).flagBlankCells expected
  simp only [columnViolation?, same]
  rfl

theorem columnViolation?_unflagged :
    (check.flagging false).columnViolation? index row column expected =
      ((check.flagging true).columnViolation? index row column expected).filter
        fun violation => !violation.value.isVacant := by
  cases vacant : (row.cell column).isVacant with
  | true =>
      rw [columnViolation?_of_isVacant vacant,
        columnViolation?_of_isVacant vacant, if_pos rfl,
        if_neg Bool.false_ne_true, Option.filter_some, vacancy, vacant]
      rfl
  | false =>
      rw [columnViolation?_of_not_isVacant vacant false true]
      cases found : (check.flagging true).columnViolation? index row column
        expected with
      | none => rfl
      | some violation =>
          rw [Option.filter_some, (shape_of_columnViolation? found).2, vacant]
          rfl

theorem columnViolation?_vacant :
    ((check.flagging true).columnViolation? index row column expected).filter
        (fun violation => violation.value.isVacant) =
      if (row.cell column).isVacant then
        some (check.vacancy index row column expected) else none := by
  cases vacant : (row.cell column).isVacant with
  | true =>
      rw [columnViolation?_of_isVacant vacant, if_pos rfl, Option.filter_some,
        vacancy, vacant]
      rfl
  | false =>
      rw [if_neg Bool.false_ne_true]
      cases found : (check.flagging true).columnViolation? index row column
        expected with
      | none => rfl
      | some violation =>
          rw [Option.filter_some, (shape_of_columnViolation? found).2, vacant]
          rfl

theorem violations_unflagged (check : TypeCheck) (index : Nat) (row : Row) :
    (check.flagging false).violations index row =
      ((check.flagging true).violations index row).filter fun violation =>
        !violation.value.isVacant := by
  unfold violations
  rw [List.filter_filterMap]
  apply congrArg (List.filterMap · check.typeMap.entries)
  funext entry
  exact columnViolation?_unflagged

theorem violations_vacant (check : TypeCheck) (index : Nat) (row : Row) :
    ((check.flagging true).violations index row).filter
      (fun violation => violation.value.isVacant) =
      (check.typeMap.entries.filter fun entry =>
        (row.cell entry.1).isVacant).map
        fun entry => check.vacancy index row entry.1 entry.2 := by
  unfold violations
  rw [List.filter_filterMap, ← List.filterMap_eq_map, List.filterMap_filter]
  apply congrArg (List.filterMap · check.typeMap.entries)
  funext entry
  exact columnViolation?_vacant

theorem filter_header_columnViolation? {other : String} :
    (check.columnViolation? index row other expected).filter
      (fun violation => violation.header = column) =
      if other = column then check.columnViolation? index row other expected
      else none := by
  cases found : check.columnViolation? index row other expected with
  | none => rw [ite_self, Option.filter_none]
  | some violation =>
      rw [Option.filter_some, (shape_of_columnViolation? found).1]
      simp only [decide_eq_true_eq]

theorem filter_header_violations (canonical : check.typeMap.Canonical)
    (declared : (column, expected) ∈ check.typeMap.entries) :
    (check.violations index row).filter
      (fun violation => violation.header = column) =
      (check.columnViolation? index row column expected).toList := by
  have nodup : (check.typeMap.entries.map Prod.fst).Nodup := canonical.nodup
  unfold violations
  rw [List.filter_filterMap]
  simp only [filter_header_columnViolation?]
  generalize check.typeMap.entries = entries at nodup declared
  induction entries with
  | nil => cases declared
  | cons entry rest ih =>
      obtain ⟨fresh, laterNodup⟩ := List.nodup_cons.mp nodup
      rcases List.mem_cons.mp declared with rfl | later
      · have absent : rest.filterMap (fun entry =>
            if entry.1 = column then
              check.columnViolation? index row entry.1 entry.2 else none) =
                [] := by
          rw [List.filterMap_eq_nil_iff]
          intro other member
          apply if_neg
          intro same
          apply fresh
          exact List.mem_map.mpr ⟨other, member, same⟩
        rw [List.filterMap_cons, if_pos rfl, absent]
        cases check.columnViolation? index row column expected <;> rfl
      · have different : entry.1 ≠ column := by
          intro same
          apply fresh
          rw [same]
          exact List.mem_map_of_mem later
        rw [List.filterMap_cons, if_neg different]
        exact ih laterNodup later

end TypeCheck

namespace Settings

variable {settings : Settings} {data : Sheet} {rules : List Rule}

def flagging (settings : Settings) (flag : Bool) : Settings :=
  { settings with flagBlankCells := flag }

/-- How the audit that flags blank cells differs from the one that does not. -/
structure FlagsVacancies (settings : Settings) (data : Sheet)
    (typeMap : TypeMap) (plain flagged : Summary) : Prop where
  conditions : flagged.violationsIn .condition = plain.violationsIn .condition
  conditionValid : flagged.conditions.valid = plain.conditions.valid
  kept : plain.violationsIn .dataType =
    (flagged.violationsIn .dataType).filter fun violation =>
      !violation.value.isVacant
  silent : ∀ violation ∈ plain.violationsIn .dataType, ¬ violation.value.Vacant
  ordered : ∀ index cells, data.rows[index]? = some cells →
    ((flagged.violationsAt .dataType index).filter fun violation =>
      violation.value.isVacant).map
        (fun violation => (violation.header, violation.message)) =
      (typeMap.entries.filter fun entry =>
          ((settings.rowOf data.headers cells).cell entry.1).isVacant).map
        fun (column, expected) =>
          (column, s!"Expected {expected.token}, got null")
  once : ∀ index cells, data.rows[index]? = some cells → ∀ column expected,
    (column, expected) ∈ typeMap.entries →
    (settings.rowOf data.headers cells).ShowsNothing column →
    ∃ violation,
      (flagged.violationsAt .dataType index).filter
      (fun other => other.header = column) = [violation] ∧
      violation.value.Vacant ∧
      violation.message = s!"Expected {expected.token}, got null"

theorem violations_run_unflagged (check : TypeCheck) (rows : List Row) :
    (Tally.run (check.flagging false).violations rows).violations =
      (Tally.run (check.flagging true).violations rows).violations.filter
        fun violation => !violation.value.isVacant := by
  induction rows using List.reverseRecOn with
  | nil => rfl
  | append_singleton rows row ih =>
      rw [Tally.violations_run_concat, Tally.violations_run_concat,
        List.filter_append, ih, check.violations_unflagged]

theorem flagging_adds_vacancies (declarations : List (String × ExpectedType))
    {plain : Summary}
    (audited : (settings.flagging false).audit data
      (.ofList declarations) rules = .ok plain) :
    ∃ flagged, (settings.flagging true).audit data
      (.ofList declarations) rules = .ok flagged ∧
      settings.FlagsVacancies data (.ofList declarations) plain flagged := by
  have fits := exists_audit_eq_ok_iff.mp ⟨plain, audited⟩
  rw [audit_of_fits fits, Except.ok.injEq] at audited
  subst audited
  let typeMap : TypeMap := .ofList declarations
  have canonical : typeMap.Canonical := ColumnMap.canonical_ofList declarations
  have kept := violations_run_unflagged (settings.typeCheck typeMap)
    (data.rows.map (settings.rowOf data.headers))
  have located {index : Nat} {cells : List Cell}
      (held : data.rows[index]? = some cells) :
      ((settings.flagging true).summaryOf data typeMap rules).violationsAt
      .dataType index =
        ((settings.typeCheck typeMap).flagging true).violations index
        (settings.rowOf data.headers cells) := by
    rw [violationsAt_dataType, List.getElem?_map, held]
    rfl
  refine ⟨(settings.flagging true).summaryOf data typeMap rules,
    audit_of_fits fits, ?_, rfl, ?_, ?_, ?_, ?_⟩
  · rw [violationsIn_summaryOf, violationsIn_summaryOf]
    rfl
  · rw [violationsIn_summaryOf, violationsIn_summaryOf]
    exact kept
  · intro violation member vacant
    rw [violationsIn_summaryOf] at member
    have filled := (List.mem_filter.mp (kept ▸ member)).2
    rw [Cell.isVacant_iff.mpr vacant] at filled
    cases filled
  · intro index cells held
    rw [located held, TypeCheck.violations_vacant, List.map_map]
    apply List.map_congr_left
    intro entry _
    exact congrArg (Prod.mk entry.1) TypeCheck.message_vacancy
  · intro index cells held column expected declared nothing
    have vacant := Row.isVacant_cell_iff.mpr nothing
    rw [located held, TypeCheck.filter_header_violations canonical declared,
      TypeCheck.columnViolation?_of_isVacant vacant]
    exact ⟨_, rfl, Cell.isVacant_iff.mp vacant, TypeCheck.message_vacancy⟩

def ragged : Sheet :=
  ⟨"Input", ["Claim No", "Amount"],
    [[.text "C1", .text " \t"], [.text "C2"], [.blank, .text "n/a"]]⟩

def declared : List (String × ExpectedType) :=
  [("Amount", .number), ("Claim No", .text), ("Loss", .other "code")]

theorem exists_flagging_adds_vacancies_ragged :
    ∃ plain, (flagging {} false).audit ragged (.ofList declared)
      [] = .ok plain ∧
      ∃ flagged, (flagging {} true).audit ragged (.ofList declared)
        [] = .ok flagged ∧
        FlagsVacancies {} ragged (.ofList declared) plain flagged :=
  Exists.imp (fun _ audited =>
    ⟨audited, flagging_adds_vacancies declared audited⟩) ⟨_, rfl⟩

end Settings

end RowAudit
