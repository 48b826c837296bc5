import RowAudit.Proofs.Independence
import RowAudit.Proofs.Sheet.Records
import RowAudit.Proofs.Sheet.Retold

namespace RowAudit

/-- The rule that a record of a rule sheet holds, and the text that its number
is written as. -/
structure Rule.WrittenIn (width : Nat) (record : List String) (raw : String)
    (rule : Rule) : Prop where
  number : record.head? = some raw
  held : Rule.ofCells? (Sheet.rowOfRecord true width record) = some rule

/-- A position under whose header, and no other, the rows have their
identifiers, which are no dates. -/
structure Settings.ClaimsAt (settings : Settings) (headers : List String)
    (position : Nat) : Prop where
  named : Column.normalize settings.claimColumn ≠ ""
  header : (headers.map Column.normalize)[position]? =
    some (Column.normalize settings.claimColumn)
  alone : ∀ other,
    (headers.map Column.normalize)[other]? =
      some (Column.normalize settings.claimColumn) →
    other = position
  undated : settings.isDateColumn (Column.normalize settings.claimColumn) =
    false

/-- How the violations of a summary tell the identifiers that are written in the
records of the data and of the rule sheet. -/
structure Settings.TellsIdentifiers (settings : Settings) (data : Sheet)
    (records : List (List String)) (width : Nat)
    (ruleRecords : List (List String)) (summary : Summary) : Prop where
  claims : ∀ violation ∈ summary.violations, ∃ record,
    records[violation.row]? = some record ∧
    ∀ position raw, settings.ClaimsAt data.headers position →
      record[position]? = some raw →
      Text.allBlank raw = false → ∃ reported, violation.claim = some reported ∧
      Retold raw reported
  rules : ∀ violation ∈ summary.violations, violation.category = .condition →
    ∃ record ∈ ruleRecords, ∃ raw, ∃ rule : Rule,
      rule.WrittenIn width record raw ∧
      (∃ cells, data.rows[violation.row]? = some cells ∧
        rule.Reports data.headers settings.claimColumn violation.row
          (settings.rowOf data.headers cells)
          violation) ∧
      violation.ruleNumber? = some rule.number ∧ Retold raw rule.number
  apart : ∀ left ∈ ruleRecords, ∀ right ∈ ruleRecords,
    ∀ leftRaw rightRaw leftRule rightRule,
    Rule.WrittenIn width left leftRaw leftRule →
    Rule.WrittenIn width right rightRaw rightRule →
    (Text.trimmed leftRule.number = Text.trimmed rightRule.number ↔
      ToldAlike leftRaw rightRaw)

namespace Rule

variable {width : Nat} {record : List String} {raw : String} {rule : Rule}

theorem exists_cells_of_ofCells? {cells : List Cell}
    (held : ofCells? cells = some rule) :
    ∃ number rest, cells = number :: rest ∧ rule.number = number.shown := by
  rw [ofCells?.eq_def] at held
  split at held
  · next number description conditions =>
      dsimp only at held
      split at held
      · cases held
      · obtain rfl := Option.some.inj held
        exact ⟨number, _, rfl, rfl⟩
  · cases held

theorem exists_writtenIn (positive : 0 < width)
    (held : ofCells? (Sheet.rowOfRecord true width record) = some rule) :
    ∃ raw, rule.WrittenIn width record raw := by
  obtain ⟨number, rest, cells, -⟩ := exists_cells_of_ofCells? held
  have first := Sheet.getElem?_rowOfRecord positive true record
  rw [cells, List.getElem?_cons_zero] at first
  obtain ⟨raw, front, -⟩ := Option.map_eq_some_iff.mp first.symm
  exact ⟨raw, List.head?_eq_getElem?.trans front, held⟩

theorem WrittenIn.number_eq (written : rule.WrittenIn width record raw)
    (positive : 0 < width) : rule.number = (Cell.infer true raw).shown := by
  obtain ⟨number, rest, cells, shown⟩ := exists_cells_of_ofCells? written.held
  have first := Sheet.getElem?_rowOfRecord positive true record
  have front : record[0]? = some raw :=
    List.head?_eq_getElem?.symm.trans written.number
  rw [cells, List.getElem?_cons_zero, front] at first
  rw [shown, Option.some.inj first]

theorem Reports.ruleNumber?_eq {headers : List String} {claimColumn : String}
    {index : Nat} {row : Row} {violation : Violation}
    (reports : rule.Reports headers claimColumn index row violation) :
    violation.ruleNumber? = some rule.number := by
  cases reports with
  | mk blamed attributed => rfl

end Rule

theorem TypeCheck.claim_of_mem {check : TypeCheck} {index : Nat} {row : Row}
    {violation : Violation} (member : violation ∈ check.violations index row) :
    violation.claim = row.claim? (Column.normalize check.claimColumn) := by
  obtain ⟨⟨column, expected⟩, -, found⟩ := List.mem_filterMap.mp member
  simp only [columnViolation?] at found
  split at found
  · cases found
  · obtain rfl := Option.some.inj found
    rfl

theorem RuleCheck.claim_of_mem {check : RuleCheck} {index : Nat} {row : Row}
    {violation : Violation} (member : violation ∈ check.violations index row) :
    violation.claim = row.claim? (Column.normalize check.claimColumn) := by
  obtain ⟨rule, -, found⟩ := List.mem_filterMap.mp member
  obtain ⟨condition, -, rfl⟩ := Option.map_eq_some_iff.mp found
  rfl

namespace Settings

variable {settings : Settings} {data : Sheet} {typeMap : TypeMap}
  {rules : List Rule} {summary : Summary}

theorem readCell_of_claimsAt {headers : List String} {position : Nat}
    (claims : settings.ClaimsAt headers position) (cell : Cell) :
    settings.readCell (Column.normalize settings.claimColumn) cell = cell := by
  rw [readCell, claims.undated]
  rfl

theorem cell_rowOf {headers : List String} {cells : List Cell} {position : Nat}
    (claims : settings.ClaimsAt headers position) :
    (settings.rowOf headers cells).cell
      (Column.normalize settings.claimColumn) =
      cells.getD position .blank := by
  have found : (settings.rowOf headers cells).get?
      (Column.normalize settings.claimColumn) =
      some (cells.getD position .blank) := by
    apply ColumnMap.get?_foldl_insert
    · intro pair member named
      obtain ⟨⟨column, other⟩, located, made⟩ := List.mem_filterMap.mp member
      have header := List.mem_zipIdx_iff_getElem?.mp located
      obtain ⟨origin, -, rfl⟩ := List.mem_map.mp (List.mem_of_getElem? header)
      dsimp only at made
      split at made
      · cases made
      · obtain rfl := Option.some.inj made
        rw [Column.normalize_normalize] at named
        rw [named] at header ⊢
        rw [claims.alone other header, readCell_of_claimsAt claims]
    · refine .inr ⟨_, List.mem_filterMap.mpr
        ⟨(_, position), List.mem_zipIdx_iff_getElem?.mpr claims.header,
          if_neg claims.named⟩, ?_⟩
      exact Column.normalize_normalize _
  rw [Row.cell, found, Option.getD_some]

/-- The claim of a row is what its cell under the header shows, if its record
says something there. -/
theorem claim?_rowOf {headers : List String} {width : Nat}
    (length : headers.length = width) {record : List String} {position : Nat}
    {raw : String} (claims : settings.ClaimsAt headers position)
    (written : record[position]? = some raw)
    (said : Text.allBlank raw = false) :
    (settings.rowOf headers (Sheet.rowOfRecord true width record)).claim?
        (Column.normalize settings.claimColumn) =
          some (Cell.infer true raw).shown := by
  have within : position < width := by
    have bound := (List.getElem?_eq_some_iff.mp claims.header).1
    rwa [List.length_map, length] at bound
  have cell : (Sheet.rowOfRecord true width record)[position]? =
      some (Cell.infer true raw) := by
    rw [Sheet.getElem?_rowOfRecord within, written, Option.map_some]
  have filled : Cell.infer true raw ≠ .blank := by
    intro blank
    rw [Cell.infer_eq_blank_iff, said] at blank
    cases blank
  rw [Row.claim?, cell_rowOf claims, List.getD_eq_getElem?_getD, cell,
    Option.getD_some]
  split
  · contradiction
  · rfl

theorem exists_row_of_mem_run {check : Nat → Row → List Violation}
    (indexed : Tally.Indexed check) {violation : Violation}
    (member : violation ∈
      (Tally.run check
        (data.rows.map (settings.rowOf data.headers))).violations) :
    ∃ cells, data.rows[violation.row]? = some cells ∧
      violation ∈ check violation.row (settings.rowOf data.headers cells) := by
  obtain ⟨row, index, located, found⟩ := Tally.mem_violations_run.mp member
  have same := indexed index row violation found
  rw [List.mem_zipIdx_iff_getElem?, List.getElem?_map] at located
  obtain ⟨cells, held, rfl⟩ := Option.map_eq_some_iff.mp located
  rw [← same] at held found
  exact ⟨cells, held, found⟩

/-- Every violation is of a row of the sheet, and has the claim of that row. -/
theorem claim_of_audit
    (audited : settings.audit data typeMap rules = .ok summary)
    {violation : Violation} (member : violation ∈ summary.violations) :
    ∃ cells, data.rows[violation.row]? = some cells ∧
      violation.claim =
        (settings.rowOf data.headers cells).claim?
          (Column.normalize settings.claimColumn) := by
  obtain ⟨_, read, rfl⟩ := audit_eq_ok_iff.mp audited
  obtain ⟨-, rfl⟩ := rows_eq_ok_iff.mp read
  rw [Summary.violations_merged] at member
  rcases List.mem_append.mp member with typed | conditioned
  · obtain ⟨cells, held, found⟩ :=
      exists_row_of_mem_run (settings.typeCheck typeMap).indexed typed
    have claim := TypeCheck.claim_of_mem found
    exact ⟨cells, held, claim⟩
  · obtain ⟨cells, held, found⟩ := exists_row_of_mem_run
      (RuleCheck.prepare rules data.headers settings.claimColumn).indexed
      conditioned
    have claim := RuleCheck.claim_of_mem found
    exact ⟨cells, held, claim⟩

theorem rule_of_audit
    (audited : settings.audit data typeMap rules = .ok summary)
    {violation : Violation} (member : violation ∈ summary.violations)
    (condition : violation.category = .condition) :
    ∃ rule ∈ rules, ∃ cells, data.rows[violation.row]? = some cells ∧
      rule.Reports data.headers settings.claimColumn violation.row
        (settings.rowOf data.headers cells)
        violation := by
  have conditioned := Summary.mem_violations_tally.mpr ⟨member, condition⟩
  obtain ⟨_, read, rfl⟩ := audit_eq_ok_iff.mp audited
  obtain ⟨-, rfl⟩ := rows_eq_ok_iff.mp read
  rw [Summary.tally_merged category_of_mem_tally] at conditioned
  obtain ⟨cells, held, found⟩ := exists_row_of_mem_run
      (RuleCheck.prepare rules data.headers settings.claimColumn).indexed
      conditioned
  rw [RuleCheck.violations_prepare] at found
  obtain ⟨rule, among, reports⟩ := List.mem_filterMap.mp found
  exact ⟨rule, among, cells, held, RuleCheck.report?_eq_some_iff.mp reports⟩

theorem auditWorkbook_eq_ok {workbook : Workbook}
    (audited : settings.auditWorkbook data workbook = .ok summary)
    {ruleSheet : Sheet} (role : workbook.role .conditionRules = .ok ruleSheet) :
    ∃ dataMap, workbook.role .dataMap = .ok dataMap ∧
      settings.audit data (TypeMap.ofSheet dataMap) (Rule.ofSheet ruleSheet) =
        .ok summary := by
  rw [auditWorkbook, role] at audited
  cases map : workbook.role .dataMap with
  | error fault =>
      rw [map] at audited
      cases audited
  | ok dataMap =>
      rw [map] at audited
      exact ⟨dataMap, rfl, audited⟩

/-- The reports on a data text by a rule text, both read as they are by default,
tell the identifiers that are written there. -/
theorem auditWorkbook_tellsIdentifiers {name text ruleName ruleText : String}
    {ruleSheet : Sheet} {workbook : Workbook}
    (readData : Reading.sheetOfText {} name text = .ok data)
    (readRules : Reading.sheetOfText {} ruleName ruleText = .ok ruleSheet)
    (role : workbook.role .conditionRules = .ok ruleSheet)
    (audited : settings.auditWorkbook data workbook = .ok summary) :
    ∃ header records ruleHeader ruleRecords,
      Reading.records {} text = .ok (header :: records) ∧
      Reading.records {} ruleText = .ok (ruleHeader :: ruleRecords) ∧
      data.headers = header.map Text.trimmed ∧
      settings.TellsIdentifiers data records ruleHeader.length ruleRecords
        summary := by
  obtain ⟨header, records, split, -, rfl⟩ :=
    Reading.sheetOfText_eq_ok_iff.mp readData
  obtain ⟨ruleHeader, ruleRecords, ruleSplit, ⟨field, fieldMember, -⟩, rfl⟩ :=
    Reading.sheetOfText_eq_ok_iff.mp readRules
  obtain ⟨dataMap, -, audited⟩ := auditWorkbook_eq_ok audited role
  have positive : 0 < ruleHeader.length := List.length_pos_of_mem fieldMember
  refine ⟨header, records, ruleHeader, ruleRecords, split, ruleSplit, rfl,
    ?_, ?_, ?_⟩
  · intro violation member
    obtain ⟨cells, held, claim⟩ := claim_of_audit audited member
    obtain ⟨record, located, rfl⟩ :=
      Option.map_eq_some_iff.mp (List.getElem?_map.symm.trans held)
    refine ⟨record, located, fun position raw claims written said => ?_⟩
    have told := claim?_rowOf (List.length_map _) claims written said
    exact ⟨_, claim.trans told, Cell.retold_shown raw⟩
  · intro violation member condition
    obtain ⟨rule, among, cells, held, reports⟩ :=
      rule_of_audit audited member condition
    obtain ⟨_, ruleMember, ruleHeld⟩ := List.mem_filterMap.mp among
    obtain ⟨record, recordMember, rfl⟩ := List.mem_map.mp ruleMember
    obtain ⟨raw, written⟩ := Rule.exists_writtenIn positive ruleHeld
    refine ⟨record, recordMember, raw, rule, written,
      ⟨cells, held, reports⟩, ?_, ?_⟩
    · exact reports.ruleNumber?_eq
    · rw [written.number_eq positive]
      exact Cell.retold_shown raw
  · intro left _ right _ leftRaw rightRaw leftRule rightRule leftWritten
      rightWritten
    rw [leftWritten.number_eq positive, rightWritten.number_eq positive]
    exact (Cell.retold_shown leftRaw).trimmed_eq_iff
      (Cell.retold_shown rightRaw)

theorem auditWorkbook_tellsIdentifiers_two_claims :
    ∃ data ruleSheet summary,
      Reading.sheetOfText {} "claims" "Claim No,Amount\n007,-1\n12.50,-2\n" =
        .ok data ∧
      Reading.sheetOfText {} "Rules"
        "No,Text,Guard,Check\n2.10,above one,amount<0,amount>1\nR7,above two,amount<0,amount>2\n" =
          .ok ruleSheet ∧
      (Workbook.ofSheets [⟨"Map", [], []⟩, ruleSheet]).role .conditionRules =
        .ok ruleSheet ∧
      auditWorkbook {} data (.ofSheets [⟨"Map", [], []⟩, ruleSheet]) =
        .ok summary ∧
      (summary.violations.map fun violation =>
        (violation.claim, violation.ruleNumber?)) =
        [(some "007", some "2.1"), (some "007", some "R7"),
          (some "12.5", some "2.1"),
          (some "12.5", some "R7")] ∧
      ∃ header records ruleHeader ruleRecords,
        Reading.records {} "Claim No,Amount\n007,-1\n12.50,-2\n" =
          .ok (header :: records) ∧
        Reading.records {}
          "No,Text,Guard,Check\n2.10,above one,amount<0,amount>1\nR7,above two,amount<0,amount>2\n" =
            .ok (ruleHeader :: ruleRecords) ∧
        data.headers = header.map Text.trimmed ∧
        TellsIdentifiers
          {} data records ruleHeader.length ruleRecords summary := by
  have records : Reading.records {} "Claim No,Amount\n007,-1\n12.50,-2\n" =
      .ok [["Claim No", "Amount"], ["007", "-1"], ["12.50", "-2"]] := by
        decide +kernel
  have ruleRecords : Reading.records {}
      "No,Text,Guard,Check\n2.10,above one,amount<0,amount>1\nR7,above two,amount<0,amount>2\n" =
        .ok [["No", "Text", "Guard", "Check"],
          ["2.10", "above one", "amount<0", "amount>1"],
          ["R7", "above two", "amount<0", "amount>2"]] := by decide +kernel
  obtain ⟨data, ruleSheet, readData, readRules, role, shown⟩ :
      ∃ data ruleSheet, Reading.sheetOfText {} "claims" _ = .ok data ∧
        Reading.sheetOfText {} "Rules" _ = .ok ruleSheet ∧
        (Workbook.ofSheets [⟨"Map", [], []⟩, ruleSheet]).role .conditionRules =
          .ok ruleSheet ∧
        ((auditWorkbook {} data (.ofSheets [⟨"Map", [], []⟩, ruleSheet])).map
          fun summary =>
          summary.violations.map fun violation =>
            (violation.claim, violation.ruleNumber?)) =
            .ok [(some "007", some "2.1"), (some "007", some "R7"),
              (some "12.5", some "2.1"),
              (some "12.5", some "R7")] := by
    refine ⟨_, _,
      Reading.sheetOfText_eq_ok_iff.mpr
        ⟨_, _, records, ⟨"Amount", by decide, by decide +kernel⟩, rfl⟩,
      Reading.sheetOfText_eq_ok_iff.mpr
        ⟨_, _, ruleRecords, ⟨"Check", by decide, by decide +kernel⟩, rfl⟩,
      ?_, ?_⟩
    · decide +kernel
    · decide +kernel
  cases audited :
    auditWorkbook {} data (.ofSheets [⟨"Map", [], []⟩, ruleSheet]) with
  | error fault =>
      rw [audited] at shown
      cases shown
  | ok summary =>
      rw [audited] at shown
      exact ⟨data, ruleSheet, summary, readData, readRules, role, audited,
        Except.ok.inj shown,
        auditWorkbook_tellsIdentifiers readData readRules role audited⟩

/-- Numbers with needless zeros are told without them, and two rules may then be
told alike. -/
theorem auditWorkbook_respells :
    ClaimsAt {} ["Claim No", "Amount"] 0 ∧
    Reading.records {} "Claim No,Amount\n1.50,-5\n" =
      .ok [["Claim No", "Amount"], ["1.50", "-5"]] ∧
    (do
      let data ← Reading.sheetOfText {} "claims" "Claim No,Amount\n1.50,-5\n"
      let dataMap ← Reading.sheetOfText
        {} "DataMap" "Column,Type\nAmount,number\n"
      let rules ← Reading.sheetOfText {} "ConditionRule"
        "No,Description,Guard,Check\n1.1,first,amount<=0,amount>0\n1.10,second,amount<=0,amount>1\n"
      let summary ← auditWorkbook {} data (.ofSheets [dataMap, rules])
      return summary.violations.map fun violation =>
        (violation.row, violation.claim, violation.ruleNumber?)) =
        Except.ok [(0, some "1.5", some "1.1"), (0, some "1.5", some "1.1")] ∧
    Text.trimmed "1.5" ≠ Text.trimmed "1.50" ∧
      Text.trimmed "1.1" ≠ Text.trimmed "1.10" := by
  refine ⟨⟨by decide +kernel, by decide +kernel,
    ?_, by decide +kernel⟩, by decide +kernel,
    by decide +kernel, by decide +kernel, by decide +kernel⟩
  intro other header
  match other with
  | 0 => rfl
  | 1 => exact absurd header (by decide +kernel)
  | other + 2 => cases header

end Settings

end RowAudit
