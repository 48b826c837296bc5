import RowAudit.Command.Answer
import RowAudit.Proofs.Check.Comparison
import RowAudit.Proofs.Identifiers
import RowAudit.Proofs.Sheet.File
import RowAudit.Proofs.Workbook.Loading

/-!
Examining rules and auditing by them. Both take the rules from the same sheet of
a directory and each condition in the same normal form, so that the examination
counts just those conditions of the prepared rules that stand for no expression.
If it counts none, every report on a condition comes of the value that the
condition has on the row, or of a list of choices that an operator has no use
for.
-/

namespace RowAudit

namespace Condition

/-- Whether a condition is well formed, but on a row it is not true, or misuses
a list of choices. -/
def Unmet (row : Row) (text : String) : Prop :=
  ∃ e, Expr.parse? (normalize text) = some e ∧
    ((∃ value, e.evaluate row = .ok value ∧ value.isTruthy = false) ∨
      ∃ op, e.evaluate row = .error (.choicesMisused op))

theorem unmet_of_judge {row : Row} {text : String} {e : Expr}
    (parsed : Expr.parse? (normalize text) = some e)
    (breaks : judge row text ≠ .holds) : Unmet row text := by
  refine ⟨e, parsed, ?_⟩
  simp only [judge, parsed] at breaks
  cases evaluated : e.evaluate row with
  | error fault =>
      obtain ⟨op, rfl, -⟩ := Expr.evaluate_error evaluated
      exact .inr ⟨op, rfl⟩
  | ok value =>
      refine .inl ⟨value, rfl, ?_⟩
      rw [← Bool.not_eq_true]
      intro truthy
      simp only [evaluated, truthy, if_true] at breaks
      exact breaks rfl

end Condition

def PreparedRule.conditions (rule : PreparedRule) : List PreparedCondition :=
  rule.guard :: rule.checks

namespace RuleCheck

def conditions (check : RuleCheck) : List PreparedCondition :=
  check.rules.flatMap PreparedRule.conditions

def malformedCount (check : RuleCheck) : Nat :=
  check.conditions.countP (·.expr.isNone)

theorem conditions_prepare (rules : List Rule) (headers : List String)
    (claimColumn : String) :
    (prepare rules headers claimColumn).conditions =
      (rules.flatMap Rule.conditions).map
        (.prepare (Header.declared headers)) := by
  unfold conditions prepare
  induction rules with
  | nil => rfl
  | cons rule rest ih =>
      rw [List.flatMap_cons, List.map_append, ← ih, List.filterMap_cons,
        PreparedRule.prepare?]
      cases rule.conditions <;> rfl

theorem malformedCount_prepare (rules : List Rule) (headers : List String)
    (claimColumn : String) :
    (prepare rules headers claimColumn).malformedCount =
      (rules.flatMap Rule.conditions).countP fun text =>
        (Condition.Expr.parse? (Condition.normalize text)).isNone := by
  rw [malformedCount, conditions_prepare, List.countP_map]
  rfl

theorem exists_parse?_of_malformedCount {rules : List Rule}
    {headers : List String} {claimColumn : String}
    (none : (prepare rules headers claimColumn).malformedCount = 0)
    {rule : Rule} (member : rule ∈ rules) {text : String}
    (condition : text ∈ rule.conditions) :
    ∃ e, Condition.Expr.parse? (Condition.normalize text) = some e := by
  rw [malformedCount_prepare, List.countP_eq_zero] at none
  have parses := none text (List.mem_flatMap.mpr ⟨rule, member, condition⟩)
  rw [Option.isNone_iff_eq_none] at parses
  exact Option.ne_none_iff_exists'.mp parses

end RuleCheck

/-- A violation that names a condition of a rule, and the condition is unmet on
the row. -/
def Violation.Founded (violation : Violation) (settings : Settings)
    (data : Sheet) (rules : List Rule) : Prop :=
  ∃ rule ∈ rules, ∃ text ∈ rule.conditions, ∃ cells,
    violation.breach = .condition rule.number rule.description text ∧
    data.rows[violation.row]? = some cells ∧
    Condition.Unmet (settings.rowOf data.headers cells) text

theorem Rule.Reports.exists_blames {headers : List String}
    {claimColumn : String} {index : Nat} {row : Row} {rule : Rule}
    {violation : Violation}
    (reports : rule.Reports headers claimColumn index row violation) :
    ∃ text, Rule.Blames headers row rule.conditions text ∧
      violation.breach = .condition rule.number rule.description text := by
  cases reports with
  | mk blamed attributed => exact ⟨_, blamed, rfl⟩

theorem Settings.founded_of_audit {settings : Settings} {data : Sheet}
    {typeMap : TypeMap} {rules : List Rule} {summary : Summary}
    (none :
      (RuleCheck.prepare rules data.headers
        settings.claimColumn).malformedCount = 0)
    (audited : settings.audit data typeMap rules = .ok summary)
    {violation : Violation} (member : violation ∈ summary.violations)
    (condition : violation.category = .condition) :
    violation.Founded settings data rules := by
  obtain ⟨rule, among, cells, held, reports⟩ :=
    rule_of_audit audited member condition
  obtain ⟨text, blamed, breach⟩ := reports.exists_blames
  obtain ⟨e, parsed⟩ :=
    RuleCheck.exists_parse?_of_malformedCount none among blamed.mem
  exact ⟨rule, among, text, blamed.mem, cells, breach, held,
    Condition.unmet_of_judge parsed blamed.judge_ne_holds⟩

namespace Command

variable {entries : List DirectoryEntry} {workbook : Workbook}
  {dataMap ruleSheet : Sheet}

theorem fst_lintCondition (verbose : Bool) (rule : Rule) (text : String) :
    (lintCondition verbose rule text).1 =
      (Condition.Expr.parse? (Condition.normalize text)).isNone := by
  rw [lintCondition]
  cases Condition.Expr.parse? (Condition.normalize text) <;> rfl

/-- Under whatever headers the rules are prepared, the examination counts their
malformed conditions. -/
theorem countP_findings (verbose : Bool) (rules : List Rule)
    (headers : List String) (claimColumn : String) :
    (rules.flatMap fun rule =>
      rule.conditions.map (lintCondition verbose rule)).countP Prod.fst =
      (RuleCheck.prepare rules headers claimColumn).malformedCount := by
  rw [RuleCheck.malformedCount_prepare, List.countP_flatMap,
    List.countP_flatMap]
  refine congrArg List.sum (List.map_congr_left fun rule _ => ?_)
  rw [Function.comp_apply, List.countP_map]
  exact List.countP_congr fun text _ => by
    rw [Function.comp_apply, fst_lintCondition]

theorem exists_lintPlace_eq {directory : String}
    (loaded : Workbook.ofDirectory {} directory entries = .ok workbook)
    (mapped : workbook.role .dataMap = .ok dataMap)
    (ruled : workbook.role .conditionRules = .ok ruleSheet) (verbose : Bool)
    (headers : List String) (claimColumn : String) {count : Nat}
    (counted :
      (RuleCheck.prepare
        (Rule.ofSheet ruleSheet) headers claimColumn).malformedCount = count) :
    ∃ lines, lintPlace directory verbose (.directory (.ok entries)) =
      if count = 0 then .success (lines ++ ["All conditions parse."])
      else .failure lines s!"{count} conditions failed to parse" := by
  rw [← countP_findings verbose] at counted
  simp only [lintPlace, ruleEntries, Except.mapError, loaded, lintWorkbook,
    mapped, ruled, bind, Except.bind, pure, Except.pure, counted]
  by_cases none : count = 0
  · exact ⟨_, rfl⟩
  · exact ⟨_, rfl⟩

theorem success_ne_failure (output lines : List String) (message : String) :
    Answer.success output ≠ Answer.failure lines message := by
  intro same
  cases congrArg Answer.exitCode same

theorem eq_of_failure {lines others : List String} {count other : Nat}
    (same : Answer.failure lines s!"{count} conditions failed to parse" =
      Answer.failure others s!"{other} conditions failed to parse") : count =
        other := by
  have errors := (List.cons.inj (congrArg Answer.errors same)).1
  have shown : String.ofList (Nat.toDigits 10 count) =
      String.ofList (Nat.toDigits 10 other) :=
    (String.append_left_inj _).mp ((String.append_right_inj _).mp errors)
  calc count
    _ = Nat.ofDigitChars 10 (Nat.toDigits 10 count) 0 :=
      Nat.ofDigitChars_ten_toDigits.symm
    _ = Nat.ofDigitChars 10 (Nat.toDigits 10 other) 0 := by
      rw [String.ofList_inj.mp shown]
    _ = other := Nat.ofDigitChars_ten_toDigits

def AuditOptions.settings (options : AuditOptions) : Settings where
  claimColumn := options.claimColumn
  flagBlankCells := options.flagBlankCells

theorem auditPlaces_eq (options : AuditOptions) (content : List UInt8)
    (entries : List DirectoryEntry) :
    auditPlaces options (.file (.ok content)) (.directory (.ok entries)) =
      (options.settings.auditFile options.rules (.ok entries)
        (.ok ⟨(FilePath.lastName options.input).toUTF8.toList,
          content⟩)).mapError
          Fault.message := rfl

/-- An audit by rules that are all well formed comes to a result, and its
reports are founded. -/
theorem exists_auditFile_founded {settings : Settings} {directory : String}
    {file : SheetFile} {data : Sheet} {source : Source}
    (loaded : Workbook.ofDirectory {} directory entries = .ok workbook)
    (mapped : workbook.role .dataMap = .ok dataMap)
    (ruled : workbook.role .conditionRules = .ok ruleSheet)
    (standard : settings.reading = {})
    (wellFormed : (RuleCheck.prepare (Rule.ofSheet ruleSheet) data.headers
      settings.claimColumn).malformedCount = 0)
    (read : Reading.sheetOfFile {} file = .ok (data, source))
    (fits : data.Fits) (path : String) :
    ∃ result, settings.auditFile path (.ok entries) (.ok file) = .ok result ∧
      ∀ violation ∈ result.report.summary.violations,
        violation.category = .condition →
        violation.Founded settings data (Rule.ofSheet ruleSheet) := by
  let summary :=
    settings.summaryOf data (TypeMap.ofSheet dataMap) (Rule.ofSheet ruleSheet)
  have audited :
      settings.audit data (TypeMap.ofSheet dataMap) (Rule.ofSheet ruleSheet) =
        .ok summary :=
    Settings.audit_of_fits fits
  have loadedThere : Workbook.ofDirectory {} path entries = .ok workbook :=
    (Workbook.ofDirectory_eq_ok_congr path).mpr loaded
  refine ⟨⟨source, workbook.sources, Report.build data summary⟩, ?_, ?_⟩
  · simp only [Settings.auditFile, Settings.auditWorkbook, standard,
      loadedThere, mapped, ruled, read, audited, bind, Except.bind, pure,
      Except.pure]
  · intro violation member condition
    exact Settings.founded_of_audit wellFormed audited member condition

/-- What the examination of the rules in a directory tells of their conditions,
and of every audit by them: of a file that is audited by settings, and of one
that is audited on the command line. -/
structure LintForetells (directory : String) (verbose : Bool)
    (entries : List DirectoryEntry) (rules : List Rule) : Prop where
  fails : ∀ headers claimColumn count, 0 < count →
    ((∃ lines, lintPlace directory verbose (.directory (.ok entries)) =
        .failure lines s!"{count} conditions failed to parse") ↔
      (RuleCheck.prepare rules headers claimColumn).malformedCount = count)
  passes : ∀ headers claimColumn,
    (∃ lines, lintPlace directory verbose (.directory (.ok entries)) =
      .success lines) ↔
      (RuleCheck.prepare rules headers claimColumn).malformedCount = 0
  founded : (∃ lines,
    lintPlace directory verbose (.directory (.ok entries)) = .success lines) →
    ∀ (settings : Settings) (path : String) (file : SheetFile) (data : Sheet)
      (source : Source), settings.reading = {} →
      Reading.sheetOfFile {} file = .ok (data, source) → data.Fits →
      ∃ result, settings.auditFile path (.ok entries) (.ok file) = .ok result ∧
        ∀ violation ∈ result.report.summary.violations,
          violation.category = .condition →
          violation.Founded settings data rules
  answered : (∃ lines,
    lintPlace directory verbose (.directory (.ok entries)) = .success lines) →
    ∀ (options : AuditOptions) (content : List UInt8) (data : Sheet)
      (source : Source),
      Reading.sheetOfFile {}
          ⟨(FilePath.lastName options.input).toUTF8.toList, content⟩ =
        .ok (data, source) →
      data.Fits →
      ∃ result, auditPlaces options (.file (.ok content))
          (.directory (.ok entries)) = .ok result ∧
        ∀ violation ∈ result.report.summary.violations,
          violation.category = .condition →
          violation.Founded options.settings data rules

theorem lint_foretells {directory : String}
    (loaded : Workbook.ofDirectory {} directory entries = .ok workbook)
    (mapped : workbook.role .dataMap = .ok dataMap)
    (ruled : workbook.role .conditionRules = .ok ruleSheet) (verbose : Bool) :
    LintForetells directory verbose entries (Rule.ofSheet ruleSheet) := by
  -- One equation, with the malformed conditions of any preparation, decides
  -- both outcomes.
  have answer (headers : List String) (claimColumn : String) :=
    exists_lintPlace_eq loaded mapped ruled verbose headers claimColumn rfl
  have passes (headers : List String) (claimColumn : String) :
      (∃ lines, lintPlace directory verbose (.directory (.ok entries)) =
        .success lines) ↔
        (RuleCheck.prepare
          (Rule.ofSheet ruleSheet) headers claimColumn).malformedCount = 0 := by
    obtain ⟨lines, answered⟩ := answer headers claimColumn
    rw [answered]
    constructor
    · intro succeeds
      obtain ⟨output, succeeds⟩ := succeeds
      by_contra some
      rw [if_neg some] at succeeds
      exact success_ne_failure _ _ _ succeeds.symm
    · intro none
      exact ⟨_, if_pos none⟩
  have founded (succeeds : ∃ lines,
      lintPlace directory verbose (.directory (.ok entries)) = .success lines)
      (settings : Settings) (path : String) (file : SheetFile) (data : Sheet)
      (source : Source) (standard : settings.reading = {})
      (read : Reading.sheetOfFile {} file = .ok (data, source))
      (fits : data.Fits) :=
    exists_auditFile_founded loaded mapped ruled standard
      ((passes _ _).mp succeeds) read fits path
  refine ⟨?_, passes, founded, ?_⟩
  · intro headers claimColumn count positive
    obtain ⟨lines, answered⟩ := answer headers claimColumn
    rw [answered]
    constructor
    · intro fails
      obtain ⟨others, fails⟩ := fails
      split at fails
      · exact absurd fails (success_ne_failure _ _ _)
      · exact eq_of_failure fails
    · intro counted
      rw [counted, if_neg (Nat.ne_of_gt positive)]
      exact ⟨lines, rfl⟩
  · intro succeeds options content data source read fits
    obtain ⟨result, audited, all⟩ := founded succeeds options.settings
      options.rules _ data source rfl read fits
    refine ⟨result, ?_, all⟩
    rw [auditPlaces_eq, audited]
    rfl

def paidRules : Sheet :=
  ⟨"ConditionRule", ["No", "Description", "Guard", "Check"],
    [[.text "R1", .text "paid", .text "Status==Paid|Settled",
      .text "Amount>0"]]⟩

def paidMap : Sheet :=
  ⟨"DataMap", ["Column", "Type"], [[.text "Amount", .text "number"]]⟩

def paidRulesText : String :=
  "No,Description,Guard,Check\nR1,paid,Status==Paid|Settled,Amount>0\n"

def paidMapText : String :=
  "Column,Type\nAmount,number\n"

def paidDirectory : List DirectoryEntry :=
  [⟨"ConditionRule.csv".toUTF8.toList, some (.ok paidRulesText.toUTF8.toList)⟩,
    ⟨"DataMap.csv".toUTF8.toList, some (.ok paidMapText.toUTF8.toList)⟩]

theorem lint_foretells_paid :
    ∃ workbook, Workbook.ofDirectory {} "rules" paidDirectory = .ok workbook ∧
      workbook.role .dataMap = .ok paidMap ∧
      workbook.role .conditionRules = .ok paidRules ∧
      (∃ lines, lintPlace "rules" false (.directory (.ok paidDirectory)) =
        .success lines) ∧
      LintForetells "rules" false paidDirectory (Rule.ofSheet paidRules) := by
  obtain ⟨ruleSource, readRules⟩ := Reading.exists_sheetOfFile
    (show Text.decodeLossy
      (splitFileName "ConditionRule.csv".toUTF8.toList).1 = "ConditionRule" by
        decide +kernel)
    (show Reading.sheetOfText {} "ConditionRule" paidRulesText =
      .ok paidRules by decide +kernel)
  obtain ⟨mapSource, readMap⟩ := Reading.exists_sheetOfFile
    (show Text.decodeLossy
      (splitFileName "DataMap.csv".toUTF8.toList).1 = "DataMap" by
        decide +kernel)
    (show Reading.sheetOfText {} "DataMap" paidMapText = .ok paidMap by
      decide +kernel)
  let workbook : Workbook := ⟨[paidRules, paidMap], [ruleSource, mapSource]⟩
  have loaded :
      Workbook.ofDirectory {} "rules" paidDirectory = .ok workbook := by
    have rules := Workbook.sheetFile?_of_extension
      (show (splitFileName "ConditionRule.csv".toUTF8.toList).2 >>=
        Text.decode? = some "csv" by decide +kernel) (by decide +kernel)
    have map := Workbook.sheetFile?_of_extension
      (show (splitFileName "DataMap.csv".toUTF8.toList).2 >>=
        Text.decode? = some "csv" by decide +kernel) (by decide +kernel)
    rw [Workbook.ofDirectory, paidDirectory,
      List.filterMap_cons_some (rules _), List.filterMap_cons_some (map _),
      List.filterMap_nil, List.mergeSort_of_pairwise (by decide +kernel)]
    simp only [Workbook.ofFiles, List.mapM_cons, List.mapM_nil,
      Workbook.readListed, readRules, readMap]
    rfl
  have mapped :
      (Workbook.ofSheets [paidRules, paidMap]).role .dataMap = .ok paidMap := by
    decide +kernel
  have ruled :
      (Workbook.ofSheets [paidRules, paidMap]).role .conditionRules =
        .ok paidRules := by decide +kernel
  have foretells := lint_foretells loaded mapped ruled false
  refine ⟨workbook, loaded, mapped, ruled, ?_, foretells⟩
  exact (foretells.passes [] "").mpr (by decide +kernel)

end Command

end RowAudit
