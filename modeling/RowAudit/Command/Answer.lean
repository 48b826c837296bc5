import RowAudit.Audit
import RowAudit.Command.Request
import RowAudit.Report.Saving

namespace RowAudit.Command

variable {m : Type → Type} [Monad m]

structure Answer where
  exitCode : Nat
  output : List String
  errors : List String
  deriving DecidableEq

namespace Answer

def success (output : List String) : Answer :=
  ⟨0, output, []⟩

def failure (output : List String) (message : String) : Answer :=
  ⟨1, output, ["Error: " ++ message]⟩

end Answer

def padRight (width : Nat) (text : String) : String :=
  text ++ String.ofList (List.replicate (width - text.length) ' ')

def categoryLine (summary : Summary) (category : Category) : String :=
  s!"  {padRight 12 category.label} {(summary.count category).invalid} rows, " ++
    s!"{(summary.violationsIn category).length} errors"

def violationLine (violation : Violation) : String :=
  let row := padRight 5 (toString (violation.row + 1))
  let claim := padRight 12 (violation.claim.getD "-")
  let header := padRight 16 violation.header
  let rule :=
    match violation.ruleNumber? with
    | some number => s!" [rule {number}]"
    | none => ""
  s!"  row {row} {claim} {header} {violation.message}{rule}"

def violationLines (limit : Nat) (violations : List Violation) : List String :=
  let remaining := violations.length - limit
  (violations.take limit).map violationLine ++
    if remaining = 0 then [] else [s!"  ... and {remaining} more"]

def summaryLines (options : AuditOptions) (result : AuditResult) :
    List String :=
  let summary := result.report.summary
  [s!"Validated {result.source.file}"] ++
    (if options.verbose then
      result.ruleSources.map fun source =>
        s!"  rules: {source.file} ({source.digest})"
    else []) ++
    ["", s!"Total rows:   {summary.total}",
      s!"Valid rows:   {summary.types.valid}",
      s!"Invalid rows: {summary.invalid}", categoryLine summary .dataType,
      categoryLine summary .condition, ""] ++
    if summary.isClean then ["No errors found."]
    else "Errors:" :: violationLines options.limit summary.violations

def inputFile (path : String) : Place → Except Fault SheetFile
  | .file (.ok content) => .ok ⟨(FilePath.lastName path).toUTF8.toList, content⟩
  | .file (.error obstacle) => .error (.unreadable path obstacle)
  | .directory _ => .error (.unreadable path .isDirectory)
  | .unreachable obstacle => .error (.unreadable path obstacle)

def ruleEntries (path : String)
    (listed : Except Obstacle (List DirectoryEntry)) :
    Except Fault (List DirectoryEntry) :=
  listed.mapError (Fault.unreadable path)

def auditPlaces (options : AuditOptions) (input rules : Place) :
    Except String AuditResult :=
  match input, rules with
  | .unreachable _, _ => .error s!"File not found: {options.input}"
  | _, .directory listed =>
      let settings : Settings :=
        { claimColumn := options.claimColumn
          flagBlankCells := options.flagBlankCells }
      (settings.auditFile options.rules (ruleEntries options.rules listed)
        (inputFile options.input input)).mapError Fault.message
  | _, _ => .error s!"Rules directory not found: {options.rules}"

def resultLines (options : AuditOptions) (result : AuditResult) : List String :=
  if options.asJson then [result.report.summary.toJson.render]
  else summaryLines options result

def savedAnswer (options : AuditOptions) (directory : String)
    (result : AuditResult) (saving : Saving) : Answer :=
  match saving.fault with
  | some fault => .failure [] fault.message
  | none =>
      let lines := resultLines options result
      if options.asJson then .success lines
      else
        .success (s!"Wrote {saving.written.length} files to {directory}" ::
          lines)

def answerAudit (options : AuditOptions) (files : FileAccess m) : m Answer := do
  let input ← files.placeAt options.input
  let rules ← files.placeAt options.rules
  match auditPlaces options input rules, options.output with
  | .error message, _ => return .failure [] message
  | .ok result, none => return .success (resultLines options result)
  | .ok result, some directory =>
      return savedAnswer options directory result
        (← result.report.save files directory)

def lintCondition (verbose : Bool) (rule : Rule) (condition : String) :
    Bool × List String :=
  match Condition.Expr.parse? (Condition.normalize condition) with
  | some e => (false, if verbose then [s!"  ok {rule.number} {e.text}"] else [])
  | none =>
      (true,
        [s!"  error: rule {rule.number}: {condition}",
          "    " ++ Condition.Fault.malformed.message])

def typeWarning? (column : String) (expected : ExpectedType) : Option String :=
  if expected.isOther then
    some s!"  warning: column {column} has unknown type '{expected.token}'"
  else none

def lintWorkbook (verbose : Bool) (workbook : Workbook) :
    Except Fault Answer := do
  let typeMap := TypeMap.ofSheet (← workbook.role .dataMap)
  let rules := Rule.ofSheet (← workbook.role .conditionRules)
  let findings :=
    rules.flatMap fun rule => rule.conditions.map (lintCondition verbose rule)
  let failures := findings.countP Prod.fst
  let lines :=
    [s!"Checking {typeMap.size} mapped columns, {rules.length} rules"] ++
      typeMap.entries.filterMap
        (fun (column, expected) => typeWarning? column expected) ++
      findings.flatMap Prod.snd
  return if failures = 0 then .success (lines ++ ["All conditions parse."])
    else .failure lines s!"{failures} conditions failed to parse"

def lintPlace (rules : String) (verbose : Bool) : Place → Answer
  | .directory listed =>
      let workbook := ruleEntries rules listed >>= Workbook.ofDirectory {} rules
      match workbook >>= lintWorkbook verbose with
      | .ok answer => answer
      | .error fault => .failure [] fault.message
  | _ => .failure [] s!"Rules directory not found: {rules}"

def Request.answer (files : FileAccess m) : Request → m Answer
  | .audit options => answerAudit options files
  | .lint rules verbose =>
      return lintPlace rules verbose (← files.placeAt rules)

def usage : List String :=
  ["Usage: validate INPUT --rules RULES_DIR [--output OUT_DIR] [--json] [--claim-column NAME]",
    "                [--flag-blank-cells] [--limit COUNT] [--verbose]",
    "       lint RULES_DIR [--verbose]"]

def versionLine : Option String → String
  | none => "rulesheet 0.1.0"
  | some command => s!"rulesheet-{command} 0.1.0"

def answerArguments (files : FileAccess m) (arguments : List String) :
    m Answer :=
  match Request.ofArguments arguments with
  | .ok request => request.answer files
  | .error .help => return .success usage
  | .error (.version command) => return .success [versionLine command]
  | .error .usage => return ⟨2, [], usage⟩

end RowAudit.Command
