import RowAudit.Check.Rules
import RowAudit.Proofs.Text.WholeWord

/-!
What a rule reports of a row, declared condition by condition: which conditions
participate, what each comes to, and which one the rule blames. The check of a
sheet reports just that, row by row and rule by rule.
-/

namespace RowAudit

namespace Condition

/-- Whether a condition has a header in it that names a column. -/
def Mentions (text header : String) : Prop :=
  Column.normalize header ≠ "" ∧
    Text.WholeWord (Column.normalize header).toList (normalize text).toList

def Participates (headers : List String) (text : String) : Prop :=
  ∃ header ∈ headers, Mentions text header

structure FirstMention (headers : List String) (text header : String) :
    Prop where
  mentioned : Mentions text header
  first : ∃ earlier later, headers = earlier ++ header :: later ∧
    ∀ other ∈ earlier, ¬ Mentions text other

/-- What a condition comes to on a row; one that does not parse or evaluate is
undecided. -/
inductive Judgement where
  | holds
  | fails
  | undecided
  deriving DecidableEq

def judge (row : Row) (text : String) : Judgement :=
  match Expr.parse? (normalize text) with
  | none => .undecided
  | some e =>
      match e.evaluate row with
      | .ok value => if value.isTruthy then .holds else .fails
      | .error _ => .undecided

end Condition

namespace Rule

/-- The condition that a rule names of a row, of all its conditions. -/
inductive Blames (headers : List String) (row : Row) :
    List String → String → Prop
  | guard {guard : String} {checks : List String}
      (participates : Condition.Participates headers guard)
      (undecided : Condition.judge row guard = .undecided) :
      Blames headers row (guard :: checks) guard
  | check {guard broken : String} {passed later : List String}
      (met : Condition.Participates headers guard →
        Condition.judge row guard = .holds)
      (passes : ∀ earlier ∈ passed,
        Condition.Participates headers earlier →
        Condition.judge row earlier = .holds)
      (participates : Condition.Participates headers broken)
      (breaks : Condition.judge row broken ≠ .holds) :
      Blames headers row (guard :: (passed ++ broken :: later)) broken

/-- What a rule has to say of a row: it names a condition, and the first header
which that mentions. -/
inductive Reports (headers : List String) (claimColumn : String) (index : Nat)
    (row : Row) (rule : Rule) : Violation → Prop
  | mk {text header : String}
      (blamed : Blames headers row rule.conditions text)
      (attributed : Condition.FirstMention headers text header) :
      Reports headers claimColumn index row rule
        { row := index
          claim := row.claim? (Column.normalize claimColumn)
          header := Text.trimmed header
          value := row.cell (Column.normalize header)
          breach := .condition rule.number rule.description text }

namespace Blames

variable {headers checks : List String} {row : Row} {guard text : String}

/-- Once the guard is met or does not participate, the first broken check is to
blame. -/
theorem iff_of_met
    (met : Condition.Participates headers guard →
      Condition.judge row guard = .holds) :
    Blames headers row (guard :: checks) text ↔
      ∃ passed later, checks = passed ++ text :: later ∧
        (∀ earlier ∈ passed, Condition.Participates headers earlier →
          Condition.judge row earlier = .holds) ∧
        Condition.Participates headers text ∧
          Condition.judge row text ≠ .holds := by
  constructor
  · intro blamed
    cases blamed with
    | guard participates undecided =>
        rw [met participates] at undecided
        cases undecided
    | check met passes participates breaks =>
        exact ⟨_, _, rfl, passes, participates, breaks⟩
  · intro found
    obtain ⟨passed, later, rfl, passes, participates, breaks⟩ := found
    exact .check met passes participates breaks

theorem not_of_fails (participates : Condition.Participates headers guard)
    (fails : Condition.judge row guard = .fails) :
    ¬ Blames headers row (guard :: checks) text := by
  intro blamed
  cases blamed with
  | guard _ undecided => simp [fails] at undecided
  | check met _ _ _ => simp [fails] at met; exact met participates

theorem iff_of_undecided (participates : Condition.Participates headers guard)
    (undecided : Condition.judge row guard = .undecided) :
    Blames headers row (guard :: checks) text ↔ guard = text := by
  constructor
  · intro blamed
    cases blamed with
    | guard _ _ => rfl
    | check met _ _ _ => simp [undecided] at met; exact absurd participates met
  · intro same
    subst same
    exact .guard participates undecided

theorem participates {conditions : List String}
    (blamed : Blames headers row conditions text) :
    Condition.Participates headers text := by
  cases blamed with
  | guard participates _ => exact participates
  | check _ _ participates _ => exact participates

end Blames

end Rule

namespace PreparedCondition

variable {headers : List String} {text : String} {row : Row}

theorem header_prepare (headers : List String) (text : String) :
    (prepare (Header.declared headers) text).header =
      (headers.find? fun header => Column.normalize header ≠ "" &&
        Text.mentions (Condition.normalize text).toList
          (Column.normalize header).toList).map
          fun header => ⟨Text.trimmed header, Column.normalize header⟩ := by
  simp only [prepare, Header.declared, List.find?_filter, List.find?_map]
  congr 2
  funext header
  simp

theorem mentions_eq_true_iff {header : String} :
    (Column.normalize header ≠ "" &&
        Text.mentions (Condition.normalize text).toList
          (Column.normalize header).toList) = true ↔
      Condition.Mentions text header := by
  simp [Condition.Mentions, Text.mentions_iff]

theorem header_prepare_eq_some_iff {attribution : Header} :
    (prepare (Header.declared headers) text).header = some attribution ↔
      ∃ header, Condition.FirstMention headers text header ∧
        ⟨Text.trimmed header, Column.normalize header⟩ = attribution := by
  rw [header_prepare, Option.map_eq_some_iff]
  simp only [List.find?_eq_some_iff_append, Bool.not_eq_true',
    ← Bool.not_eq_true, mentions_eq_true_iff]
  constructor
  · intro found
    obtain ⟨header, ⟨mentioned, first⟩, same⟩ := found
    exact ⟨header, ⟨mentioned, first⟩, same⟩
  · intro found
    obtain ⟨header, ⟨mentioned, first⟩, same⟩ := found
    exact ⟨header, ⟨mentioned, first⟩, same⟩

theorem takesPart_prepare_iff :
    (prepare (Header.declared headers) text).takesPart = true ↔
      Condition.Participates headers text := by
  rw [takesPart, header_prepare, Option.isSome_map, List.find?_isSome]
  simp only [mentions_eq_true_iff, Condition.Participates]

theorem exists_firstMention
    (participates : Condition.Participates headers text) :
    ∃ header, Condition.FirstMention headers text header := by
  obtain ⟨attribution, found⟩ :=
    Option.isSome_iff_exists.mp (takesPart_prepare_iff.mpr participates)
  obtain ⟨header, attributed, -⟩ := header_prepare_eq_some_iff.mp found
  exact ⟨header, attributed⟩

theorem judge_eq (declared : List Header) (row : Row) (text : String) :
    Condition.judge row text =
      match (prepare declared text).verdict row with
      | .ok true => .holds
      | .ok false => .fails
      | .error _ => .undecided := by
  simp only [Condition.judge, verdict, prepare]
  cases Condition.Expr.parse? (Condition.normalize text) with
  | none => rfl
  | some e =>
      simp only [Condition.isSatisfied, Condition.Expr.isSatisfied]
      cases e.evaluate row with
      | error fault => rfl
      | ok value =>
          cases truthy : value.isTruthy <;>
            simp [truthy, bind, Except.bind, pure, Except.pure]

theorem fails_prepare_iff :
    (prepare (Header.declared headers) text).fails row = true ↔
      Condition.Participates headers text ∧
        Condition.judge row text ≠ .holds := by
  rw [fails, Bool.and_eq_true, takesPart_prepare_iff,
    judge_eq (Header.declared headers)]
  rcases (prepare (Header.declared headers) text).verdict row with fault | met
  · simp
  · cases met <;> simp

end PreparedCondition

namespace PreparedRule

variable {headers conditions : List String} {rule : Rule} {row : Row}

theorem prepare?_eq_some_iff {declared : List Header}
    {prepared : PreparedRule} :
    prepare? declared rule = some prepared ↔
      ∃ guard checks, rule.conditions = guard :: checks ∧
        { number := rule.number
          description := rule.description
          guard := .prepare declared guard
          checks := checks.map (.prepare declared) } = prepared := by
  rw [prepare?]
  cases rule.conditions with
  | nil => simp
  | cons guard checks =>
      constructor
      · intro same
        exact ⟨guard, checks, rfl, Option.some.inj same⟩
      · intro found
        obtain ⟨other, others, same, rfl⟩ := found
        obtain ⟨rfl, rfl⟩ := List.cons.inj same
        rfl

theorem exists_prepare? (declared : List Header) {text : String}
    (blamed : Rule.Blames headers row rule.conditions text) :
    ∃ prepared, prepare? declared rule = some prepared := by
  cases all : rule.conditions with
  | nil =>
      rw [all] at blamed
      cases blamed
  | cons guard checks =>
      exact ⟨_, prepare?_eq_some_iff.mpr ⟨guard, checks, all, rfl⟩⟩

theorem find?_fails_eq_some_iff {guard : String} {checks : List String}
    {named : PreparedCondition}
    (met : Condition.Participates headers guard →
      Condition.judge row guard = .holds) :
    (checks.map (.prepare (Header.declared headers))).find? (·.fails row) =
      some named ↔
      ∃ text, Rule.Blames headers row (guard :: checks) text ∧
        PreparedCondition.prepare (Header.declared headers) text = named := by
  rw [List.find?_map, Option.map_eq_some_iff]
  simp only [List.find?_eq_some_iff_append, Function.comp_apply,
    Bool.not_eq_true', ← Bool.not_eq_true, PreparedCondition.fails_prepare_iff,
    Rule.Blames.iff_of_met met, not_and, ne_eq, Decidable.not_not]
  constructor
  · intro found
    obtain ⟨text, ⟨⟨participates, breaks⟩, passed, later, split, passes⟩,
        same⟩ := found
    exact ⟨text, ⟨passed, later, split, passes, participates, breaks⟩, same⟩
  · intro found
    obtain ⟨text, ⟨passed, later, split, passes, participates, breaks⟩, same⟩ :=
      found
    exact ⟨text, ⟨⟨participates, breaks⟩, passed, later, split, passes⟩, same⟩

theorem violated?_eq_some_iff {prepared : PreparedRule}
    {named : PreparedCondition}
    (ready : prepare? (Header.declared headers) rule = some prepared) :
    prepared.violated? row = some named ↔
      ∃ text, Rule.Blames headers row rule.conditions text ∧
        PreparedCondition.prepare (Header.declared headers) text = named := by
  obtain ⟨guard, checks, all, rfl⟩ := prepare?_eq_some_iff.mp ready
  rw [all, violated?]
  by_cases participates : Condition.Participates headers guard
  · rw [if_pos (PreparedCondition.takesPart_prepare_iff.mpr participates)]
    have judged :=
      PreparedCondition.judge_eq (Header.declared headers) row guard
    split <;> rename_i verdict <;> simp only [verdict] at judged
    · exact find?_fails_eq_some_iff fun _ => judged
    · simp [Rule.Blames.not_of_fails participates judged]
    · simp [Rule.Blames.iff_of_undecided participates judged]
  · rw [if_neg (mt PreparedCondition.takesPart_prepare_iff.mp participates)]
    exact find?_fails_eq_some_iff fun present => absurd present participates

end PreparedRule

namespace RuleCheck

variable {headers : List String} {claimColumn : String} {index : Nat}
  {row : Row} {rule : Rule}

def report? (headers : List String) (claimColumn : String) (index : Nat)
    (row : Row) (rule : Rule) : Option Violation :=
  (PreparedRule.prepare? (Header.declared headers) rule).bind fun prepared =>
    (prepared.violated? row).map
      (violation ⟨[], claimColumn⟩ index row prepared)

theorem violation_prepare {prepared : PreparedRule} {text header : String}
    (ready : PreparedRule.prepare? (Header.declared headers) rule =
      some prepared) (attributed : Condition.FirstMention headers text header) :
    violation ⟨[], claimColumn⟩ index row prepared
      (.prepare (Header.declared headers) text) =
      { row := index
        claim := row.claim? (Column.normalize claimColumn)
        header := Text.trimmed header
        value := row.cell (Column.normalize header)
        breach := .condition rule.number rule.description text } := by
  obtain ⟨guard, checks, -, rfl⟩ := PreparedRule.prepare?_eq_some_iff.mp ready
  have found :=
    PreparedCondition.header_prepare_eq_some_iff.mpr ⟨header, attributed, rfl⟩
  simp only [violation, found, Option.map_some, Option.getD_some]
  rfl

theorem report?_eq_some_iff {violation : Violation} :
    report? headers claimColumn index row rule = some violation ↔
      rule.Reports headers claimColumn index row violation := by
  simp only [report?, Option.bind_eq_some_iff, Option.map_eq_some_iff]
  constructor
  · intro found
    obtain ⟨prepared, ready, named, violated, rfl⟩ := found
    obtain ⟨text, blamed, rfl⟩ :=
      (PreparedRule.violated?_eq_some_iff ready).mp violated
    obtain ⟨header, attributed⟩ :=
      PreparedCondition.exists_firstMention blamed.participates
    rw [violation_prepare ready attributed]
    exact .mk blamed attributed
  · intro reported
    cases reported with
    | mk blamed attributed =>
        obtain ⟨prepared, ready⟩ :=
          PreparedRule.exists_prepare? (Header.declared headers) blamed
        exact ⟨prepared, ready, _,
          (PreparedRule.violated?_eq_some_iff ready).mpr ⟨_, blamed, rfl⟩,
          violation_prepare ready attributed⟩

theorem violations_prepare (rules : List Rule) (headers : List String)
    (claimColumn : String) (index : Nat) (row : Row) :
    (prepare rules headers claimColumn).violations index row =
      rules.filterMap (report? headers claimColumn index row) := by
  simp only [violations, prepare, List.filterMap_filterMap]
  rfl

theorem violations_tally (check : RuleCheck) (rows : List Row) :
    (check.tally rows).violations =
      rows.zipIdx.flatMap fun (row, index) => check.violations index row := rfl

theorem violations_eq_reports (rules : List Rule) (headers : List String)
    (claimColumn : String) (rows : List Row) :
    ∃ report : Nat → Row → Rule → Option Violation,
      (∀ index row rule violation, report index row rule = some violation ↔
        rule.Reports headers claimColumn index row violation) ∧
      ((prepare rules headers claimColumn).tally rows).violations =
        rows.zipIdx.flatMap fun (row, index) =>
          rules.filterMap (report index row) := by
  refine ⟨report? headers claimColumn, fun _ _ _ _ => report?_eq_some_iff, ?_⟩
  simp only [violations_tally, violations_prepare]

end RuleCheck

end RowAudit
