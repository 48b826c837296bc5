import Mathlib.Data.List.Forall2
import RowAudit.Proofs.Check.Blame
import RowAudit.Proofs.Condition.Dependence
import RowAudit.Proofs.Sheet.Fit

/-!
Two audits side by side. Whatever two rows have in common, it is enough to
compare what is found in one row with what is found in the other, rule by rule
and column by column: the tallies and the summaries of all rows then compare in
the same way.
-/

namespace RowAudit

namespace Condition

variable {row other : Row} {text : String}

/-- Whether a condition looks up a column: one of its expression, if it is well
formed. -/
def Reads (text name : String) : Prop :=
  ∃ e, Expr.parse? (normalize text) = some e ∧ name ∈ e.columns

instance (text name : String) : Decidable (Reads text name) :=
  decidable_of_iff
    ((Expr.parse? (normalize text)).any fun e => name ∈ e.columns) <| by
    simp [Reads, Option.any_eq_true]

theorem judge_congr
    (same : ∀ name, Reads text name →
      Value.ofCell (row.cell name) = Value.ofCell (other.cell name)) :
    judge row text = judge other text := by
  unfold judge
  cases parsed : Expr.parse? (normalize text) with
  | none => rfl
  | some e =>
      have value : e.evaluate row = e.evaluate other :=
        Expr.evaluate_congr fun name member => same name ⟨e, parsed, member⟩
      simp only [value]

end Condition

theorem Row.claim?_congr {row other : Row} {column : String}
    (same : row.cell column = other.cell column) :
    row.claim? column = other.claim? column := by
  rw [claim?, claim?, same]

namespace Rule.Blames

variable {headers others conditions : List String} {row other : Row}
  {text : String}

theorem mem (blamed : Blames headers row conditions text) :
    text ∈ conditions := by
  cases blamed with
  | guard participates undecided => exact List.mem_cons_self
  | check met passes participates breaks =>
      exact List.mem_cons_of_mem _ (List.mem_append_right _ List.mem_cons_self)

theorem judge_ne_holds (blamed : Blames headers row conditions text) :
    Condition.judge row text ≠ .holds := by
  cases blamed with
  | guard participates undecided =>
      rw [undecided]
      exact Condition.Judgement.noConfusion
  | check met passes participates breaks => exact breaks

/-- Which condition is to blame hangs on nothing but which conditions
participate and what they come to. -/
theorem transfer
    (participate : ∀ text, Condition.Participates headers text ↔
      Condition.Participates others text)
    (judged : ∀ text ∈ conditions,
        Condition.judge row text = Condition.judge other text)
    (blamed : Blames headers row conditions text) :
    Blames others other conditions text := by
  cases blamed with
  | guard participates undecided =>
      refine .guard ((participate _).mp participates) ?_
      rw [← judged _ List.mem_cons_self]
      exact undecided
  | check met passes participates breaks =>
      obtain ⟨judgedGuard, judgedChecks⟩ := List.forall_mem_cons.mp judged
      obtain ⟨judgedPassed, judgedLater⟩ :=
        List.forall_mem_append.mp judgedChecks
      refine .check ?_ ?_ ((participate _).mp participates) ?_
      · rw [← judgedGuard]
        exact fun present => met ((participate _).mpr present)
      · intro earlier member present
        rw [← judgedPassed earlier member]
        exact passes earlier member ((participate _).mpr present)
      · rw [← judgedLater _ List.mem_cons_self]
        exact breaks

end Rule.Blames

namespace RuleCheck

variable {headers others : List String} {claimColumn : String} {rule : Rule}
  {index : Nat} {row other : Row} {alike : Violation → Violation → Prop}

/-- What a rule reads of a row: the claim, the cells under the headers, and what
its conditions look up. -/
def Looks (headers : List String) (claimColumn : String) (rule : Rule)
    (column : String) : Prop :=
  column = Column.normalize claimColumn ∨
    (∃ header ∈ headers, Column.normalize header = column) ∨
    ∃ text ∈ rule.conditions, Condition.Reads text column

theorem reports_congr {violation : Violation}
    (agree : ∀ column, Looks headers claimColumn rule column →
      row.cell column = other.cell column)
    (reports : rule.Reports headers claimColumn index row violation) :
    rule.Reports headers claimColumn index other violation := by
  cases reports with
  | @mk text header blamed attributed =>
      have judged (text : String) (member : text ∈ rule.conditions) :
          Condition.judge row text = Condition.judge other text := by
        apply Condition.judge_congr
        intro column reads
        rw [agree column (.inr (.inr ⟨text, member, reads⟩))]
      have among : header ∈ headers := by
        obtain ⟨earlier, later, split, -⟩ := attributed.first
        rw [split]
        exact List.mem_append_right _ List.mem_cons_self
      rw [Row.claim?_congr (agree _ (.inl rfl)),
        agree _ (.inr (.inl ⟨header, among, rfl⟩))]
      exact .mk (blamed.transfer (fun _ => .rfl) judged) attributed

theorem report?_congr
    (agree : ∀ column, Looks headers claimColumn rule column →
      row.cell column = other.cell column) (index : Nat) :
    report? headers claimColumn index row rule =
      report? headers claimColumn index other rule := by
  apply Option.ext
  intro violation
  rw [report?_eq_some_iff, report?_eq_some_iff]
  exact ⟨reports_congr agree, reports_congr fun column looks =>
    (agree column looks).symm⟩

/-- A rule reports alike of two rows if each report on the one has its match on
the other. -/
theorem report?_rel
    (forth : ∀ violation, rule.Reports headers claimColumn index row violation →
      ∃ counterpart, rule.Reports others claimColumn index other counterpart ∧
        alike violation counterpart)
    (back : ∀ counterpart,
      rule.Reports others claimColumn index other counterpart →
      ∃ violation, rule.Reports headers claimColumn index row violation) :
    Option.Rel alike (report? headers claimColumn index row rule)
      (report? others claimColumn index other rule) := by
  cases found : report? headers claimColumn index row rule with
  | some violation =>
      obtain ⟨counterpart, reports, matching⟩ :=
        forth violation (report?_eq_some_iff.mp found)
      rw [report?_eq_some_iff.mpr reports]
      exact .some matching
  | none =>
      cases opposite : report? others claimColumn index other rule with
      | none => exact .none
      | some counterpart =>
          obtain ⟨violation, reports⟩ :=
            back counterpart (report?_eq_some_iff.mp opposite)
          rw [report?_eq_some_iff.mpr reports] at found
          cases found

end RuleCheck

theorem TypeCheck.columnViolation?_congr {check : TypeCheck} {index : Nat}
    {row other : Row} {column : String} {expected : ExpectedType}
    (claim : row.cell (Column.normalize check.claimColumn) =
      other.cell (Column.normalize check.claimColumn))
    (cell : row.cell column = other.cell column) :
    check.columnViolation? index row column expected =
      check.columnViolation? index other column expected := by
  rw [columnViolation?, columnViolation?, cell, Row.claim?_congr claim]

theorem rel_of_eq {α : Type} {left right : Option α} (same : left = right) :
    Option.Rel (· = ·) left right := by
  subst same
  cases left with
  | none => exact .none
  | some value => exact .some rfl

theorem forall₂_filterMap {α β : Type} {alike : β → β → Prop}
    {left right : α → Option β} {entries : List α}
    (related : ∀ entry ∈ entries, Option.Rel alike (left entry) (right entry)) :
    List.Forall₂ alike (entries.filterMap left) (entries.filterMap right) := by
  have same : List.Forall₂ (fun entry twin => entry = twin ∧ entry ∈ entries)
      entries entries :=
    List.forall₂_same.mpr fun entry member => ⟨rfl, member⟩
  refine List.rel_filterMap ?_ same
  intro entry twin paired
  obtain ⟨rfl, member⟩ := paired
  exact related entry member

namespace Tally

variable {alike : Violation → Violation → Prop}

structure Matches (alike : Violation → Violation → Prop) (tally other : Tally) :
    Prop where
  valid : tally.valid = other.valid
  invalid : tally.invalid = other.invalid
  violations : List.Forall₂ alike tally.violations other.violations

theorem Matches.toCount_eq {tally other : Tally}
    (matching : tally.Matches alike other) : tally.toCount = other.toCount :=
  Count.ext matching.valid matching.invalid

theorem forall₂_of_category {alike : Category → Violation → Violation → Prop}
    {category : Category} {found others : List Violation}
    (related : List.Forall₂ (alike category) found others)
    (foundOwn : ∀ violation ∈ found, violation.category = category)
    (othersOwn : ∀ violation ∈ others, violation.category = category) :
    List.Forall₂ (fun violation twin => violation.category = twin.category ∧
      alike violation.category violation twin) found others := by
  induction related with
  | nil => exact .nil
  | cons here _ ih =>
      obtain ⟨own, foundLater⟩ := List.forall_mem_cons.mp foundOwn
      obtain ⟨twinOwn, othersLater⟩ := List.forall_mem_cons.mp othersOwn
      exact .cons ⟨own.trans twinOwn.symm, own ▸ here⟩
        (ih foundLater othersLater)

theorem ofRows_matches {found others : List (List Violation)}
    (related : List.Forall₂ (List.Forall₂ alike) found others) :
    (ofRows found).Matches alike (ofRows others) := by
  induction related with
  | nil => exact ⟨rfl, rfl, .nil⟩
  | @cons first second rest later here _ ih =>
      obtain ⟨valid, invalid, violations⟩ := ih
      have empty : first.isEmpty = second.isEmpty := by
        cases here <;> rfl
      refine ⟨?_, ?_, List.rel_append here violations⟩
      · simp only [ofRows, List.countP_cons, empty] at valid ⊢
        rw [valid]
      · simp only [ofRows, List.countP_cons, empty] at invalid ⊢
        rw [invalid]

theorem run_matches {related : Row → Row → Prop}
    {check counterpart : Nat → Row → List Violation} {rows others : List Row}
    (pairs : List.Forall₂ related rows others)
    (found : ∀ index row other, related row other →
      List.Forall₂ alike (check index row) (counterpart index other)) :
    (run check rows).Matches alike (run counterpart others) := by
  apply ofRows_matches
  -- Counting from any start on, the induction reaches the later rows.
  generalize 0 = start
  induction pairs generalizing start with
  | nil => exact .nil
  | cons here _ ih => exact .cons (found start _ _ here) (ih (start + 1))

end Tally

/-- Summaries with equal counts, and violations that match one by one, within
each category and in all. -/
structure Summary.Matches (alike : Category → Violation → Violation → Prop)
    (summary other : Summary) : Prop where
  total : summary.total = other.total
  tally : ∀ category,
    (summary.tally category).Matches (alike category) (other.tally category)
  invalid : summary.invalid = other.invalid
  violations : List.Forall₂
    (fun violation twin => violation.category = twin.category ∧
      alike violation.category violation twin)
    summary.violations other.violations

theorem Summary.Matches.eq {summary other : Summary}
    (matching : summary.Matches (fun _ => (· = ·)) other) :
    summary = other := by
  have types : summary.types = other.types :=
    (matching.tally .dataType).toCount_eq
  have conditions : summary.conditions = other.conditions :=
    (matching.tally .condition).toCount_eq
  have violations : summary.violations = other.violations :=
    List.forall₂_eq_eq_eq ▸ matching.violations.imp fun _ _ both => both.2
  have total := matching.total
  have invalid := matching.invalid
  cases summary
  cases other
  simp_all

namespace Settings

variable {settings : Settings} {data other : Sheet} {typeMap : TypeMap}
  {rules : List Rule} {alike : Category → Violation → Violation → Prop}

/-- Two sheets are summed up alike if their rows can be paired so that the same
is found in both of a pair. -/
theorem summaryOf_matches {related : Row → Row → Prop}
    (pairs : List.Forall₂ related (data.rows.map (settings.rowOf data.headers))
      (other.rows.map (settings.rowOf other.headers)))
    (types : ∀ index row twin, related row twin → ∀ entry ∈ typeMap.entries,
      Option.Rel (alike .dataType)
        ((settings.typeCheck typeMap).columnViolation? index row
          entry.1 entry.2)
        ((settings.typeCheck typeMap).columnViolation? index twin
          entry.1 entry.2))
    (conditions : ∀ index row twin, related row twin → ∀ rule ∈ rules,
      Option.Rel (alike .condition)
        (RuleCheck.report? data.headers settings.claimColumn index row rule)
        (RuleCheck.report? other.headers settings.claimColumn index
          twin rule)) :
    (settings.summaryOf data typeMap rules).Matches alike
      (settings.summaryOf other typeMap rules) := by
  have outcomes (category : Category) :
      (settings.tally data.headers typeMap rules
          (data.rows.map (settings.rowOf data.headers)) category).Matches
        (alike category)
        (settings.tally other.headers typeMap rules
          (other.rows.map (settings.rowOf other.headers)) category) := by
    cases category with
    | dataType =>
        exact Tally.run_matches pairs fun index row twin paired =>
          forall₂_filterMap (types index row twin paired)
    | condition =>
        refine Tally.run_matches pairs fun index row twin paired => ?_
        rw [RuleCheck.violations_prepare, RuleCheck.violations_prepare]
        exact forall₂_filterMap (conditions index row twin paired)
  have blocks (category : Category) := Tally.forall₂_of_category
    (outcomes category).violations (category_of_mem_tally category)
    (category_of_mem_tally category)
  refine ⟨?_, fun category => ?_, ?_, ?_⟩
  · have lengths := pairs.length_eq
    rwa [List.length_map, List.length_map] at lengths
  · rw [tally_summaryOf, tally_summaryOf]
    exact outcomes category
  · rw [summaryOf, summaryOf, Summary.invalid_merged, Summary.invalid_merged,
      (outcomes .dataType).invalid, (outcomes .condition).invalid]
  · rw [summaryOf, summaryOf, Summary.violations_merged,
      Summary.violations_merged]
    exact List.rel_append (blocks .dataType) (blocks .condition)

end Settings

end RowAudit
