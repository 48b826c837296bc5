import RowAudit.Check.Tally
import RowAudit.JsonValue

namespace RowAudit

/-- The counts of both checks, and what is merged from the two: a row that both
find invalid counts twice, and the violations of one follow those of the
other. -/
structure Summary where
  total : Nat
  types : Count
  conditions : Count
  invalid : Nat
  violations : List Violation
  deriving DecidableEq

namespace Summary

def ofTotal (total : Nat) : Summary :=
  ⟨total, ⟨0, 0⟩, ⟨0, 0⟩, 0, []⟩

def setCount (summary : Summary) (count : Count) : Category → Summary
  | .dataType => { summary with types := count }
  | .condition => { summary with conditions := count }

def merge (summary : Summary) (category : Category) (tally : Tally) : Summary :=
  { summary.setCount tally.toCount category with
    invalid := summary.invalid + tally.invalid
    violations := summary.violations ++ tally.violations }

def mergeAll (summary : Summary) (outcome : Category → Tally)
    (categories : List Category) : Summary :=
  categories.foldl
    (fun merged category => merged.merge category (outcome category)) summary

def merged (total : Nat) (outcome : Category → Tally) : Summary :=
  (ofTotal total).mergeAll outcome [.dataType, .condition]

def count (summary : Summary) : Category → Count
  | .dataType => summary.types
  | .condition => summary.conditions

def isClean (summary : Summary) : Bool :=
  summary.violations.isEmpty

def violationsIn (summary : Summary) (category : Category) : List Violation :=
  summary.violations.filter fun violation => violation.category = category

/-- The rows with violations of a category, each once, in ascending order. -/
def rowsIn (summary : Summary) (category : Category) : List Nat :=
  ((summary.violationsIn category).map Violation.row).mergeSort.eraseReps

end Summary

def Cell.toJson : Cell → JsonValue
  | .blank => .null
  | .number value => .number value
  | .text value => .text value
  | .date value => .text value.fullText

def Violation.toJson (violation : Violation) : JsonValue :=
  .record <|
    [("row", .count violation.row),
      ("category", .text violation.category.key),
      ("claimNumber", (violation.claim.map JsonValue.text).getD .null),
      ("header", .text violation.header),
      ("value", violation.value.toJson)] ++
    [("ruleNo", violation.ruleNumber?), ("description", violation.description?),
      ("condition", violation.condition?)].filterMap (fun (key, value) =>
        value.map fun text => (key, JsonValue.text text)) ++
    [("message", .text violation.message)]

def Summary.toJson (summary : Summary) : JsonValue :=
  .record
    [("totalRows", .count summary.total),
      ("validRows", .count summary.types.valid),
      ("invalidRows", .count summary.invalid),
      ("invalidRowsByCategory",
        .record
          [(Category.dataType.key, .count summary.types.invalid),
            (Category.condition.key, .count summary.conditions.invalid)]),
      ("conditionValidRows", .count summary.conditions.valid),
      ("errors", .list (summary.violations.map Violation.toJson))]

end RowAudit
