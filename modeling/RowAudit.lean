import RowAudit.Main
import RowAudit.Files.Tree
import RowAudit.Proofs.Check.Blame
import RowAudit.Proofs.Accounting
import RowAudit.Proofs.Condition.Normal
import RowAudit.Proofs.Condition.Name
import RowAudit.Proofs.Double.Rounding
import RowAudit.Proofs.Condition.Operand
import RowAudit.Proofs.Condition.Leaves
import RowAudit.Proofs.Condition.Printed
import RowAudit.Proofs.Condition.Readers
import RowAudit.Proofs.Condition.Standing
import RowAudit.Proofs.Check.Attribution
import RowAudit.Proofs.Refusal
import RowAudit.Proofs.Batches
import RowAudit.Proofs.Independence
import RowAudit.Proofs.Identifiers
import RowAudit.Proofs.Report.Partition
import RowAudit.Proofs.Check.Vacancy
import RowAudit.Proofs.Condition.Equality
import RowAudit.Proofs.Report.ReadBack
import RowAudit.Proofs.Check.Comparison
import RowAudit.Proofs.Sheet.Columns
import RowAudit.Proofs.UnrelatedColumn
import RowAudit.Proofs.ColumnOrder
import RowAudit.Proofs.LetterCase
import RowAudit.Proofs.Lint
import RowAudit.Proofs.Condition.Precedence
import RowAudit.Proofs.Condition.Misuse
import RowAudit.Proofs.Condition.Joined
import RowAudit.Proofs.Condition.Membership
import RowAudit.Proofs.Calendar.DateTime
import RowAudit.Proofs.Condition.Order
import RowAudit.Proofs.Check.Classification
import RowAudit.Proofs.Calendar.Date
import RowAudit.Proofs.Calendar.DateText
import RowAudit.Proofs.Condition.Chronology
import RowAudit.Proofs.Condition.NumericMembership
import RowAudit.Proofs.Delimited.Detection
import RowAudit.Proofs.Sheet.Normalized
import RowAudit.Proofs.Sheet.Inference
import RowAudit.Proofs.Condition.Inference
import RowAudit.Proofs.Condition.Connectives
import RowAudit.Proofs.Condition.Quoted
import RowAudit.Proofs.Condition.Layout
import RowAudit.Proofs.Condition.WholeDays
import RowAudit.Proofs.Workbook.RuleSheets
import RowAudit.Proofs.InsertionOrder
