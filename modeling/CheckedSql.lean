import CheckedSql.Building.Change
import CheckedSql.Building.Cte
import CheckedSql.Execution
import CheckedSql.Session
import CheckedSql.Interchange
import CheckedSql.Json.Text
import CheckedSql.Proofs.Part
import CheckedSql.Proofs.Building
import CheckedSql.Proofs.Scoping.Reference
import CheckedSql.Proofs.Scoping.Accounting
import CheckedSql.Proofs.Scoping.Resolution
import CheckedSql.Proofs.Scoping.UnionArm
import CheckedSql.Proofs.Scoping.DerivedTable
import CheckedSql.Proofs.Writing.Literal
import CheckedSql.Proofs.Writing.Layout
import CheckedSql.Proofs.Writing.Written
import CheckedSql.Proofs.Writing.Placeholder
import CheckedSql.Proofs.Built.Order
import CheckedSql.Proofs.Built.Checked
import CheckedSql.Proofs.Consistency
import CheckedSql.Proofs.Scoping.JoinCondition
import CheckedSql.Proofs.Writing.Lexeme
import CheckedSql.Proofs.Writing.Phrase
import CheckedSql.Proofs.Writing.PartPhrase
import CheckedSql.Proofs.Grouping.Segment
import CheckedSql.Proofs.Grouping.UnionTree
import CheckedSql.Proofs.Grouping.JoinReading
import CheckedSql.Proofs.Grouping.UnionReading
import CheckedSql.Proofs.Activity.Verdict
import CheckedSql.Proofs.Scoping.CteReference
import CheckedSql.Proofs.Activity.Settled
import CheckedSql.Proofs.Scoping.DeclaredColumn
import CheckedSql.Proofs.Activity.Pruned
import CheckedSql.Proofs.Activity.Writing
import CheckedSql.Proofs.Built.Typed
import CheckedSql.Proofs.Nullability.JoinedRows
import CheckedSql.Proofs.Nullability.Evaluation
import CheckedSql.Proofs.Nullability.NotNull
import CheckedSql.Proofs.Writing.Scan
import CheckedSql.Proofs.Writing.Piece
import CheckedSql.Proofs.Writing.Contained
import CheckedSql.Proofs.Recovery.Form
import CheckedSql.Proofs.Recovery.Key
import CheckedSql.Proofs.Recovery.Reader
import CheckedSql.Proofs.Recovery.Leaf
import CheckedSql.Proofs.Recovery.Nested
import CheckedSql.Proofs.Recovery.Shape
import CheckedSql.Proofs.Recovery.Expression
import CheckedSql.Proofs.Aggregation.Exposure
import CheckedSql.Proofs.Aggregation.SingleGroup
import CheckedSql.Proofs.Aggregation.RowValue
import CheckedSql.Proofs.Aggregation.Grouped
import CheckedSql.Proofs.Aggregation.Correlation
import CheckedSql.Proofs.Execution
import CheckedSql.Proofs.Definitions.Invariant
import CheckedSql.Proofs.Definitions.Recursion
import CheckedSql.Proofs.Definitions.Order
import CheckedSql.Proofs.Scoping.DistinctTables
import CheckedSql.Proofs.Insertion.RequiredColumns
import CheckedSql.Proofs.Built.WellTyped
import CheckedSql.Proofs.Aggregation.Placement
import CheckedSql.Proofs.ResultRow.SelectList
import CheckedSql.Proofs.ResultRow.Growth
import CheckedSql.Proofs.Insertion.ReadValues
import CheckedSql.Proofs.Writing.Escape
import CheckedSql.Proofs.Writing.EscapedScan
import CheckedSql.Proofs.Writing.Unwritable
import CheckedSql.Proofs.Scoping.StaticPart
import CheckedSql.Proofs.Scoping.StaticAccounting
import CheckedSql.Proofs.Built.Calls
import CheckedSql.Proofs.Built.CallOrder
import CheckedSql.Proofs.OrderedSet
import CheckedSql.Proofs.OrderedSet.Program
import CheckedSql.Proofs.Scoping.NameSets
import CheckedSql.Proofs.Scoping.Preparation
import CheckedSql.Proofs.Insertion.Rows
import CheckedSql.Proofs.Nullability.Chain
import CheckedSql.Proofs.Reflexivity
import CheckedSql.Proofs.Aggregation.Agreement
import CheckedSql.Proofs.Writing.Identifier
import CheckedSql.Proofs.Built.CaseType
import CheckedSql.Proofs.Recovery.ValueText
import CheckedSql.Proofs.Writing.Operators
