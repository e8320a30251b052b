import DataMapper.Binder
import DataMapper.Condition
import DataMapper.Config
import DataMapper.Conversion
import DataMapper.Criteria
import DataMapper.Definition
import DataMapper.Dialect
import DataMapper.Document
import DataMapper.Entity
import DataMapper.Entity.Coercion
import DataMapper.Entity.Context
import DataMapper.Entity.Transfer
import DataMapper.Error
import DataMapper.Expression
import DataMapper.FieldType
import DataMapper.Identifier
import DataMapper.Json
import DataMapper.Json.Access
import DataMapper.Json.Scalar
import DataMapper.Json.Written
import DataMapper.Marker
import DataMapper.Number.Binary
import DataMapper.Number.Literal
import DataMapper.Number.Shortest
import DataMapper.OutboundRow
import DataMapper.Proofs.Binder
import DataMapper.Proofs.Binder.Calls
import DataMapper.Proofs.Binder.Names
import DataMapper.Proofs.Coercion
import DataMapper.Proofs.Coercion.Places
import DataMapper.Proofs.Condition.Clause
import DataMapper.Proofs.Condition.Grammar
import DataMapper.Proofs.Condition.Meaning
import DataMapper.Proofs.Condition.Precedence
import DataMapper.Proofs.Condition.Reading
import DataMapper.Proofs.Condition.Truth
import DataMapper.Proofs.Conversion
import DataMapper.Proofs.Conversion.Places
import DataMapper.Proofs.Definition
import DataMapper.Proofs.Definition.Regions
import DataMapper.Proofs.Entity.Bound
import DataMapper.Proofs.Entity.Context
import DataMapper.Proofs.Entity.Labels
import DataMapper.Proofs.Entity.Outbound
import DataMapper.Proofs.Entity.Populated
import DataMapper.Proofs.Entity.ReadBack
import DataMapper.Proofs.Entity.Reading
import DataMapper.Proofs.Entity.Rearranged
import DataMapper.Proofs.Entity.Stored
import DataMapper.Proofs.Entity.StoredRow
import DataMapper.Proofs.Expression.Pieces
import DataMapper.Proofs.Expression.Placeholders
import DataMapper.Proofs.Expression.Split
import DataMapper.Proofs.FieldType
import DataMapper.Proofs.FieldType.Places
import DataMapper.Proofs.Identifier
import DataMapper.Proofs.Identifier.Hashed
import DataMapper.Proofs.Leaves
import DataMapper.Proofs.Leaves.Regrouped
import DataMapper.Proofs.Lowering
import DataMapper.Proofs.Marker.Distinct
import DataMapper.Proofs.Marker.Run
import DataMapper.Proofs.Nulls
import DataMapper.Proofs.OutboundRow
import DataMapper.Proofs.OutboundRow.Edits
import DataMapper.Proofs.Outcome
import DataMapper.Proofs.Pattern
import DataMapper.Proofs.Row.Labels
import DataMapper.Proofs.Row.Stream
import DataMapper.Proofs.Statement.Columns
import DataMapper.Proofs.Statement.Compared
import DataMapper.Proofs.Statement.Markers
import DataMapper.Proofs.Statement.OutboundRow
import DataMapper.Proofs.Statement.Refusal
import DataMapper.Proofs.Statement.RowPlan
import DataMapper.Proofs.Statement.Values
import DataMapper.Proofs.Strategy
import DataMapper.Proofs.Template.Bytes
import DataMapper.Proofs.Template.Cache
import DataMapper.Proofs.Template.Expanded
import DataMapper.Proofs.Template.Expansion
import DataMapper.Proofs.Template.Joined
import DataMapper.Proofs.Template.Placeholders
import DataMapper.Proofs.Template.QuotedName
import DataMapper.Proofs.Template.Recent
import DataMapper.Proofs.Template.Regions
import DataMapper.Proofs.Template.Scan
import DataMapper.Proofs.Template.Spans
import DataMapper.Proofs.Text.SnakeCase
import DataMapper.Row
import DataMapper.Row.Stream
import DataMapper.Settable
import DataMapper.Spec
import DataMapper.Sql
import DataMapper.SqlType
import DataMapper.Statement
import DataMapper.StatementMapper
import DataMapper.Strategy
import DataMapper.Template
import DataMapper.Template.Cache
import DataMapper.Template.Expansion
import DataMapper.Text.CaseTable
import DataMapper.Text.CharClass
import DataMapper.Text.LetterCase
import DataMapper.Text.Shown
import DataMapper.Value
