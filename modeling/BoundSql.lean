import BoundSql.Floating.Layout
import BoundSql.Floating.Reader
import BoundSql.Text.Alphanumeric
import BoundSql.Text.Blank
import BoundSql.Text.Quoted
import BoundSql.Text.Utf8
import BoundSql.Json.Printer
import BoundSql.Json.Parser
import BoundSql.Uuid
import BoundSql.Calendar.Reader
import BoundSql.Decimal.Reader
import BoundSql.Failure
import BoundSql.Response
import BoundSql.Query.Descriptor
import BoundSql.Statement.Basic
import BoundSql.Session.Script
import BoundSql.Session.Description
import BoundSql.Wire.Column
import BoundSql.Json.Fault
import BoundSql.Uuid.Fault
import BoundSql.Connection.Settings
import BoundSql.Connection.PoolSettings
import BoundSql.Wire.Script
import BoundSql.Proofs.Sql.Tokenisation
import BoundSql.Proofs.Sql.Fragment
import BoundSql.Proofs.Statement.Source
import BoundSql.Proofs.Sql.Marker
import BoundSql.Proofs.Sql.Concatenation
import BoundSql.Proofs.Statement.Numbering
import BoundSql.Proofs.Statement.Counting
import BoundSql.Proofs.Session.Protocol
import BoundSql.Proofs.Decimal.Padding
import BoundSql.Proofs.Decimal.FixedWidth
import BoundSql.Proofs.Wire.Word
import BoundSql.Proofs.Wire.Numeric.Group
import BoundSql.Proofs.Wire.Numeric.Literal
import BoundSql.Proofs.Wire.Numeric.Written
import BoundSql.Proofs.Wire.Numeric.Stored
import BoundSql.Proofs.Session.Nesting
import BoundSql.Proofs.Session.Custody
import BoundSql.Proofs.Sql.Renumbering
import BoundSql.Proofs.Statement.Accumulation
import BoundSql.Failure.Node
import BoundSql.Proofs.Session.Undoing
import BoundSql.Proofs.Session.Logging
import BoundSql.Proofs.Json.Document
import BoundSql.Proofs.Json.Reading
import BoundSql.Proofs.Query.Descriptor
import BoundSql.Proofs.Text.Utf8
import BoundSql.Proofs.Decimal.Integer
import BoundSql.Proofs.Uuid
import BoundSql.Proofs.Wire.IntegerParameter
import BoundSql.Proofs.Wire.TextForm
import BoundSql.Proofs.Url.Authority
import BoundSql.Proofs.Connection.Credentials
import BoundSql.Proofs.Wire.Moment
import BoundSql.Proofs.Wire.Meaning
import BoundSql.Proofs.Floating.Order
import BoundSql.Proofs.Floating.Finite
import BoundSql.Proofs.Floating.Shortest
import BoundSql.Proofs.Json.Literal
import BoundSql.Proofs.Json.Real
import BoundSql.Proofs.Wire.Soundness
import BoundSql.Proofs.Sql.Leftover
import BoundSql.Proofs.Sql.Mention
import BoundSql.Proofs.Statement.Body
import BoundSql.Proofs.Statement.Paging
import BoundSql.Proofs.Wire.Numeric.Exact
import BoundSql.Proofs.Wire.Numeric.Shown
import BoundSql.Proofs.Wire.Numeric.Acceptance
import BoundSql.Proofs.Wire.Numeric.SignWord
import BoundSql.Proofs.Session.Table
import BoundSql.Proofs.Record
import BoundSql.Proofs.Wire.Row
import BoundSql.Proofs.Wire.Batch
import BoundSql.Proofs.Wire.Execution
import BoundSql.Proofs.Failure.Context
import BoundSql.Proofs.Session.Creation
import BoundSql.Proofs.Wire.Numeric.Bounds
