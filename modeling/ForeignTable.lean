import ForeignTable.Address
import ForeignTable.Batch
import ForeignTable.Binding
import ForeignTable.Calendar.Date
import ForeignTable.Calendar.Instant
import ForeignTable.Calendar.Zone
import ForeignTable.ColumnType
import ForeignTable.Columnar
import ForeignTable.Consistency
import ForeignTable.Cost
import ForeignTable.Datum
import ForeignTable.Datum.Display
import ForeignTable.Datum.Input
import ForeignTable.Error
import ForeignTable.Floating
import ForeignTable.Floating.Reading
import ForeignTable.Floating.Rounding
import ForeignTable.Floating.Shortest
import ForeignTable.Import
import ForeignTable.Materialize
import ForeignTable.Operation
import ForeignTable.Options
import ForeignTable.Plan.Scan
import ForeignTable.Plan.Write
import ForeignTable.Proofs.Address
import ForeignTable.Proofs.Attempt
import ForeignTable.Proofs.Binding
import ForeignTable.Proofs.ByteString
import ForeignTable.Proofs.Calendar.Civil
import ForeignTable.Proofs.CharacterLimit
import ForeignTable.Proofs.Columnar
import ForeignTable.Proofs.Columnar.Cells
import ForeignTable.Proofs.Exchange.Calendar
import ForeignTable.Proofs.Exchange.Import
import ForeignTable.Proofs.Exchange.ReadBack
import ForeignTable.Proofs.Exchange.Rendered
import ForeignTable.Proofs.Exchange.Scalar
import ForeignTable.Proofs.Exchange.Shown
import ForeignTable.Proofs.Exchange.Timestamp
import ForeignTable.Proofs.Exchange.WallClock
import ForeignTable.Proofs.Exchange.Years
import ForeignTable.Proofs.Import.Declaration
import ForeignTable.Proofs.Import.Keyspace
import ForeignTable.Proofs.Import.Reader
import ForeignTable.Proofs.Integer
import ForeignTable.Proofs.LocalFailure
import ForeignTable.Proofs.Lookups
import ForeignTable.Proofs.Materialize
import ForeignTable.Proofs.Materializer
import ForeignTable.Proofs.Numeric
import ForeignTable.Proofs.Options.Acceptance
import ForeignTable.Proofs.Options.Settings
import ForeignTable.Proofs.Placeholders
import ForeignTable.Proofs.Placement
import ForeignTable.Proofs.Projection
import ForeignTable.Proofs.Scan.Cursor
import ForeignTable.Proofs.Scan.Failure
import ForeignTable.Proofs.Scan.Rows
import ForeignTable.Proofs.Scan.Sending
import ForeignTable.Proofs.ScanPlanning
import ForeignTable.Proofs.Sessions.Operation
import ForeignTable.Proofs.Sessions.Pool
import ForeignTable.Proofs.Sql.Identifier
import ForeignTable.Proofs.Sql.Quoted
import ForeignTable.Proofs.Sql.Reader
import ForeignTable.Proofs.Sql.Token
import ForeignTable.Proofs.Sql.Unambiguous
import ForeignTable.Proofs.Sql.Written
import ForeignTable.Proofs.Store
import ForeignTable.Proofs.Text.Hex
import ForeignTable.Proofs.Text.Letters
import ForeignTable.Proofs.Text.Literal
import ForeignTable.Proofs.Text.Padding
import ForeignTable.Proofs.Timestamp.HalfAway
import ForeignTable.Proofs.Timestamp.Offset
import ForeignTable.Proofs.Timestamp.Parts
import ForeignTable.Proofs.Timestamp.Range
import ForeignTable.Proofs.Timestamp.Reading
import ForeignTable.Proofs.Timestamp.Rounding
import ForeignTable.Proofs.Timestamp.Suffix
import ForeignTable.Proofs.Transfer
import ForeignTable.Proofs.TypeName
import ForeignTable.Proofs.Uuid
import ForeignTable.Proofs.Write.Calls
import ForeignTable.Proofs.Write.Effect
import ForeignTable.Proofs.Write.Layout
import ForeignTable.Proofs.Write.Outcome
import ForeignTable.Proofs.Write.Record
import ForeignTable.Proofs.WritePlanning
import ForeignTable.Proofs.WriteRequest
import ForeignTable.Relation
import ForeignTable.Remote.Keyspace
import ForeignTable.Remote.Kind
import ForeignTable.Remote.Session
import ForeignTable.Remote.Statement
import ForeignTable.Remote.Store
import ForeignTable.Remote.Value
import ForeignTable.Scan
import ForeignTable.Signed
import ForeignTable.Sql.Name
import ForeignTable.Sql.Statement
import ForeignTable.Text.Blank
import ForeignTable.Text.Digits
import ForeignTable.Text.Hex
import ForeignTable.Text.Integer
import ForeignTable.Text.Invisible
import ForeignTable.Text.Letters
import ForeignTable.Text.Quoted
import ForeignTable.Text.Split
import ForeignTable.Timestamp
import ForeignTable.Timestamp.Reading
import ForeignTable.UsedColumns
import ForeignTable.Uuid
import ForeignTable.Write
