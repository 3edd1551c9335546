import RecordSql.Client.Replay
import RecordSql.ConfigDocument
import RecordSql.Declaration.Mapping
import RecordSql.Embedded.Connection
import RecordSql.Handle
import RecordSql.Operation
import RecordSql.Postgres.Exchange
import RecordSql.Transaction
import RecordSql.Proofs.KeyLookup
import RecordSql.Proofs.Select
import RecordSql.Proofs.Template.Reading
import RecordSql.Proofs.Insert
import RecordSql.Proofs.Lookup.Newest
import RecordSql.Proofs.Embedded.Engine
import RecordSql.Proofs.Lookup.NotFound
import RecordSql.Proofs.Embedded.Condition
import RecordSql.Proofs.Text.Numeral
import RecordSql.Proofs.Text.Utf8
import RecordSql.Proofs.Embedded.DeclaredType
import RecordSql.Proofs.Embedded.Reading
import RecordSql.Proofs.Embedded.ReadBack
import RecordSql.Proofs.Embedded.Selection
import RecordSql.Proofs.Embedded.Storing
import RecordSql.Proofs.Embedded.Finding
import RecordSql.Proofs.Embedded.Session
import RecordSql.Proofs.Embedded.Sheet
import RecordSql.Proofs.Embedded.Storage
import RecordSql.Proofs.Embedded.Laws
import RecordSql.Proofs.Embedded.Stored
import RecordSql.Proofs.Embedded.Operations
import RecordSql.Proofs.Embedded.Serving
import RecordSql.Proofs.RoundTrip
import RecordSql.Proofs.Number.Rounding
import RecordSql.Proofs.Number.Narrowing
import RecordSql.Proofs.Postgres.Integer
import RecordSql.Proofs.Postgres.WriteBack
import RecordSql.Proofs.Postgres.Datum
import RecordSql.Proofs.Lookup.TextKey
import RecordSql.Proofs.Transaction.Settlement
import RecordSql.Proofs.Transaction.Open
import RecordSql.Proofs.Request.Defect
import RecordSql.Proofs.Request.Run
import RecordSql.Proofs.Declaration.Content
import RecordSql.Proofs.Declaration.Derived
import RecordSql.Proofs.Statement.Correspondence
import RecordSql.Proofs.Embedded.Bound
import RecordSql.Proofs.Request.Session
import RecordSql.Proofs.FetchedKey
import RecordSql.Proofs.IntegerKey
import RecordSql.Proofs.Template.Seam
import RecordSql.Proofs.Declaration.FieldColumn
import RecordSql.Proofs.Declaration.ItemList
import RecordSql.Proofs.Declaration.Names
import RecordSql.Proofs.Declaration.Scanned
import RecordSql.Proofs.Rearrangement
import RecordSql.Proofs.Reader
import RecordSql.Proofs.Log
import RecordSql.Proofs.Handle
