import RecordSql.Duration
import RecordSql.Text.Quoted
import RecordSql.Value

/-!
# Faults

Everything that can go wrong between a record and its row.  Each fault carries what its message names;
the wording is in `Fault.message` alone.
-/

namespace RecordSql

/-- Why a configuration is not usable. -/
inductive ConfigIssue where
  /-- The sigil cannot introduce parameters. -/
  | unusableSigil (sigil : Char)
  /-- The document that holds the configuration cannot be read. -/
  | malformed (reason : String)
deriving DecidableEq, Repr

/-- The text of an issue with a configuration. -/
def ConfigIssue.message : ConfigIssue → String
  | unusableSigil sigil => "invalid parameter prefix " ++ Text.quoteChar sigil
  | malformed reason => reason

/-- Why an operation failed. -/
inductive Fault where
  /-- No row has the given key. -/
  | notFound (what : String)
  /-- The record of a table marks no column as its key. -/
  | noPrimaryKey (table : String)
  /-- A select has no columns to read into. -/
  | noUnmarshalTarget (what : String)
  /-- A generated key does not fit the kind of the key column. -/
  | keyOverflow (column : String) (key : Int) (kind : Kind)
  /-- A parameter of the text has no argument. -/
  | unknownParameter (name : String)
  /-- The record of a table has no columns. -/
  | emptyRow (table : String)
  /-- The value of a column cannot be read. -/
  | decode (column : String) (reason : String)
  /-- A request makes no sense. -/
  | validation (reason : String)
  /-- A configuration is not usable. -/
  | config (issue : ConfigIssue)
  /-- A statement ran longer than it may. -/
  | timeout (limit : Duration)
  /-- A statement was cancelled by its caller. -/
  | cancelled
  /-- The embedded database refused a statement. -/
  | sqlite (reason : String)
  /-- The database server, or the connection to it, refused a statement. -/
  | postgres (reason : String)
  /-- Anything else. -/
  | other (reason : String)
deriving DecidableEq, Repr

namespace Fault

/-- The text of a fault. -/
def message : Fault → String
  | notFound what => "Not found: " ++ what
  | noPrimaryKey table =>
    "No primary key defined for table '" ++ table ++ "'; mark a column with PRIMARY_KEY"
  | noUnmarshalTarget what => "No unmarshal target: " ++ what
  | keyOverflow column key kind =>
    "Primary key overflow on column '" ++ column ++ "': " ++ Text.showInt key ++ " does not fit "
      ++ kind.name
  | unknownParameter name => "No such named parameter: " ++ name
  | emptyRow table => "Record for table '" ++ table ++ "' has no columns"
  | decode column reason => "Decode error on column '" ++ column ++ "': " ++ reason
  | validation reason => "Validation error: " ++ reason
  | config issue => "Configuration error: " ++ issue.message
  | timeout limit => "Query timeout after " ++ limit.display
  | cancelled => "Query cancelled"
  | sqlite reason => "SQLite error: " ++ reason
  | postgres reason => "Postgres error: " ++ reason
  | other reason => reason

/-- Whether a row was looked for and not found. -/
def isNotFound : Fault → Bool
  | notFound _ => true
  | _ => false

/-- Whether a generated key did not fit. -/
def isKeyOverflow : Fault → Bool
  | keyOverflow .. => true
  | _ => false

/-- Whether a statement ran out of time. -/
def isTimeout : Fault → Bool
  | timeout _ => true
  | _ => false

/-- Whether a statement was given up, by its caller or by its deadline. -/
def isCancelled : Fault → Bool
  | cancelled | timeout _ => true
  | _ => false

end Fault

end RecordSql
