import RecordSql.Statement
import RecordSql.Text.ByteLength
import RecordSql.Value.Display

/-!
# The statement log

Every statement of a handle goes to its logger right before it runs.  The usual logger turns a
statement into an event with a level, the values as text, their number, and the text of the statement
cut to a budget of bytes; other loggers keep the statement itself, or nothing.  A transaction that is
let go unfinished leaves a warning beside whatever the logger keeps.
-/

namespace RecordSql

/-- The importance of an event. -/
inductive Level where
  | error
  | warn
  | info
  | debug
  | trace
deriving DecidableEq, Repr

/-- The name of a level. -/
def Level.name : Level → String
  | error => "ERROR"
  | warn => "WARN"
  | info => "INFO"
  | debug => "DEBUG"
  | trace => "TRACE"

/-- The place that events are filed under. -/
def logTarget : String := "rowmap.sql"

/-- An entry of the log. -/
inductive LogEntry where
  /-- A statement as an event. -/
  | event (level : Level) (paramCount : Nat) (params : String) (sql : String)
  /-- A statement as it is. -/
  | statement (st : Statement)
  /-- A remark of the library itself. -/
  | warning (message : String)
deriving DecidableEq, Repr

/-- The remark on a transaction that is let go unfinished. -/
def LogEntry.unfinished : LogEntry :=
  .warning "transaction dropped without commit or rollback"

/-- What becomes of logged statements. -/
inductive Logger where
  /-- They are dropped. -/
  | silent
  /-- They are kept as they are. -/
  | verbatim
  /-- They become events of a level, with the text cut to a budget of bytes if there is one. -/
  | events (level : Level) (budget : Option Nat)
deriving DecidableEq, Repr

namespace Logger

/-- Events for debugging, cut after 200 bytes. -/
def standard : Logger := .events .debug (some 200)

/-- The text of a statement within a budget of bytes; a text that does not fit ends in dots. -/
def shorten (budget : Option Nat) (sql : String) : String :=
  match budget with
  | none => sql
  | some n =>
    if Text.byteLength sql.toList ≤ n then sql
    else String.ofList (Text.cut sql.toList n ++ ['.', '.', '.'])

/-- The entries for one statement. -/
def record (logger : Logger) (st : Statement) : List LogEntry :=
  match logger with
  | silent => []
  | verbatim => [.statement st]
  | events level budget =>
    [.event level st.args.length (showValues st.args) (shorten budget st.sql)]

/-- The entries for what happened while a script ran. -/
def entries (logger : Logger) (statements : List Statement) : List LogEntry :=
  statements.flatMap logger.record

end Logger

end RecordSql
