import RecordSql.Client
import RecordSql.Embedded.Database

/-!
# Connections to an embedded database

A connection runs one statement at a time, with the cells of its values.  What a statement does is
settled when it starts, and becomes visible when it ends; a statement that is interrupted before that
has done nothing.

An execution reports the number of rows that the last change has touched, and refuses a statement that
answers with rows.  It also reports the number of the row that it has put into a table, if the
connection is asked to report it and the text starts with the word for that.

The databases in memory are the ones that a library of their own runs: rows of a table take no time; the
rows of a recursion do.
-/

namespace RecordSql.Embedded

/-- A connection to a database of type `δ`. -/
structure ConnectionTo (δ : Type) where
  database : δ
  /-- Executions report the numbers of the rows that they put into tables. -/
  reportsKeys : Bool
  /-- The statement that is running. -/
  running : Option (Ran δ)

/-- Whether a text starts with the word for an insert, blanks aside. -/
def startsInsert (sql : String) : Bool :=
  ((Text.dropBlanks sql.toList).take 6).map Char.toLower == "insert".toList

/-- What is wrong with the execution of a statement that answers with rows. -/
def answeredMessage : String :=
  "Execute returned results - did you mean to call query?"

namespace ConnectionTo

variable {δ : Type} (lib : Library δ)

/-- The connection in the text of a handle. -/
def display (c : ConnectionTo δ) : String :=
  "SqliteClient \x7b report_last_insert_id: " ++ (if c.reportsKeys then "true" else "false")
    ++ ", .. \x7d"

/-- Starts a statement. -/
def start (st : Statement) (c : ConnectionTo δ) : ConnectionTo δ :=
  { c with running := some (lib.run st.sql (st.args.map Cell.ofValue?) c.database) }

/-- The time that the running statement takes. -/
def duration (c : ConnectionTo δ) : Option Nat :=
  c.running.bind (·.duration)

/-- Gives up the running statement. -/
def interrupt (c : ConnectionTo δ) : ConnectionTo δ :=
  { c with running := none }

/-- Ends the running statement, and answers with what `answer` makes of its reply. -/
def finish {α : Type} (answer : ConnectionTo δ → Reply → Except String α) (c : ConnectionTo δ) :
    Except Fault α × ConnectionTo δ :=
  match c.running with
  | none => (.error .cancelled, c)
  | some ran =>
    let after := { c with database := ran.after, running := none }
    ((ran.result.bind (answer after)).mapError .sqlite, after)

/-- The outcome of an execution. -/
def executed (sql : String) (c : ConnectionTo δ) (r : Reply) : Except String ExecResult :=
  if !r.rows.isEmpty then .error answeredMessage
  else
    let touched := lib.touched c.database
    .ok ⟨touched,
      if c.reportsKeys && 0 < touched && startsInsert sql then r.inserted else none⟩

/-- The rows of a query. -/
def fetched (r : Reply) : Except String (List FetchedRow) :=
  .ok (r.rows.map fun row => ⟨r.names, row.map Cell.toValue⟩)

/-- The client of a connection. -/
def client : Client (ConnectionTo δ) where
  execute st := { start := start lib st, duration, finish := finish (executed lib st.sql) }
  query st := { start := start lib st, duration, finish := finish fun _ => fetched }
  interrupt := interrupt

end ConnectionTo

/-! ### Databases in memory -/

/-- How many rows of a recursion are made in a millisecond. -/
def rowsPerMillisecond : Nat := 10000

/-- The library of the databases in memory. -/
def Database.library : Library Database where
  run sql cells db :=
    let f := db.runText sql cells
    ⟨f.result.mapError Issue.message, f.after, f.made.map (· / rowsPerMillisecond)⟩
  touched := touched

/-- A connection to a database in memory. -/
abbrev Connection := ConnectionTo Database

namespace Connection

/-- A connection to a new database. -/
def initial (reportsKeys : Bool) : Connection := ⟨.empty, reportsKeys, none⟩

/-- The client of a connection to a database in memory. -/
def client : Client Connection := ConnectionTo.client Database.library

end Connection

end RecordSql.Embedded
