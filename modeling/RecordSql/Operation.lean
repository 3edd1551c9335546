import RecordSql.Config
import RecordSql.Key
import RecordSql.Record
import RecordSql.Script
import RecordSql.Value.Display

/-!
# Operations on records

Each operation is a script for a configuration.  It builds its statement first and sends nothing when
that fails.

An insert answers with the key of the new row.  Without a key column there is nothing to answer; a key
that the caller supplies is answered as it is.  A generated key is read back by the insert itself where
the dialect does that; otherwise it is the one that the connection reports, and if it reports none, the
row is looked up by the values that were written.
-/

namespace RecordSql

/-- The fault of a key without a row: its last value is the key. -/
def missingRow (table : String) (st : Statement) : Fault :=
  .notFound (table ++ ": no row with primary key " ++ (st.args.getLast?.getD .null).display)

namespace Operation

variable {ρ : Type} [Record ρ]

/-- Creates the table of a record. -/
def createTable (c : Config) (limits : Limits) (r : ρ) : Script Unit := do
  let sql ← Script.ofExcept (Statement.createTable (Record.table r) (Record.row r c.dialect))
  let _ ← send ⟨sql, []⟩ limits

/-- Drops the table of a record. -/
def dropTable (_c : Config) (limits : Limits) (r : ρ) : Script Unit := do
  let sql ← Script.ofExcept (Statement.dropTable (Record.table r))
  let _ ← send ⟨sql, []⟩ limits

/-- The key of a row that has just been inserted by a statement with the given outcome. -/
def resolveKey (c : Config) (limits : Limits) (table : String) (row : List Column)
    (result : ExecResult) : Script (Option Column) :=
  match primaryKey? row with
  | none => return none
  | some key =>
    if !key.noInsert then return some key
    else match result.lastInsertId with
      | some n => Script.ofExcept ((Key.coerce key n).map fun v => some (key.withValue v))
      | none => do
        let found ← fetchFirst (Statement.keyLookup c.dialect table row key) limits
        Script.ofExcept ((Key.ofLookup table key found).map some)

/-- Inserts a record, and answers with its key. -/
def insert (c : Config) (limits : Limits) (r : ρ) : Script (Option Column) := do
  let table := Record.table r
  let row := Record.row r c.dialect
  let st ← Script.ofExcept (Statement.insert c.dialect table row)
  match returningKey? c.dialect row with
  | some key =>
    let returned ← fetchFirst st limits
    if key.noInsert then Script.ofExcept ((Key.ofReturned key returned).map some)
    else return some key
  | none =>
    let result ← send st limits
    resolveKey c limits table row result

/-- Reads the record with the key of `r`.  The answer is the record afterwards, which differs from `r`
by the fields that were read, and whether all of them were. -/
def get (c : Config) (limits : Limits) (r : ρ) : Script (ρ × Except Fault Unit) :=
  match Statement.get c.dialect (Record.table r) (Record.row r c.dialect) with
  | .error e => return (r, .error e)
  | .ok st => do
    match ← (fetchFirst st limits).attempt with
    | .error e => return (r, .error e)
    | .ok none => return (r, .error (missingRow (Record.table r) st))
    | .ok (some row) =>
      let scanned := Record.scan r row.reader
      return (scanned.record, scanned.outcome)

/-- Overwrites the row of a record. -/
def update (c : Config) (limits : Limits) (r : ρ) : Script Unit := do
  let st ← Script.ofExcept
    (Statement.update c.dialect (Record.table r) (Record.row r c.dialect))
  let result ← send st limits
  if result.rowsAffected = 0 then Script.fail (missingRow (Record.table r) st)

/-- Removes the row of a record, and answers with the number of rows removed. -/
def delete (c : Config) (limits : Limits) (r : ρ) : Script Nat := do
  let st ← Script.ofExcept
    (Statement.delete c.dialect (Record.table r) (Record.row r c.dialect))
  let result ← send st limits
  return result.rowsAffected

/-- The statement that selects records like `r`. -/
def selectStatement (c : Config) (r : ρ) (clause : String) (args : List Argument) :
    Except Fault Statement := do
  let row := Record.row r c.dialect
  if row.isEmpty then
    .error (.noUnmarshalTarget
      ("records of table '" ++ Record.table r ++ "' expose no columns to scan into"))
  else
    let sql ← Statement.select (Record.table r) row clause
    Statement.named c.dialect c.sigil sql args

/-- The records that fetched rows hold, each read into a copy of `r`. -/
def scanAll (r : ρ) : List FetchedRow → Except Fault (List ρ)
  | [] => .ok []
  | row :: rows => do
    let scanned := Record.scan r row.reader
    scanned.outcome
    let rest ← scanAll r rows
    return scanned.record :: rest

/-- Selects the records that satisfy a clause, each read into a copy of `r`. -/
def select (c : Config) (limits : Limits) (r : ρ) (clause : String) (args : List Argument) :
    Script (List ρ) := do
  let st ← Script.ofExcept (selectStatement c r clause args)
  let rows ← fetch st limits
  Script.ofExcept (scanAll r rows)

/-- Executes a text with named parameters, and answers with the number of rows it changed. -/
def executeNamed (c : Config) (limits : Limits) (sql : String) (args : List Argument) :
    Script Nat := do
  let st ← Script.ofExcept (Statement.named c.dialect c.sigil sql args)
  let result ← send st limits
  return result.rowsAffected

/-- Queries with a text with named parameters. -/
def queryNamed (c : Config) (limits : Limits) (sql : String) (args : List Argument) :
    Script (List FetchedRow) := do
  let st ← Script.ofExcept (Statement.named c.dialect c.sigil sql args)
  fetch st limits

end Operation

end RecordSql
