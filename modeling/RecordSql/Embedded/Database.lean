import RecordSql.Embedded.Grammar
import RecordSql.Embedded.Library
import RecordSql.Embedded.Plan

/-!
# The embedded database

A database is its tables; while a transaction is open, it also keeps the tables as they were when the
transaction was opened.  A statement that is refused leaves the tables as they are, and an open
transaction open.

The database remembers how many rows the last change has touched.  A statement that is no change leaves
that number alone.
-/

namespace RecordSql.Embedded

/-- A database in memory. -/
structure Database where
  tables : List Table
  /-- The tables as they were when the open transaction began. -/
  saved : Option (List Table)
  /-- The number of rows that the last change has touched. -/
  touched : Nat
deriving DecidableEq, Repr

/-- A statement at its end: its answer, the database after it, and how many rows of a recursion it has
made; `none` if that would never end. -/
structure Finished where
  result : Except Issue Reply
  after : Database
  made : Option Nat

/-- The answer of a statement without rows. -/
def Reply.empty : Reply := ⟨[], [], none⟩

/-- Whether an issue comes up only when rows are changed. -/
def Issue.inRow : Issue → Bool
  | notUnique .. | required .. | notRowNumber => true
  | _ => false

/-- The number of rows of a recursion after which it counts as endless. -/
def recursionLimit : Nat := 10000000

namespace Database

/-- A database without tables. -/
def empty : Database := ⟨[], none, 0⟩

/-- The table with the given name. -/
def table (db : Database) (name : String) : Except Issue Table :=
  match db.tables.find? fun t => sameName t.name name with
  | some t => .ok t
  | none => .error (.noTable name)

/-- The database with a table in the place of the one of its name. -/
def withTable (db : Database) (t : Table) (touched : Nat) : Database :=
  { db with
    tables := db.tables.map fun u => if sameName u.name t.name then t else u
    touched := touched }

/-- Whether the database keeps a name for its own tables. -/
def isInternal (name : String) : Bool :=
  "sqlite_".toList.isPrefixOf (folded name)

/-- Checks the names of the columns of a new table, of which those in `front` have come first. -/
def checkColumns (table : String) (front : List String) : List String → Except Issue Unit
  | [] => .ok ()
  | name :: rest =>
    if maxColumns ≤ front.length then .error (.tooManyColumns table)
    else if front.any fun other => sameName other name then .error (.columnRepeated name)
    else checkColumns table (name :: front) rest

/-- Creates a table. -/
def createTable (db : Database) (name : String) (columns : List ColumnRule) (keys : Nat)
    (unlessExists : Bool) : Except Issue Database :=
  if isInternal name then .error (.nameTaken name)
  else if db.tables.any fun t => sameName t.name name then
    if unlessExists then .ok db else .error (.tableExists name)
  else if 1 < keys then .error (.keyRepeated name)
  else do
    checkColumns name [] (columns.map (·.name))
    return { db with tables := db.tables ++ [⟨name, columns, []⟩] }

/-- Drops a table. -/
def dropTable (db : Database) (name : String) (ifExists : Bool) : Except Issue Database :=
  if db.tables.any fun t => sameName t.name name then
    .ok { db with tables := db.tables.filter fun t => !sameName t.name name }
  else if ifExists then .ok db
  else .error (.noTable name)

/-- The table without columns that a query without a table reads: it has one row. -/
def unit : Table := ⟨"", [], []⟩

/-- The table that a query reads from and its rows. -/
def source (db : Database) : Option String → Except Issue (Table × List (List Cell))
  | none => .ok (unit, [[]])
  | some name => do
    let t ← db.table name
    return (t, t.rows.map (·.cells))

/-- Answers a query: the names of its columns and its rows. -/
def answer (db : Database) (values : List Cell) (q : Query) :
    Except Issue (List String × List (List Cell)) := do
  let (t, rows) ← db.source q.source
  let plan ← t.plan q
  return (plan.names, plan.run values rows)

/-- The rows that an insert brings, and the number of cells in each. -/
def incoming (db : Database) (values : List Cell) (width : Nat) :
    RowSource → Except Issue (List (List Cell))
  | .defaults => .ok [[]]
  | .tuples rows => do
    match rows.find? fun row => row.length ≠ width with
    | some row => .error (.width row.length width)
    | none =>
      rows.mapM fun row => row.mapM fun e => do
        return (← unit.resolve e).eval values []
  | .query q => do
    let (names, rows) ← db.answer values q
    if names.length ≠ width then .error (.width names.length width) else .ok rows

/-- The cells of a whole row when `cells` come into the columns at `places`. -/
def spread (t : Table) (places : List Place) (cells : List Cell) : List Cell :=
  (places.zip cells).reverse.foldl (fun row (p, cell) => row.set p.index cell)
    (t.columns.map (·.initial))

/-- Puts rows into a table. -/
def insert (db : Database) (values : List Cell) (i : Insertion) :
    Except Issue (Reply × Database) := do
  let t ← db.table i.table
  let places ← match i.source, i.columns with
    | .defaults, _ => .ok []
    | _, some names => names.mapM t.place
    | _, none => (t.columns.map (·.name)).mapM t.place
  let (names, output) ← match i.returning with
    | some p => t.project p
    | none => .ok ([], .cells [])
  let rows ← db.incoming values places.length i.source
  let (added, after) ← t.addAll i.onConflict (rows.map (spread t places))
  let answers := match i.returning with
    | some _ => (Plan.mk names output none []).run values (added.map (·.cells))
    | none => []
  return (⟨names, answers, added.getLast?.map (·.number)⟩, db.withTable after added.length)

/-- Overwrites cells of the rows that satisfy a condition. -/
def update (db : Database) (values : List Cell) (table : String)
    (assigned : List (String × Expr String)) (condition : Option (Expr String)) :
    Except Issue Database := do
  let t ← db.table table
  let assigned ← assigned.mapM fun (name, e) => do return (← t.place name, ← t.resolve e)
  let condition ← t.resolve? condition
  let rows := t.select values condition
  let after ← t.overwrite values assigned rows
  return db.withTable after rows.length

/-- Removes the rows that satisfy a condition. -/
def delete (db : Database) (values : List Cell) (table : String)
    (condition : Option (Expr String)) : Except Issue Database := do
  let t ← db.table table
  let condition ← t.resolve? condition
  let rows := t.select values condition
  return db.withTable (t.removeAll rows) rows.length

/-- The table whose rows a recursion makes. -/
def relation (r : Recursion) : Table :=
  ⟨r.name, [⟨r.column, .blob, false, false, false, .null⟩], []⟩

/-- Answers a query for a recursion; no answer if it is endless. -/
def recur (values : List Cell) (r : Recursion) :
    Except Issue (Option (List String × List (List Cell) × Nat)) := do
  let reads (q : Query) : Bool := q.source.any (sameName r.name)
  if !reads r.next || !reads r.main then .error .unreadable
  else
    let first ← unit.resolve r.first
    let next ← (relation r).plan r.next
    let main ← (relation r).plan r.main
    if next.names.length ≠ 1 || next.output == .count then .error .unreadable
    else
      return (main.runChain values recursionLimit (next.single values)
        [first.eval values []]).map fun (rows, made) => (main.names, rows, made)

/-- Opens a transaction. -/
def start (db : Database) : Except Issue Database :=
  match db.saved with
  | some _ => .error .transactionOpen
  | none => .ok { db with saved := some db.tables }

/-- Keeps what the open transaction has done. -/
def commit (db : Database) : Except Issue Database :=
  match db.saved with
  | some _ => .ok { db with saved := none }
  | none => .error (.noTransaction "commit")

/-- Undoes what the open transaction has done. -/
def rollback (db : Database) : Except Issue Database :=
  match db.saved with
  | some tables => .ok { db with tables := tables, saved := none }
  | none => .error (.noTransaction "rollback")

/-- A statement that makes no recursion, at its end. -/
def finished (db : Database) : Except Issue (Reply × Database) → Finished
  | .ok (reply, after) => ⟨.ok reply, after, some 0⟩
  | .error issue => ⟨.error issue, if issue.inRow then { db with touched := 0 } else db, some 0⟩

/-- Runs a command with the given values for its markers. -/
def run (db : Database) (values : List Cell) (c : Command) : Finished :=
  let silent (after : Except Issue Database) : Finished :=
    db.finished (after.map fun db => (Reply.empty, db))
  match c with
  | .createTable name columns keys unlessExists =>
    silent (db.createTable name columns keys unlessExists)
  | .dropTable name ifExists => silent (db.dropTable name ifExists)
  | .insert i => db.finished (db.insert values i)
  | .update table assigned condition => silent (db.update values table assigned condition)
  | .delete table condition => silent (db.delete values table condition)
  | .query q =>
    db.finished ((db.answer values q).map fun (names, rows) => (⟨names, rows, none⟩, db))
  | .recursion r =>
    match recur values r with
    | .ok (some (names, rows, made)) => ⟨.ok ⟨names, rows, none⟩, db, some made⟩
    | .ok none => ⟨.ok .empty, db, none⟩
    | .error issue => ⟨.error issue, db, some 0⟩
  | .start => silent db.start
  | .commit => silent db.commit
  | .rollback => silent db.rollback

/-- The values of the markers of a statement that takes `needed` of them. -/
def bindCells (needed : Nat) (cells : List (Option Cell)) : Except Issue (List Cell) := do
  let values ← cells.mapM fun
    | some c => .ok c.settled
    | none => .error Issue.valueTooLarge
  if values.length ≠ needed then .error (.valueCount values.length needed) else .ok values

/-- The command that a text stands for, and the values of its markers. -/
def prepare (sql : String) (cells : List (Option Cell)) : Except Issue (Command × List Cell) := do
  let (c, needed) ← readCommand sql
  c.checkExtent needed
  return (c, ← bindCells needed cells)

/-- Runs a text with cells for its markers. -/
def runText (db : Database) (sql : String) (cells : List (Option Cell)) : Finished :=
  match prepare sql cells with
  | .error issue => ⟨.error issue, db, some 0⟩
  | .ok (c, values) => db.run values c

end Database

end RecordSql.Embedded
