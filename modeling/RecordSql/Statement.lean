import RecordSql.Template

/-!
# Statements

The statements that a record's row gives rise to.  Each is first laid out as a `Shape`, which says which
columns stand where, and then written in a dialect: `Shape.sql` is the text and `Shape.args` the
values of its markers, in the order of the markers.

Layouts are refused in a fixed order: an empty table name, then a row without columns, then a missing
key, then an update with nothing to write.
-/

namespace RecordSql

/-- A text for the database and the values of its markers. -/
structure Statement where
  sql : String
  args : List Value
deriving DecidableEq, Repr

/-- The parts of a statement on one record. -/
inductive Shape where
  /-- Writes the columns `written` and reads the column `returning` back. -/
  | insert (table : String) (written : List Column) (returning : Option String)
  /-- Overwrites the columns `assigned` of the row with the given key. -/
  | update (table : String) (assigned : List Column) (key : Column)
  /-- Reads the columns `listed` of the row with the given key. -/
  | get (table : String) (listed : List Column) (key : Column)
  /-- Removes the row with the given key. -/
  | delete (table : String) (key : Column)
  /-- Reads the keys of the rows that agree with `filters`, the greatest key first. -/
  | lookup (table : String) (key : Column) (filters : List Column)
deriving DecidableEq, Repr

/-- Texts with commas between them. -/
def commas (items : List String) : String :=
  ",".intercalate items

/-- The names of columns with commas between them. -/
def nameList (cols : List Column) : String :=
  commas (cols.map (·.name))

namespace Shape

/-- `name=marker` for each column, the first with the `k`-th marker. -/
def equations (d : Dialect) : Nat → List Column → List String
  | _, [] => []
  | k, c :: cs => (c.name ++ "=" ++ d.marker k) :: equations d (k + 1) cs

/-- A condition for each column, the first marker being the `k`-th: a null takes no marker. -/
def conditions (d : Dialect) : Nat → List Column → List String
  | _, [] => []
  | k, c :: cs =>
    if c.value.isNull then (c.name ++ " IS NULL") :: conditions d k cs
    else (c.name ++ "=" ++ d.marker k) :: conditions d (k + 1) cs

/-- The first `n` markers with commas between them. -/
def markerList (d : Dialect) (n : Nat) : String :=
  commas ((List.range n).map fun k => d.marker (k + 1))

/-- The text of a statement. -/
def sql (d : Dialect) : Shape → String
  | insert table written returning =>
    "INSERT INTO " ++ table
      ++ (if written.isEmpty then d.emptyInsertTail
        else " (" ++ nameList written ++ ") VALUES (" ++ markerList d written.length ++ ")")
      ++ (match returning with
        | some name => " RETURNING " ++ name
        | none => "")
  | update table assigned key =>
    "UPDATE " ++ table ++ " SET " ++ commas (equations d 1 assigned)
      ++ " WHERE " ++ key.name ++ "=" ++ d.marker (assigned.length + 1)
  | get table listed key =>
    "SELECT " ++ nameList listed ++ " FROM " ++ table
      ++ " WHERE " ++ key.name ++ "=" ++ d.marker 1
  | delete table key =>
    "DELETE FROM " ++ table ++ " WHERE " ++ key.name ++ "=" ++ d.marker 1
  | lookup table key filters =>
    "SELECT " ++ key.name ++ " FROM " ++ table
      ++ (if filters.isEmpty then ""
        else " WHERE " ++ " AND ".intercalate (conditions d 1 filters))
      ++ " ORDER BY " ++ key.name ++ " DESC"

/-- The values of the markers. -/
def args : Shape → List Value
  | insert _ written _ => written.map (·.value)
  | update _ assigned key => assigned.map (·.value) ++ [key.value]
  | get _ _ key => [key.value]
  | delete _ key => [key.value]
  | lookup _ _ filters => (filters.map (·.value)).filter (!·.isNull)

/-- The statement in a dialect. -/
def statement (d : Dialect) (s : Shape) : Statement :=
  ⟨s.sql d, s.args⟩

end Shape

/-- Refuses an empty table name. -/
def checkTable (table : String) : Except Fault Unit :=
  if table.isEmpty then .error (.validation "record has an empty table name") else .ok ()

/-- Refuses an empty table name and a row without columns. -/
def checkRow (table : String) (row : List Column) : Except Fault Unit := do
  checkTable table
  if row.isEmpty then .error (.emptyRow table) else .ok ()

/-- The key column of a row. -/
def requireKey (table : String) (row : List Column) : Except Fault Column := do
  checkRow table row
  match primaryKey? row with
  | some key => .ok key
  | none => .error (.noPrimaryKey table)

/-- The column that an insert reads back. -/
def returningKey? (d : Dialect) (row : List Column) : Option Column :=
  if d.returnsKey then primaryKey? row else none

namespace Shape

/-- The columns that an insert writes. -/
def written (row : List Column) : List Column :=
  row.filter (!·.noInsert)

/-- The columns that an update writes. -/
def assigned (row : List Column) : List Column :=
  row.filter (!·.isPrimaryKey)

/-- The columns that a key lookup compares. -/
def filters (row : List Column) : List Column :=
  row.filter fun c => !c.isPrimaryKey && !c.noInsert && !c.value.isBytes

/-- The insert of a row. -/
def insertOf (d : Dialect) (table : String) (row : List Column) : Except Fault Shape := do
  checkRow table row
  return .insert table (written row) ((returningKey? d row).map (·.name))

/-- The update of a row. -/
def updateOf (table : String) (row : List Column) : Except Fault Shape := do
  let key ← requireKey table row
  if (assigned row).isEmpty then
    .error (.validation ("table '" ++ table ++ "' has no non-key columns to update"))
  else return .update table (assigned row) key

/-- The selection of a row by its key. -/
def getOf (table : String) (row : List Column) : Except Fault Shape := do
  let key ← requireKey table row
  return .get table row key

/-- The removal of a row by its key. -/
def deleteOf (table : String) (row : List Column) : Except Fault Shape := do
  let key ← requireKey table row
  return .delete table key

/-- The query for the key of a row that has just been inserted. -/
def lookupOf (table : String) (row : List Column) (key : Column) : Shape :=
  .lookup table key (filters row)

end Shape

namespace Statement

/-- The text that creates the table of a row. -/
def createTable (table : String) (row : List Column) : Except Fault String := do
  checkRow table row
  return "CREATE TABLE " ++ table ++ " ("
    ++ commas (row.map fun c => c.name ++ " " ++ c.sqlType) ++ ")"

/-- The text that drops a table. -/
def dropTable (table : String) : Except Fault String := do
  checkTable table
  return "DROP TABLE " ++ table

/-- The text that selects the columns of a row, followed by the clause of a caller. -/
def select (table : String) (row : List Column) (clause : String) : Except Fault String := do
  checkRow table row
  return "SELECT " ++ nameList row ++ " FROM " ++ table
    ++ (if clause.isEmpty then "" else " " ++ clause)

/-- The insert of a row. -/
def insert (d : Dialect) (table : String) (row : List Column) : Except Fault Statement :=
  (Shape.insertOf d table row).map (·.statement d)

/-- The update of a row. -/
def update (d : Dialect) (table : String) (row : List Column) : Except Fault Statement :=
  (Shape.updateOf table row).map (·.statement d)

/-- The selection of a row by its key. -/
def get (d : Dialect) (table : String) (row : List Column) : Except Fault Statement :=
  (Shape.getOf table row).map (·.statement d)

/-- The removal of a row by its key. -/
def delete (d : Dialect) (table : String) (row : List Column) : Except Fault Statement :=
  (Shape.deleteOf table row).map (·.statement d)

/-- The query for the key of a row that has just been inserted. -/
def keyLookup (d : Dialect) (table : String) (row : List Column) (key : Column) : Statement :=
  (Shape.lookupOf table row key).statement d

/-- A text with named parameters as a statement. -/
def named (d : Dialect) (sigil : Char) (text : String) (args : List Argument) :
    Except Fault Statement := do
  let compiled := (compile sigil d.markers text).1
  let values ← bindArguments compiled.params args
  return ⟨compiled.sql, values⟩

end Statement

end RecordSql
