import RecordSql.Value

/-!
# Columns

A record shows itself to the library as a row: a list of named values in a fixed order.  A column may
carry options: the type it is declared with, and two marks.  A column with the mark `noInsert` is left
out of an insert, because the database generates it; the first one with the mark `primaryKey` addresses
the record.
-/

namespace RecordSql

/-- What a column says about itself besides its name and its value. -/
structure ColumnOptions where
  sqlType : Option String
  noInsert : Bool
  primaryKey : Bool
deriving DecidableEq, Repr

namespace ColumnOptions

/-- No declared type and no marks. -/
def plain : ColumnOptions := ⟨none, false, false⟩

/-- A key that the caller supplies. -/
def suppliedKey : ColumnOptions := ⟨none, false, true⟩

/-- A key that the database generates. -/
def generatedKey : ColumnOptions := ⟨none, true, true⟩

/-- The same options with the type `t`. -/
def withType (o : ColumnOptions) (t : String) : ColumnOptions :=
  { o with sqlType := some t }

/-- The same options with the mark `noInsert`. -/
def markNoInsert (o : ColumnOptions) : ColumnOptions :=
  { o with noInsert := true }

/-- The same options with the mark `primaryKey`. -/
def markPrimaryKey (o : ColumnOptions) : ColumnOptions :=
  { o with primaryKey := true }

end ColumnOptions

/-- A column of a record's row. -/
structure Column where
  name : String
  value : Value
  options : Option ColumnOptions
deriving DecidableEq, Repr

namespace Column

/-- Whether the column is left out of an insert. -/
def noInsert (c : Column) : Bool :=
  c.options.any (·.noInsert)

/-- Whether the column is marked as key. -/
def isPrimaryKey (c : Column) : Bool :=
  c.options.any (·.primaryKey)

/-- The type the column is created with: the declared one, unless that is empty or missing. -/
def sqlType (c : Column) : String :=
  match c.options.bind (·.sqlType) with
  | some t => if t.isEmpty then c.value.inferredType else t
  | none => c.value.inferredType

/-- The same column with another value. -/
def withValue (c : Column) (v : Value) : Column :=
  { c with value := v }

end Column

/-- The column that addresses the record: the first one marked as key. -/
def primaryKey? (row : List Column) : Option Column :=
  row.find? (·.isPrimaryKey)

end RecordSql
