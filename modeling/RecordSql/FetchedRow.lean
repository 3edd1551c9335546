import RecordSql.Fault
import RecordSql.Value.Field

/-!
# Fetched rows

A fetched row is a list of values with a list of column names beside it; the two may differ in length,
and a value without a name goes by its index.  A `Reader` hands the values of a row out front to back.
It moves on after every value it has tried to read, whether or not the value could be read, and stays
where it is once the values are used up.
-/

namespace RecordSql

/-- A row as it comes back from a database. -/
structure FetchedRow where
  columns : List String
  values : List Value
deriving DecidableEq, Repr

namespace FetchedRow

/-- The name of the column with the given index, or the index itself. -/
def columnName (row : FetchedRow) (index : Nat) : String :=
  row.columns[index]?.getD (Text.showNat index)

/-- Reads the value with the given index. -/
def get (row : FetchedRow) (t : FieldType) (index : Nat) : Except Fault Value :=
  match row.values[index]? with
  | none => .error (.decode (Text.showNat index) "column index out of range")
  | some v => (t.read v).mapError fun issue => .decode (row.columnName index) issue.message

end FetchedRow

/-- A place in a fetched row: `position` values have been handed out. -/
structure Reader where
  row : FetchedRow
  position : Nat
deriving DecidableEq, Repr

/-- A reader at the start of a row. -/
def FetchedRow.reader (row : FetchedRow) : Reader :=
  ⟨row, 0⟩

namespace Reader

/-- Reads the next value. -/
def next (r : Reader) (t : FieldType) : Except Fault Value × Reader :=
  if r.position < r.row.values.length then
    (r.row.get t r.position, { r with position := r.position + 1 })
  else
    (.error (.decode (Text.showNat r.position)
      ("row has only " ++ Text.showNat r.row.values.length ++ " values")), r)

/-- The number of values not yet handed out. -/
def remaining (r : Reader) : Nat :=
  r.row.values.length - r.position

end Reader

end RecordSql
