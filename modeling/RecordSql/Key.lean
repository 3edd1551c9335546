import RecordSql.Column
import RecordSql.FetchedRow

/-!
# Keys that the database generates

A generated key comes back as an integer that the connection reports, or as the first value of a
fetched row.  Either way it is brought to the kind of the record's key column; a key column that holds
null has no kind of its own and takes any integer.
-/

namespace RecordSql.Key

/-- An integer as a value for the key column `key`. -/
def coerce (key : Column) (n : Ranged .i64) : Except Fault Value :=
  let takesIntegers := match key.value.kind with
    | .int _ | .null => true
    | _ => false
  if !takesIntegers then
    .error (.decode key.name
      ("expected integer type for primary key, got " ++ key.value.kind.name))
  else
    match key.value.kind.narrow n with
    | some v => .ok v
    | none => .error (.keyOverflow key.name n.val key.value.kind)

/-- A fetched value as a value for the key column `key`.  Text and bytes are taken as they are,
unless the column holds a fixed-width integer. -/
def coerceFetched (key : Column) (fetched : Value) : Except Fault Value :=
  let fromInteger (v : Value) : Except Fault Value :=
    match v.word? with
    | some n => coerce key n
    | none => .error (.decode key.name ("cannot use " ++ v.kind.name ++ " as primary key"))
  match fetched with
  | .null => .error (.decode key.name "generated key is NULL")
  | .text _ | .bytes _ => if key.value.kind.isInteger then fromInteger fetched else .ok fetched
  | v => fromInteger v

/-- The key column with the first value of a fetched row, which counts as null when there is none. -/
def ofRow (key : Column) (row : FetchedRow) : Except Fault Column :=
  (coerceFetched key (row.values.head?.getD .null)).map key.withValue

/-- The key column with the value that an insert has read back. -/
def ofReturned (key : Column) (row : Option FetchedRow) : Except Fault Column :=
  match row with
  | some row => ofRow key row
  | none => .error (.other ("INSERT ... RETURNING " ++ key.name ++ " produced no row"))

/-- The key column with the value that a lookup in `table` has found. -/
def ofLookup (table : String) (key : Column) (row : Option FetchedRow) : Except Fault Column :=
  match row with
  | some row => ofRow key row
  | none =>
    .error (.notFound (table ++ ": inserted row not found while resolving " ++ key.name))

end RecordSql.Key
