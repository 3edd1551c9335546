import RecordSql.Column
import RecordSql.Text.Numeral

/-!
# Dialects

The database families differ in a few spellings: the positional markers of a statement, the types of a
generated key and of binary data, the tail of an insert without columns, and whether an insert reads
the generated key back with a `RETURNING` clause.

Markers of one statement are numbered from 1.  In the style of question marks the number does not show.
-/

namespace RecordSql

/-- How positional markers are written. -/
inductive MarkerStyle where
  /-- `?` -/
  | question
  /-- `$1`, `$2`, … -/
  | numbered
deriving DecidableEq, Repr

/-- The `k`-th marker of a statement. -/
def MarkerStyle.marker : MarkerStyle → Nat → List Char
  | question, _ => ['?']
  | numbered, k => '$' :: Nat.toDigits 10 k

/-- The markers of one statement, of which `count` have been used. -/
structure Markers where
  style : MarkerStyle
  count : Nat
deriving DecidableEq, Repr

/-- The next marker, and the sequence after it. -/
def Markers.next (m : Markers) : String × Markers :=
  (String.ofList (m.style.marker (m.count + 1)), { m with count := m.count + 1 })

/-- A database family. -/
inductive Dialect where
  | sqlite
  | mysql
  | postgres
deriving DecidableEq, Repr

instance : Inhabited Dialect := ⟨.sqlite⟩

namespace Dialect

/-- The style of the markers. -/
def style : Dialect → MarkerStyle
  | postgres => .numbered
  | _ => .question

/-- A sequence of markers for one statement. -/
def markers (d : Dialect) : Markers :=
  ⟨d.style, 0⟩

/-- The `k`-th marker of a statement. -/
def marker (d : Dialect) (k : Nat) : String :=
  String.ofList (d.style.marker k)

/-- Whether an insert reads the key back with a `RETURNING` clause. -/
def returnsKey : Dialect → Bool
  | postgres => true
  | _ => false

/-- The type of an integer key that the database generates. -/
def keyType : Dialect → String
  | sqlite => "INTEGER PRIMARY KEY"
  | mysql => "INTEGER PRIMARY KEY AUTO_INCREMENT"
  | postgres => "SERIAL PRIMARY KEY"

/-- The type of binary data. -/
def blobType : Dialect → String
  | postgres => "BYTEA"
  | _ => "BLOB"

/-- What follows the table's name in an insert that writes no column. -/
def emptyInsertTail : Dialect → String
  | mysql => " () VALUES ()"
  | _ => " DEFAULT VALUES"

/-- The options of an integer key that the database generates. -/
def keyOptions (d : Dialect) : ColumnOptions :=
  ColumnOptions.generatedKey.withType d.keyType

/-- The options of a column of binary data. -/
def blobOptions (d : Dialect) : ColumnOptions :=
  ColumnOptions.plain.withType d.blobType

end Dialect

end RecordSql
