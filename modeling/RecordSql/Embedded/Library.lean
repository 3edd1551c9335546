import RecordSql.Embedded.Cell

/-!
# Libraries of embedded databases

A client does not read the files of an embedded database.  It hands a text and the cells for its markers
to a library, which runs the text and answers with rows.
-/

namespace RecordSql.Embedded

/-- What a statement answers with. -/
structure Reply where
  names : List String
  rows : List (List Cell)
  /-- The number of the last row that an insert has put into its table. -/
  inserted : Option (Ranged .i64)
deriving DecidableEq, Repr

/-- A statement at its end. -/
structure Ran (δ : Type) where
  /-- The answer, or the message of what is wrong with the statement. -/
  result : Except String Reply
  /-- The database after the statement. -/
  after : δ
  /-- The time that the statement takes, in milliseconds, or `none` if it never ends. -/
  duration : Option Nat

/-- A library that runs statements on databases of type `δ`. -/
structure Library (δ : Type) where
  /-- Runs a text with cells for its markers, `none` standing for a value that has no cell. -/
  run : String → List (Option Cell) → δ → Ran δ
  /-- The number of rows that the last change has touched. -/
  touched : δ → Nat

end RecordSql.Embedded
