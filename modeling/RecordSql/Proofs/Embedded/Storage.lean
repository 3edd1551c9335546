import RecordSql.Proofs.Embedded.Sheet
import RecordSql.Text.Numeral

/-!
# How cells are stored

A library stores a cell by the declared type of its column, and compares what is stored with the
parameters of a query.  `Storage.IsLawful` is what is documented of the three declared types: `int` has
integer affinity and `varchar(255)` has text affinity, and an `INTEGER PRIMARY KEY` is the number of its
row.
-/

namespace RecordSql

open Embedded

/-- How a library stores cells, and compares them with parameters. -/
structure Storage where
  /-- What a column of the declared type keeps of a cell that is bound for it. -/
  keep : DeclaredType → Cell → Cell
  /-- Whether a cell that a column of the declared type holds equals a parameter. -/
  Equal : DeclaredType → Cell → Cell → Prop

namespace Storage

/-- What is documented of a library's columns. -/
structure IsLawful (s : Storage) : Prop where
  /-- A column of integer affinity keeps integers. -/
  integer (n : Ranged .i64) : s.keep .integers (.integer n) = .integer n
  /-- It keeps null. -/
  integers_null : s.keep .integers .null = .null
  /-- A column of text affinity keeps an integer as its decimal text. -/
  numeral (n : Ranged .i64) : s.keep .texts (.integer n) = .ofChars (Text.numeral n.val)
  /-- It keeps a number as a text, whatever its digits are. -/
  decimal {x : Number.Double} (number : x.isNaN = false) : ∃ cs, s.keep .texts (.real x) = .ofChars cs
  /-- It keeps null, texts and blobs as they are. -/
  texts_null : s.keep .texts .null = .null
  text (utf8 : List UInt8) : s.keep .texts (.text utf8) = .text utf8
  blob (bytes : List UInt8) : s.keep .texts (.blob bytes) = .blob bytes
  /-- An integer equals itself. -/
  equal_integer (n : Ranged .i64) : s.Equal .integers (.integer n) (.integer n)
  /-- In a column of text affinity a parameter is compared as if it were stored first. -/
  equal_kept {c : Cell} (value : c.isNull = false) (number : ∀ x, c = .real x → x.isNaN = false) :
    s.Equal .texts (s.keep .texts c) c
  /-- The number of a row equals itself, -/
  equal_key (n : Ranged .i64) : s.Equal .key (.integer n) (.integer n)
  /-- and equals its decimal text. -/
  equal_key_numeral (n : Ranged .i64) : s.Equal .key (.integer n) (.ofChars (Text.numeral n.val))

end Storage

end RecordSql
