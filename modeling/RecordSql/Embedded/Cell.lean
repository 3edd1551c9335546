import RecordSql.Number.Nearest
import RecordSql.Text.Numeral
import RecordSql.Text.Utf8
import RecordSql.Value

/-!
# Cells of the embedded database

The embedded database keeps a value in one of five storage classes: null, integers of 64 bits, doubles,
texts and blobs.  Every other kind of value has a class to go to: truth values and the narrower integers
become integers, and integers of 128 bits become their decimal numerals.  Only an unsigned integer that
is too great for a class of its own is refused.

A text is kept as the bytes it was given as, which need not be UTF-8.
-/

namespace RecordSql.Embedded

/-- A cell of a table. -/
inductive Cell where
  | null
  | integer (n : Ranged .i64)
  | real (x : Number.Double)
  | text (utf8 : List UInt8)
  | blob (bytes : List UInt8)
deriving DecidableEq, Repr

namespace Cell

/-- The text of characters. -/
def ofChars (cs : List Char) : Cell :=
  .text (Text.Utf8.encode (String.ofList cs))

/-- The cell that holds a value, if there is one. -/
def ofValue? : Value → Option Cell
  | .null => some .null
  | .bool b => (Ranged.ofInt? .i64 (if b then 1 else 0)).map .integer
  | .int .i128 n => some (ofChars (Text.numeral n.val))
  | .int _ n => (Ranged.ofInt? .i64 n.val).map .integer
  | .float x => some (.real x)
  | .text s => some (.text (Text.Utf8.encode s))
  | .bytes bs => some (.blob bs)

/-- The value that a cell is read as. -/
def toValue : Cell → Value
  | null => .null
  | integer n => .int .i64 n
  | real x => .float x
  | text utf8 => .text (Text.Utf8.decodeLenient utf8)
  | blob bytes => .bytes bytes

/-- The cell of an integer, null if it has more than 64 bits. -/
def ofInt (n : Int) : Cell :=
  match Ranged.ofInt? .i64 n with
  | some r => .integer r
  | none => .null

/-- The number on the other side of zero; what is no number becomes null. -/
def negated : Cell → Cell
  | integer n => ofInt (-n.val)
  | real x => .real x.opposite
  | _ => null

/-- The cell of a truth value, null if it is unknown. -/
def ofTruth : Option Bool → Cell
  | some true => ofInt 1
  | some false => ofInt 0
  | none => .null

/-- The cell as statements see it: what is not a number is null. -/
def settled : Cell → Cell
  | real x => if x.isNaN then null else real x
  | c => c

/-- Whether a cell is null. -/
def isNull : Cell → Bool
  | null => true
  | _ => false

end Cell

end RecordSql.Embedded
