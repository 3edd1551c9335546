import RecordSql.Embedded.Numeric

/-!
# Affinities

A column does not force a storage class on its cells; it has an affinity to one, which its declared type
names.  A cell that comes into a column of text affinity becomes a text if it is a number; a text that
comes into a column of a numeric affinity becomes a number if it reads as one, and stays a text if it
does not.

Comparisons use the affinities of columns in the same way, so that a value is compared with a cell as if
it had been stored first.
-/

namespace RecordSql.Embedded

/-- The affinity of a column. -/
inductive Affinity where
  | integer
  | text
  | blob
  | real
  | numeric
deriving DecidableEq, Repr

namespace Affinity

/-- Whether `part` stands somewhere in `cs`. -/
def occursIn (part : List Char) : List Char → Bool
  | [] => part.isEmpty
  | c :: cs => part.isPrefixOf (c :: cs) || occursIn part cs

/-- The affinity of a declared type.  The first of these parts that occurs in its name decides. -/
def ofType (typeName : String) : Affinity :=
  let name := typeName.toList.map Char.toUpper
  let names (part : String) : Bool := occursIn part.toList name
  if names "INT" then integer
  else if names "CHAR" || names "CLOB" || names "TEXT" then text
  else if names "BLOB" || name.isEmpty then blob
  else if names "REAL" || names "FLOA" || names "DOUB" then real
  else numeric

/-- Whether columns of the affinity prefer numbers. -/
def isNumeric : Affinity → Bool
  | integer | real | numeric => true
  | text | blob => false

end Affinity

namespace Cell

/-- A number as a text. -/
def toText : Cell → Cell
  | integer n => ofChars (Text.numeral n.val)
  | real x => ofChars (realText x)
  | c => c

/-- A text that reads as a number as that number. -/
def toNumber : Cell → Cell
  | text bytes =>
    match readNumeral? (Text.Utf8.decodeLenient bytes).toList with
    | some n => n.toCell
    | none => .text bytes
  | c => c

/-- A double that is an integer of 64 bits as that integer; the least of them stays a double. -/
def toInteger : Cell → Cell
  | real x =>
    match x.integer?.bind (Ranged.ofInt? .i64) with
    | some n => if n.val = IntType.i64.least then .real x else .integer n
    | none => .real x
  | c => c

/-- An integer as a double. -/
def toReal : Cell → Cell
  | integer n => .real (.ofInt n.val)
  | c => c

/-- The cell that a column of the given affinity holds when `c` comes into it.  Zero has no sign where
numbers are preferred. -/
def coerce (a : Affinity) (c : Cell) : Cell :=
  match a with
  | .integer | .numeric => c.toNumber.toInteger
  | .real => c.toNumber.toInteger.toReal
  | .text => c.toText
  | .blob => c

/-- The rank of a storage class in the order of cells. -/
def rank : Cell → Nat
  | null => 0
  | integer _ | real _ => 1
  | text _ => 2
  | blob _ => 3

/-- Compares sequences of bytes, the first difference deciding. -/
def compareBytes : List UInt8 → List UInt8 → Ordering
  | [], [] => .eq
  | [], _ :: _ => .lt
  | _ :: _, [] => .gt
  | a :: as, b :: bs => (compare a.toNat b.toNat).then (compareBytes as bs)

/-- The order of cells: null, numbers, texts, blobs. -/
def order (a b : Cell) : Ordering :=
  match a, b with
  | integer m, integer n => compare m.val n.val
  | integer m, real y => (y.compareInt m.val).swap
  | real x, integer n => x.compareInt n.val
  | real x, real y => x.order y
  | text x, text y => compareBytes x y
  | blob x, blob y => compareBytes x y
  | _, _ => compare a.rank b.rank

end Cell

/-- A cell with the affinity of the column it comes from, if it comes from one. -/
structure Operand where
  cell : Cell
  affinity : Option Affinity
deriving DecidableEq, Repr

namespace Operand

/-- Whether the operand comes from a column that prefers numbers. -/
def prefersNumbers (x : Operand) : Bool :=
  x.affinity.any (·.isNumeric)

/-- The cell of `x` when it is compared with `other`. -/
def comparand (x other : Operand) : Cell :=
  if other.prefersNumbers && !x.prefersNumbers then x.cell.toNumber
  else if other.affinity == some .text && x.affinity.isNone then x.cell.toText
  else x.cell

/-- Compares two operands, as if each had been stored where the other comes from. -/
def order (x y : Operand) : Ordering :=
  (x.comparand y).order (y.comparand x)

end Operand

end RecordSql.Embedded
