import RecordSql.Embedded.Cell
import RecordSql.Number.Layout
import RecordSql.Number.Numeral

/-!
# Numbers and their texts in the embedded database

A double is written with at most fifteen significant digits, halves away from zero: in plain form with at
least one decimal while its first digit stands between the fourth decimal and the fifteenth place
before the point, and otherwise in scientific form, with a sign and at least two digits in the exponent.

A text is read as a number as far as it goes: blanks, a sign, digits, and a fraction and an exponent if
there are any.
-/

namespace RecordSql.Embedded

open Number

/-- The digits of a finite, non-zero magnitude rounded to fifteen, without trailing zeros, and the
exponent of ten of the first one. -/
def fifteenDigits (x : Magnitude) : List Char × Int :=
  let e := x.scale - 15
  let numerator := x.m * twoTo x.q.toNat * tenTo (-e).toNat
  let denominator := twoTo (-x.q).toNat * tenTo e.toNat
  (Decimal.mk ((2 * numerator + denominator) / (2 * denominator)) e).scientific

/-- An exponent with its sign and at least two digits. -/
def exponentText (e : Int) : List Char :=
  let digits := Nat.toDigits 10 e.natAbs
  (if e < 0 then '-' else '+') :: (zeros (2 - digits.length) ++ digits)

/-- The text of a finite, non-zero magnitude. -/
def magnitudeText (x : Magnitude) : List Char :=
  match fifteenDigits x with
  | ([], _) => ['0', '.', '0']
  | (d :: more, e) =>
    if -4 ≤ e ∧ e < 15 then plain (d :: more) e
    else d :: '.' :: (if more.isEmpty then ['0'] else more) ++ 'e' :: exponentText e

/-- The text of a double that is a number. -/
def realText (x : Double) : List Char :=
  if x.code = 0 then ['0', '.', '0']
  else
    let magnitude :=
      if x.isInfinite then ['I', 'n', 'f'] else magnitudeText (.ofCode doubleFormat x.code)
    if x.negative then '-' :: magnitude else magnitude

/-- Whether the database takes `c` for a blank. -/
def isSpace (c : Char) : Bool :=
  c == ' ' || ('\t' ≤ c && c ≤ '\r')

/-- A number as it is written. -/
structure Numeral where
  negative : Bool
  value : Decimal
  /-- There is neither a point nor an exponent. -/
  whole : Bool
deriving DecidableEq, Repr

/-- The number that a text starts with, if there is one, and what follows it. -/
def takeNumeral (cs : List Char) : Option (Numeral × List Char) :=
  let (negative, rest) := takeSign (cs.dropWhile isSpace)
  (takeUnsigned rest).map fun (value, whole, rest) => (⟨negative, value, whole⟩, rest)

/-- The number that a text is, blanks around it aside. -/
def readNumeral? (cs : List Char) : Option Numeral :=
  match takeNumeral cs with
  | some (n, rest) => if rest.all isSpace then some n else none
  | none => none

/-- The double that a numeral denotes. -/
def Numeral.toDouble (n : Numeral) : Double :=
  .ofDecimal n.negative n.value

/-- The integer that a numeral without point and exponent denotes. -/
def Numeral.integer? (n : Numeral) : Option (Ranged .i64) :=
  if n.whole then
    Ranged.ofInt? .i64 (if n.negative then -n.value.digits else n.value.digits)
  else none

/-- The cell of a numeral: an integer if it is written as one and fits, and a double otherwise. -/
def Numeral.toCell (n : Numeral) : Cell :=
  match n.integer? with
  | some i => .integer i
  | none => .real n.toDouble

/-- The truth value of a cell: whether it is a number other than zero. -/
def Cell.truth : Cell → Option Bool
  | .null => none
  | .integer n => some (n.val != 0)
  | .real x => some (x.code != 0)
  | .text bytes | .blob bytes =>
    some (match takeNumeral (Text.Utf8.decodeLenient bytes).toList with
      | some (n, _) => n.value.digits != 0
      | none => false)

end RecordSql.Embedded
