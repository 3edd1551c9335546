/-!
# Decimal numerals

Integers are written in decimal with a minus sign in front of the negative ones.  Reading is a
little wider: one sign of either kind may stand in front, and leading zeros are accepted, but no
blanks and no separators.
-/

namespace RecordSql.Text

/-- The decimal numeral of `n`. -/
def numeral : Int → List Char
  | .ofNat n => Nat.toDigits 10 n
  | .negSucc n => '-' :: Nat.toDigits 10 (n + 1)

/-- `numeral` as a string. -/
def showInt (n : Int) : String :=
  String.ofList (numeral n)

/-- `numeral` of a natural number as a string. -/
def showNat (n : Nat) : String :=
  String.ofList (Nat.toDigits 10 n)

/-- The number that a non-empty sequence of ASCII digits denotes. -/
def readNat? (cs : List Char) : Option Nat :=
  if cs.isEmpty || !cs.all Char.isDigit then none else some (Nat.ofDigitChars 10 cs 0)

/-- The number that digits after an optional sign denote. -/
def readInt? : List Char → Option Int
  | '-' :: cs => (readNat? cs).map fun n => -(n : Int)
  | '+' :: cs => (readNat? cs).map fun n => (n : Int)
  | cs => (readNat? cs).map fun n => (n : Int)

end RecordSql.Text
