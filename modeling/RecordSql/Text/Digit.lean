/-!
# Digits

Digits of the bases two, eight and sixteen, and the numbers that they denote.  Letters of either case
go on after nine.
-/

namespace RecordSql.Text

/-- Whether `c` is a hexadecimal digit. -/
def isHex (c : Char) : Bool :=
  c.isDigit || ('a' ≤ c.toLower && c.toLower ≤ 'f')

/-- Whether `c` is an octal digit. -/
def isOctal (c : Char) : Bool :=
  '0' ≤ c && c ≤ '7'

/-- Whether `c` is a binary digit. -/
def isBinary (c : Char) : Bool :=
  c == '0' || c == '1'

/-- The number that a digit stands for. -/
def digitValue (c : Char) : Nat :=
  if c.isDigit then c.toNat - 48 else c.toLower.toNat - 87

/-- The number that digits denote in a base. -/
def numberOf (base : Nat) (digits : List Char) : Nat :=
  digits.foldl (fun n c => base * n + digitValue c) 0

/-- The character whose code point digits denote in hexadecimal, if there is one. -/
def charOf? (digits : List Char) : Option Char :=
  let code := numberOf 16 digits
  if code.isValidChar then some (Char.ofNat code) else none

end RecordSql.Text
