import RecordSql.Number.Shortest
import RecordSql.Text.Numeral

/-!
# Numerals with a point and an exponent

A numeral is read from the front of a text as far as it goes: digits, a point with more digits, and an
exponent with a sign of its own.  Digits may be missing on one side of the point; an `e` that no digits
follow is not a part of the numeral.
-/

namespace RecordSql.Number

/-- The sign in front of `cs`, and what follows it. -/
def takeSign : List Char → Bool × List Char
  | '-' :: cs => (true, cs)
  | '+' :: cs => (false, cs)
  | cs => (false, cs)

/-- The exponent in front of `cs`, if there is one, and what follows it. -/
def takeExponent (cs : List Char) : Option Int × List Char :=
  match cs with
  | c :: rest =>
    if c = 'e' ∨ c = 'E' then
      let (negative, digits) := takeSign rest
      match Text.readNat? (digits.takeWhile Char.isDigit) with
      | some n => (some (if negative then -n else n), digits.dropWhile Char.isDigit)
      | none => (none, cs)
    else (none, cs)
  | [] => (none, cs)

/-- The digits of a fraction in front of `cs`, if there is a point, and what follows them. -/
def takeFraction : List Char → Option (List Char) × List Char
  | '.' :: cs => (some (cs.takeWhile Char.isDigit), cs.dropWhile Char.isDigit)
  | cs => (none, cs)

/-- The unsigned numeral in front of `cs`, if there is one: its number, whether it has neither a point nor
an exponent, and what follows it. -/
def takeUnsigned (cs : List Char) : Option (Decimal × Bool × List Char) :=
  let (fraction, rest) := takeFraction (cs.dropWhile Char.isDigit)
  let decimals := fraction.getD []
  match Text.readNat? (cs.takeWhile Char.isDigit ++ decimals) with
  | none => none
  | some n =>
    let (exponent, rest) := takeExponent rest
    some (⟨n, exponent.getD 0 - decimals.length⟩, fraction.isNone && exponent.isNone, rest)

end RecordSql.Number
