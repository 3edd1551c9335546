import RecordSql.Document.Node
import RecordSql.Number.Nearest
import RecordSql.Number.Numeral
import RecordSql.Text.Digit

/-!
# Scalars of documents

What stands bare after an equals sign is a truth value, an integer, a float, or a moment: a date, a time
of day, or both with or without the offset of a time zone.  Single underscores may stand between
digits; a decimal integer has no leading zeros.

Numbers have a range.  An integer has at most 128 bits, read with a sign or without; a float written in
digits is nearest to a finite double.
-/

namespace RecordSql.Document

/-- Whether `cs` are digits, each underscore among which stands between two of them.  `afterDigit` tells
whether a digit stands in front. -/
def areDigits (isDigit : Char → Bool) : Bool → List Char → Bool
  | afterDigit, [] => afterDigit
  | afterDigit, c :: cs =>
    if c = '_' then afterDigit && areDigits isDigit false cs
    else isDigit c && areDigits isDigit true cs

/-- `cs` without a sign in front. -/
def withoutSign : List Char → List Char
  | '+' :: cs | '-' :: cs => cs
  | cs => cs

/-- Whether `cs` is a decimal integer without a sign. -/
def isDecimal (cs : List Char) : Bool :=
  areDigits Char.isDigit false cs && (cs == ['0'] || cs.head? != some '0')

/-- `cs` without underscores. -/
def withoutUnderscores (cs : List Char) : List Char :=
  cs.filter (· != '_')

/-- The natural number that `digits` denote in a base, if they are digits of the given kind. -/
def readDigits? (base : Nat) (isDigit : Char → Bool) (digits : List Char) : Option Nat :=
  if areDigits isDigit false digits then some (Text.numberOf base (withoutUnderscores digits)) else none

/-- The decimal integer that `cs` is. -/
def readDecimal? (cs : List Char) : Option Int :=
  if isDecimal (withoutSign cs) then
    let n : Int := Text.numberOf 10 (withoutUnderscores (withoutSign cs))
    some (if cs.head? = some '-' then -n else n)
  else none

/-- The integer that `cs` is. -/
def readInteger? (cs : List Char) : Option Int :=
  match cs with
  | '0' :: 'x' :: digits => (readDigits? 16 Text.isHex digits).map Int.ofNat
  | '0' :: 'o' :: digits => (readDigits? 8 Text.isOctal digits).map Int.ofNat
  | '0' :: 'b' :: digits => (readDigits? 2 Text.isBinary digits).map Int.ofNat
  | _ => readDecimal? cs

/-- Whether `cs` is an integer in range. -/
def isInteger (cs : List Char) : Bool :=
  (readInteger? cs).any fun n =>
    -0x80000000000000000000000000000000 ≤ n && n ≤ 0xFFFFFFFFFFFFFFFFFFFFFFFFFFFFFFFF

/-- Whether `cs` is an exponent with its letter. -/
def isExponent : List Char → Bool
  | c :: cs => (c == 'e' || c == 'E') && areDigits Char.isDigit false (withoutSign cs)
  | [] => false

/-- Whether a character can stand among the digits of a number. -/
def isDigitOrUnderscore (c : Char) : Bool :=
  c.isDigit || c == '_'

/-- Whether `cs` is a float in digits without a sign. -/
def isDigital (cs : List Char) : Bool :=
  isDecimal (cs.takeWhile isDigitOrUnderscore) &&
    match cs.dropWhile isDigitOrUnderscore with
    | '.' :: rest =>
      let exponent := rest.dropWhile isDigitOrUnderscore
      areDigits Char.isDigit false (rest.takeWhile isDigitOrUnderscore)
        && (exponent.isEmpty || isExponent exponent)
    | rest => isExponent rest

/-- Whether the double nearest to the number in digits is finite. -/
def isFinite (cs : List Char) : Bool :=
  (Number.takeUnsigned (withoutUnderscores cs)).any fun (d, _) =>
    d.code Number.doubleFormat < Number.doubleFormat.infinity

/-- Whether `cs` is a float in range. -/
def isFloat (cs : List Char) : Bool :=
  let unsigned := withoutSign cs
  unsigned == "inf".toList || unsigned == "nan".toList || (isDigital unsigned && isFinite unsigned)

/-! ### Moments -/

/-- The number of exactly `n` digits in front of `cs`, and what follows them. -/
def takeNumber (n : Nat) (cs : List Char) : Option (Nat × List Char) :=
  if (cs.take n).length = n then (Text.readNat? (cs.take n)).map fun k => (k, cs.drop n) else none

/-- What follows the character `c` in front of `cs`. -/
def after (c : Char) : List Char → Option (List Char)
  | d :: cs => if d = c then some cs else none
  | [] => none

/-- The number of days of a month. -/
def daysIn (year month : Nat) : Nat :=
  if month = 2 then
    if year % 4 = 0 ∧ (year % 100 ≠ 0 ∨ year % 400 = 0) then 29 else 28
  else if month ∈ [4, 6, 9, 11] then 30
  else 31

/-- What follows a date. -/
def afterDate (cs : List Char) : Option (List Char) := do
  let (year, cs) ← takeNumber 4 cs
  let cs ← after '-' cs
  let (month, cs) ← takeNumber 2 cs
  let cs ← after '-' cs
  let (day, cs) ← takeNumber 2 cs
  if 1 ≤ month ∧ month ≤ 12 ∧ 1 ≤ day ∧ day ≤ daysIn year month then some cs else none

/-- What follows a fraction of a second, if there is one. -/
def afterFraction : List Char → Option (List Char)
  | '.' :: cs => if cs.head?.any Char.isDigit then some (cs.dropWhile Char.isDigit) else none
  | cs => some cs

/-- What follows hours and minutes. -/
def afterHour (cs : List Char) : Option (List Char) := do
  let (hour, cs) ← takeNumber 2 cs
  let cs ← after ':' cs
  let (minute, cs) ← takeNumber 2 cs
  if hour ≤ 23 ∧ minute ≤ 59 then some cs else none

/-- What follows a time of day. -/
def afterTime (cs : List Char) : Option (List Char) := do
  match ← afterHour cs with
  | ':' :: cs =>
    let (second, cs) ← takeNumber 2 cs
    if second ≤ 60 then afterFraction cs else none
  | cs => some cs

/-- Whether `cs` is the offset of a time zone. -/
def isOffset : List Char → Bool
  | ['Z'] | ['z'] => true
  | '+' :: cs | '-' :: cs => afterHour cs == some []
  | _ => false

/-- Whether `cs` is a moment. -/
def isMoment (cs : List Char) : Bool :=
  match afterDate cs with
  | some [] => true
  | some (c :: cs) =>
    (c == 'T' || c == 't' || c == ' ') &&
      (afterTime cs).any fun rest => rest.isEmpty || isOffset rest
  | none => afterTime cs == some []

/-- The scalar that is written as `cs`. -/
def scalar? (cs : List Char) : Option Node :=
  let kind :=
    if cs == "true".toList || cs == "false".toList then some ScalarKind.truth
    else if isInteger cs then some .integer
    else if isFloat cs then some .float
    else if isMoment cs then some .moment
    else none
  kind.map fun k => .scalar k (String.ofList cs)

end RecordSql.Document
