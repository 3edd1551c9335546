import RecordSql.Number.Shortest

/-!
# How doubles are written

A double is written with the fewest digits that read back: in plain form with at least one decimal
while its first digit stands between the fourth decimal and the sixteenth place before the point,
and otherwise in scientific form, with a point only if there is more than one digit.
-/

namespace RecordSql.Number

/-- `n` zeros. -/
def zeros (n : Nat) : List Char :=
  List.replicate n '0'

/-- Digits whose first one has the place `10^e`, in plain form. -/
def plain (digits : List Char) (e : Int) : List Char :=
  if e < 0 then ['0', '.'] ++ zeros (-e - 1).toNat ++ digits
  else
    let whole := e.toNat + 1
    if digits.length ≤ whole then digits ++ zeros (whole - digits.length) ++ ['.', '0']
    else digits.take whole ++ '.' :: digits.drop whole

/-- Digits whose first one has the place `10^e`, in scientific form. -/
def scientific (digits : List Char) (e : Int) : List Char :=
  match digits with
  | [] => []
  | [d] => d :: 'e' :: Text.numeral e
  | d :: more => d :: '.' :: more ++ 'e' :: Text.numeral e

/-- The text of a finite magnitude. -/
def showMagnitude (code : Nat) : List Char :=
  if code = 0 then ['0', '.', '0']
  else
    let (digits, e) := (Magnitude.ofCode doubleFormat code).shortest.scientific
    if -4 ≤ e ∧ e < 16 then plain digits e else scientific digits e

/-- The text of a double. -/
def Double.display (x : Double) : String :=
  if x.isNaN then "NaN"
  else
    let magnitude := if x.isInfinite then ['i', 'n', 'f'] else showMagnitude x.code
    String.ofList (if x.negative then '-' :: magnitude else magnitude)

end RecordSql.Number
