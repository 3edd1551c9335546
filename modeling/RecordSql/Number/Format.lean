import RecordSql.Number.Power

/-!
# Binary floating-point formats

A format has a precision `p` and a width `w` of its exponent field.  The magnitudes it represents are
numbered by their codes `0, 1, 2, …` in ascending order: code `k` with exponent field
`k / 2^(p-1)` and fraction `k % 2^(p-1)` is the pattern of bits without the sign.  A finite
magnitude is `m · 2^q` with `m < 2^p` and `q` at least the exponent of the least magnitude; the code
after the last finite one is infinity, and every greater code is not a number.

`encode` rounds `m · 2^q` to the nearest magnitude, ties to the even code.  The number of units
that the rounding yields is added to the code of the binade, so a carry into the next binade, and
from there into infinity, needs no case of its own.
-/

namespace RecordSql.Number

/-- `n / d` rounded to the nearest integer, ties to even. -/
def divRoundEven (n d : Nat) : Nat :=
  let q := n / d
  let r := n % d
  if 2 * r < d then q
  else if d < 2 * r then q + 1
  else if q % 2 = 0 then q else q + 1

/-- An interchange format: the bits of its significand, hidden one included, and of its exponent. -/
structure Format where
  precision : Nat
  exponentBits : Nat
deriving DecidableEq, Repr

namespace Format

/-- The exponent of the unit in the least binade. -/
def least (f : Format) : Int :=
  2 - (twoTo (f.exponentBits - 1) - 1 : Nat) - f.precision

/-- The number of fractions in a binade. -/
def binade (f : Format) : Nat :=
  twoTo (f.precision - 1)

/-- The code of infinity. -/
def infinity (f : Format) : Nat :=
  (twoTo f.exponentBits - 1) * f.binade

/-- The code of the magnitude nearest to `m · 2^q`. -/
def encode (f : Format) (m : Nat) (q : Int) : Nat :=
  if m = 0 then 0
  else
    let unit := max (q + (m.log2 + 1) - f.precision) f.least
    let count :=
      if unit ≤ q then m * twoTo (q - unit).toNat else divRoundEven m (twoTo (unit - q).toNat)
    min f.infinity ((unit - f.least).toNat * f.binade + count)

/-- The significand and the exponent of a finite code. -/
def decode (f : Format) (code : Nat) : Nat × Int :=
  let field := code / f.binade
  let fraction := code % f.binade
  if field = 0 then (fraction, f.least) else (f.binade + fraction, f.least + field - 1)

/-- The code of the magnitude in `target` that is nearest to the magnitude of `code` in `f`.  A code that
is not a number keeps the upper bits of its fraction and becomes quiet. -/
def convert (f target : Format) (code : Nat) : Nat :=
  if code < f.infinity then
    let (m, q) := f.decode code
    target.encode m q
  else if code = f.infinity then target.infinity
  else
    let fraction := (code - f.infinity) * target.binade / f.binade
    target.infinity + target.binade / 2 + fraction % (target.binade / 2)

end Format

/-- The 64-bit format. -/
def doubleFormat : Format := ⟨53, 11⟩

/-- The 32-bit format. -/
def singleFormat : Format := ⟨24, 8⟩

end RecordSql.Number
