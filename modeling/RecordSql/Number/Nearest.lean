import RecordSql.Number.Shortest

/-!
# The double nearest to a decimal

A decimal with a negative exponent is a quotient.  It is brought to a binary significand of more bits
than any format keeps, with one more bit that says whether something was left over, so that the one
rounding of `Format.encode` is the rounding of the exact quotient.  Exponents far beyond those of a
format settle the answer by themselves, so their powers of ten are never formed.
-/

namespace RecordSql.Number

/-- The significand and the exponent of `n / d`, exact or with its lowest bit set: the quotient has at
least 66 bits. -/
def quotient (n d : Nat) : Nat × Int :=
  let shift := 66 + (d.log2 + 1) - min (n.log2 + 1) (d.log2 + 1)
  let scaled := n * twoTo shift
  (2 * (scaled / d) + (if scaled % d = 0 then 0 else 1), -(shift : Int) - 1)

/-- Whether the exponent alone makes a non-zero decimal greater than every finite magnitude of `f`: ten is
more than two, and no exponent of two reaches the number of exponents. -/
def Decimal.isVast (f : Format) (d : Decimal) : Bool :=
  (twoTo f.exponentBits : Int) < d.exponent

/-- Whether the exponent alone makes a decimal smaller than half the least magnitude of `f`: a tenth is
less than an eighth. -/
def Decimal.isTiny (f : Format) (d : Decimal) : Bool :=
  3 * d.exponent + (d.digits.log2 + 1) < -(twoTo f.exponentBits : Int)

/-- The code of the magnitude in `f` that is nearest to the decimal. -/
def Decimal.code (f : Format) (d : Decimal) : Nat :=
  if d.digits = 0 ∨ d.isTiny f then 0
  else if d.isVast f then f.infinity
  else if 0 ≤ d.exponent then f.encode (d.digits * tenTo d.exponent.toNat) 0
  else
    let (m, q) := quotient d.digits (tenTo (-d.exponent).toNat)
    f.encode m q

/-- The double nearest to a decimal with the given sign. -/
def Double.ofDecimal (negative : Bool) (d : Decimal) : Double :=
  .make negative (d.code doubleFormat)

/-- The integer that `x` is, if it is one. -/
def Double.integer? (x : Double) : Option Int :=
  if doubleFormat.infinity ≤ x.code then none
  else
    let (m, q) := doubleFormat.decode x.code
    let signed (n : Nat) : Int := if x.negative then -n else n
    if 0 ≤ q then some (signed (m * twoTo q.toNat))
    else if m % twoTo (-q).toNat = 0 then some (signed (m / twoTo (-q).toNat))
    else none

/-- Compares a finite double with an integer exactly. -/
def Double.compareInt (x : Double) (n : Int) : Ordering :=
  let (m, q) := doubleFormat.decode x.code
  let signed : Int := if x.negative then -m else m
  compare (signed * twoTo q.toNat) (n * twoTo (-q).toNat)

/-- Compares two doubles that are numbers. -/
def Double.order (x y : Double) : Ordering :=
  let key (z : Double) : Int := if z.negative then -z.code else z.code
  compare (key x) (key y)

end RecordSql.Number
