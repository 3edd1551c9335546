import RecordSql.Number.Double
import RecordSql.Text.Numeral

/-!
# The fewest digits that read back

A finite, non-zero magnitude `m · 2^q` stands for an interval of reals: those nearer to it than to
its neighbours, and the two midpoints as well when its code is even.  The shortest decimal is a point
of that interval on the coarsest decimal grid that has one.  On each grid only the two points around
the exact value need a test, since a point further out lies in the interval only if the nearer one
on its side does.  Of two hits the nearer one is taken, and the upper one when both are equally near.

Comparisons are exact: everything is scaled to natural numbers, with the value measured in quarters
of its unit so that both midpoints are whole.
-/

namespace RecordSql.Number

/-- The decimal `digits · 10^exponent`. -/
structure Decimal where
  digits : Nat
  exponent : Int
deriving DecidableEq, Repr

/-- A magnitude `m · 2^q` of a format, with its place among its neighbours: `narrow` when the gap
below it is half the gap above. -/
structure Magnitude where
  m : Nat
  q : Int
  narrow : Bool
deriving DecidableEq, Repr

namespace Magnitude

/-- The magnitude with the given code. -/
def ofCode (f : Format) (code : Nat) : Magnitude :=
  let (m, q) := f.decode code
  ⟨m, q, code % f.binade == 0 && 2 * f.binade ≤ code⟩

/-- Compares `d` with `quarters · 2^(q - 2)`. -/
def compareQuarters (x : Magnitude) (d : Decimal) (quarters : Nat) : Ordering :=
  let e := x.q - 2
  compare (d.digits * tenTo d.exponent.toNat * twoTo (-e).toNat)
    (quarters * twoTo e.toNat * tenTo (-d.exponent).toNat)

/-- Whether `d` lies in the interval that `x` stands for. -/
def readsBack (x : Magnitude) (d : Decimal) : Bool :=
  let lower := x.compareQuarters d (if x.narrow then 4 * x.m - 1 else 4 * x.m - 2)
  let upper := x.compareQuarters d (4 * x.m + 2)
  let closed := x.m % 2 == 0
  (lower == .gt || (closed && lower == .eq)) && (upper == .lt || (closed && upper == .eq))

/-- The point of the grid `10^e` that is nearest to `x` among those that read back. -/
def onGrid (x : Magnitude) (e : Int) : Option Decimal :=
  let numerator := x.m * twoTo x.q.toNat * tenTo (-e).toNat
  let denominator := twoTo (-x.q).toNat * tenTo e.toNat
  let below := numerator / denominator
  let lower : Decimal := ⟨below, e⟩
  let upper : Decimal := ⟨below + 1, e⟩
  let preferUpper := (2 * below + 1) * denominator ≤ 2 * numerator
  match x.readsBack lower, x.readsBack upper with
  | true, true => some (if preferUpper then upper else lower)
  | true, false => some lower
  | false, true => some upper
  | false, false => none

/-- The least `k` with `x < 10^k`, looked for upwards from `k` in at most `fuel` steps. -/
def scaleFrom (x : Magnitude) : Nat → Int → Int
  | 0, k => k
  | fuel + 1, k =>
    if x.m * twoTo x.q.toNat * tenTo (-k).toNat < tenTo k.toNat * twoTo (-x.q).toNat then k
    else scaleFrom x fuel (k + 1)

/-- The number of digits of `x` in front of the decimal point, counted negatively by the zeros that
follow the point of a fraction.  The binary logarithm gives a first guess from below. -/
def scale (x : Magnitude) : Int :=
  x.scaleFrom 4 (((x.m.log2 : Int) + x.q) * 30103 / 100000 - 1)

/-- The grids of up to `count` digits, the coarsest first. -/
def grids (x : Magnitude) (count : Nat) : List Int :=
  (List.range count).map fun n : Nat => x.scale - 1 - n

/-- The exact decimal value of `x`. -/
def exactly (x : Magnitude) : Decimal :=
  if 0 ≤ x.q then ⟨x.m * twoTo x.q.toNat, 0⟩ else ⟨x.m * Nat.pow 5 (-x.q).toNat, x.q⟩

/-- The shortest decimal that reads back to `x`; seventeen digits are enough for a double. -/
def shortest (x : Magnitude) : Decimal :=
  ((x.grids 17).findSome? x.onGrid).getD x.exactly

end Magnitude

/-- The digits of `d` without trailing zeros, and the exponent of ten of the first one. -/
def Decimal.scientific (d : Decimal) : List Char × Int :=
  let cs := Nat.toDigits 10 d.digits
  let kept := (cs.reverse.dropWhile (· == '0')).reverse
  (kept, d.exponent + cs.length - 1)

end RecordSql.Number
