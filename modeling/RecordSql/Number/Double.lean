import RecordSql.Number.Format

/-!
# Double and single precision words

Floating-point values are kept as their words, so that every one of them, each zero and each
not-a-number included, is a value of its own.  `Double.same` is the comparison of the numbers they
stand for, in which the zeros agree and not-a-number differs from everything.
-/

namespace RecordSql.Number

/-- A 64-bit floating-point word. -/
structure Double where
  bits : UInt64
deriving DecidableEq, Repr

/-- A 32-bit floating-point word. -/
structure Single where
  bits : UInt32
deriving DecidableEq, Repr

/-- The word with the given sign and magnitude code. -/
def Double.make (negative : Bool) (code : Nat) : Double :=
  ⟨UInt64.ofNat ((if negative then 0x8000000000000000 else 0) + code)⟩

/-- The word with the given sign and magnitude code. -/
def Single.make (negative : Bool) (code : Nat) : Single :=
  ⟨UInt32.ofNat ((if negative then 0x80000000 else 0) + code)⟩

namespace Double

/-- Whether the sign is set. -/
def negative (x : Double) : Bool :=
  0x8000000000000000 ≤ x.bits.toNat

/-- The code of the magnitude. -/
def code (x : Double) : Nat :=
  x.bits.toNat % 0x8000000000000000

/-- Whether `x` is not a number. -/
def isNaN (x : Double) : Bool :=
  doubleFormat.infinity < x.code

/-- Whether `x` is one of the infinities. -/
def isInfinite (x : Double) : Bool :=
  x.code == doubleFormat.infinity

/-- Whether `x` and `y` are equal as numbers. -/
def same (x y : Double) : Bool :=
  !x.isNaN && !y.isNaN && (x == y || (x.code == 0 && y.code == 0))

/-- The double nearest to `n`. -/
def ofInt (n : Int) : Double :=
  make (n < 0) (doubleFormat.encode n.natAbs 0)

/-- The double with the other sign. -/
def opposite (x : Double) : Double :=
  .make (!x.negative) x.code

/-- The single nearest to `x`. -/
def toSingle (x : Double) : Single :=
  .make x.negative (doubleFormat.convert singleFormat x.code)

end Double

namespace Single

/-- Whether the sign is set. -/
def negative (x : Single) : Bool :=
  0x80000000 ≤ x.bits.toNat

/-- The code of the magnitude. -/
def code (x : Single) : Nat :=
  x.bits.toNat % 0x80000000

/-- The double with the value of `x`. -/
def toDouble (x : Single) : Double :=
  .make x.negative (singleFormat.convert doubleFormat x.code)

end Single

end RecordSql.Number
