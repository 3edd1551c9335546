/-!
# Powers of the two bases

The powers of two and of ten, of which binary and decimal magnitudes are made.
-/

namespace RecordSql.Number

/-- Two to the power `n`. -/
def twoTo (n : Nat) : Nat :=
  Nat.pow 2 n

/-- Ten to the power `n`. -/
def tenTo (n : Nat) : Nat :=
  Nat.pow 10 n

end RecordSql.Number
