/-!
# Words in network order

An integer of `n` bytes is sent with its most significant byte first, a negative one as the word that is
congruent to it.
-/

namespace RecordSql.Postgres

/-- The last `n` bytes of a natural number, the most significant first. -/
def wordBytes : Nat → Nat → List UInt8
  | 0, _ => []
  | n + 1, k => wordBytes n (k / 256) ++ [UInt8.ofNat (k % 256)]

/-- The last `n` bytes of an integer. -/
def integerBytes (n : Nat) (k : Int) : List UInt8 :=
  wordBytes n (k % (Nat.pow 256 n : Int)).toNat

/-- The natural number that bytes form. -/
def wordOf (bytes : List UInt8) : Nat :=
  bytes.foldl (fun k b => 256 * k + b.toNat) 0

/-- The integer that bytes form, when the upper half of the words stands for the negative ones. -/
def integerOf (bytes : List UInt8) : Int :=
  let k := wordOf bytes
  let bound := Nat.pow 256 bytes.length
  if 2 * k < bound then k else (k : Int) - bound

end RecordSql.Postgres
