/-!
# Tables of code point ranges

A property of characters is kept as a list of ranges of code points in ascending order, each given
by its first and last member.  Looking a code point up walks the list and stops at the first range
that starts above it, so a lookup of an ASCII character touches the head of the table only.

Properties that alternate between neighbouring code points, as letter case does, are kept as
strided ranges `(first, last, step)`: the members are `first`, `first + step`, … up to `last`.
-/

namespace RecordSql.Text

/-- Whether one of the ascending ranges `(first, last)` contains `n`. -/
def covered : List (Nat × Nat) → Nat → Bool
  | [], _ => false
  | (first, last) :: rest, n => if n < first then false else n ≤ last || covered rest n

/-- Whether one of the ascending strided ranges `(first, last, step)` contains `n`. -/
def coveredByStride : List (Nat × Nat × Nat) → Nat → Bool
  | [], _ => false
  | (first, last, step) :: rest, n =>
    if n < first then false
    else (n ≤ last && (n - first) % step == 0) || coveredByStride rest n

end RecordSql.Text
