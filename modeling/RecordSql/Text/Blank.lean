import RecordSql.Text.Ranges

/-!
# White space

The twenty-five characters with the property `White_Space`.
-/

namespace RecordSql.Text

/-- The ranges of the white space characters. -/
def blankRanges : List (Nat × Nat) := [
  (0x9, 0xD), (0x20, 0x20), (0x85, 0x85), (0xA0, 0xA0), (0x1680, 0x1680), (0x2000, 0x200A),
  (0x2028, 0x2029), (0x202F, 0x202F), (0x205F, 0x205F), (0x3000, 0x3000)]

/-- Whether `c` is white space. -/
def isBlank (c : Char) : Bool :=
  covered blankRanges c.toNat

/-- `cs` without the white space it starts with. -/
def dropBlanks (cs : List Char) : List Char :=
  cs.dropWhile isBlank

/-- `cs` without the white space at either end. -/
def trimBlanks (cs : List Char) : List Char :=
  ((dropBlanks cs).reverse.dropWhile isBlank).reverse

end RecordSql.Text
