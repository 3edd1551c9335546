/-!
# Lengths in bytes

The byte length of a text is that of its UTF-8 form.  A number of bytes is a boundary of a text when
some beginning of the text has exactly that length; cutting a text to a budget of bytes looks for the
greatest boundary within the budget, from the budget downwards.  Zero is always a boundary.
-/

namespace RecordSql.Text

/-- The number of bytes of a text. -/
def byteLength : List Char → Nat
  | [] => 0
  | c :: cs => c.utf8Size + byteLength cs

/-- Whether some beginning of the text has `n` bytes. -/
def isBoundary : List Char → Nat → Bool
  | _, 0 => true
  | [], _ + 1 => false
  | c :: cs, n + 1 => c.utf8Size ≤ n + 1 && isBoundary cs (n + 1 - c.utf8Size)

/-- The greatest boundary that is at most `n`. -/
def lastBoundary (cs : List Char) : Nat → Nat
  | 0 => 0
  | n + 1 => if isBoundary cs (n + 1) then n + 1 else lastBoundary cs n

/-- The characters that start within the first `n` bytes. -/
def takeBytes : List Char → Nat → List Char
  | [], _ => []
  | _ :: _, 0 => []
  | c :: cs, n + 1 => c :: takeBytes cs (n + 1 - c.utf8Size)

/-- The longest beginning of the text with at most `budget` bytes. -/
def cut (cs : List Char) (budget : Nat) : List Char :=
  if byteLength cs ≤ budget then cs else takeBytes cs (lastBoundary cs budget)

end RecordSql.Text
