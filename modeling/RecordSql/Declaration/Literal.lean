import RecordSql.Text.Digit
import RecordSql.Text.Identifier

/-!
# String literals

A string literal stands between double quotes.  A backslash in it escapes: a quote or a backslash, a
control with a short form, a character by two hexadecimal digits or by up to six in braces, or the end
of a line, which goes away together with the margin of the next line.  Lines end alike, whether a
carriage return stands in front of the line feed or not.

In a raw literal, marked by an `r`, every character stands for itself.  It may be fenced by signs `#`
around its quotes, and ends at the first quote with as many of them behind it.  An identifier right
behind a literal is a suffix without a meaning.

Every function here takes what it reads from the front of a text and gives the rest, which is shorter.
-/

namespace RecordSql.Declaration

/-! ### Escapes -/

/-- The escapes of one letter or sign, and the characters that they stand for. -/
def shortEscapes : List (Char × Char) := [
  ('n', '\n'), ('r', '\r'), ('t', '\t'), ('0', '\x00'), ('\\', '\\'), ('"', '"'), ('\'', '\'')]

/-- Whether a character can stand in the braces of an escape. -/
def isCodeChar (c : Char) : Bool :=
  Text.isHex c || c == '_'

/-- The character whose code point stands in braces, after the first of them.  One to six digits denote
it, and underscores may stand behind the first. -/
def takeCode (cs : List Char) : Option (Char × List Char) :=
  let digits := (cs.takeWhile isCodeChar).filter (· != '_')
  match cs.dropWhile isCodeChar with
  | '\x7d' :: rest =>
    if cs.head? != some '_' && 1 ≤ digits.length && digits.length ≤ 6 then
      (Text.charOf? digits).map fun c => (c, rest)
    else none
  | _ => none

/-- The character that an escape stands for, after the backslash. -/
def takeEscape : List Char → Option (Char × List Char)
  | 'u' :: '\x7b' :: cs => takeCode cs
  | 'x' :: high :: low :: cs =>
    if Text.isOctal high && Text.isHex low then
      (Text.charOf? [high, low]).map fun c => (c, cs)
    else none
  | c :: cs => (shortEscapes.lookup c).map fun d => (d, cs)
  | [] => none

theorem length_le_of_takeCode {cs rest : List Char} {c : Char}
    (h : takeCode cs = some (c, rest)) : rest.length ≤ cs.length := by
  have drop := (List.dropWhile_sublist isCodeChar (l := cs)).length_le
  simp only [takeCode] at h
  split at h
  · next more eq =>
    split at h
    · obtain ⟨_, _, _, rfl⟩ := by simpa using h
      rw [eq] at drop
      exact Nat.le_of_succ_le drop
    · simp at h
  · simp at h

theorem length_lt_of_takeEscape {cs rest : List Char} {c : Char}
    (h : takeEscape cs = some (c, rest)) : rest.length < cs.length := by
  unfold takeEscape at h
  split at h
  · exact Nat.lt_succ_of_le (Nat.le_succ_of_le (length_le_of_takeCode h))
  · split at h
    · obtain ⟨_, _, _, rfl⟩ := by simpa using h
      simp only [List.length_cons]
      omega
    · simp at h
  · obtain ⟨_, _, _, rfl⟩ := by simpa using h
    simp
  · simp at h

/-! ### Literals with escapes -/

/-- Whether a character belongs to the margin of a line. -/
def isMargin (c : Char) : Bool :=
  c == ' ' || c == '\t' || c == '\n' || c == '\r'

/-- The text that the first part of a literal stands for: one character, or the end of a line that
is escaped. -/
def takePart : List Char → Option (List Char × List Char)
  | '\\' :: '\n' :: cs => some ([], cs.dropWhile isMargin)
  | '\\' :: '\r' :: '\n' :: cs => some ([], cs.dropWhile isMargin)
  | '\\' :: cs => (takeEscape cs).map fun (c, rest) => ([c], rest)
  | '\r' :: '\n' :: cs => some (['\n'], cs)
  | '\r' :: _ => none
  | c :: cs => some ([c], cs)
  | [] => none

theorem length_lt_of_takePart {cs part rest : List Char}
    (h : takePart cs = some (part, rest)) : rest.length < cs.length := by
  have drop (l : List Char) : (l.dropWhile isMargin).length ≤ l.length :=
    (List.dropWhile_sublist _).length_le
  unfold takePart at h
  split at h
  · next more =>
    obtain ⟨_, rfl⟩ := by simpa using h
    have := drop more
    simp only [List.length_cons]
    omega
  · next more =>
    obtain ⟨_, rfl⟩ := by simpa using h
    have := drop more
    simp only [List.length_cons]
    omega
  · obtain ⟨⟨c, rest⟩, found, eq⟩ := Option.map_eq_some_iff.1 h
    obtain ⟨_, rfl⟩ := by simpa using eq
    exact Nat.lt_succ_of_lt (length_lt_of_takeEscape found)
  · obtain ⟨_, rfl⟩ := by simpa using h
    simp only [List.length_cons]
    omega
  · simp at h
  · obtain ⟨_, rfl⟩ := by simpa using h
    simp
  · simp at h

/-- The value of a literal with escapes, after its first quote. -/
def takeEscaped (cs : List Char) : Option (List Char × List Char) :=
  if cs.head? = some '"' then some ([], cs.tail)
  else
    match h : takePart cs with
    | none => none
    | some (part, rest) =>
      have := length_lt_of_takePart h
      (takeEscaped rest).map fun (value, rest) => (part ++ value, rest)
termination_by cs.length

theorem length_le_of_takeEscaped {cs value rest : List Char}
    (h : takeEscaped cs = some (value, rest)) : rest.length ≤ cs.length := by
  fun_induction takeEscaped cs generalizing value with
  | case1 cs =>
    obtain ⟨_, rfl⟩ := by simpa using h
    simp
  | case2 => simp at h
  | case3 cs _ part more found shorter ih =>
    obtain ⟨⟨value, rest⟩, taken, eq⟩ := Option.map_eq_some_iff.1 h
    obtain ⟨_, rfl⟩ := by simpa using eq
    exact Nat.le_trans (ih taken) (Nat.le_of_lt shorter)

/-! ### Raw literals -/

/-- The value of a raw literal with the given fence, after its first quote. -/
def takeRaw (fence : List Char) : List Char → Option (List Char × List Char)
  | [] => none
  | c :: cs =>
    if c = '"' ∧ fence.isPrefixOf cs then some ([], cs.drop fence.length)
    else (takeRaw fence cs).map fun (value, rest) => (c :: value, rest)

theorem length_le_of_takeRaw {fence cs value rest : List Char}
    (h : takeRaw fence cs = some (value, rest)) : rest.length ≤ cs.length := by
  induction cs generalizing value with
  | nil => simp [takeRaw] at h
  | cons c cs ih =>
    simp only [takeRaw] at h
    split at h
    · obtain ⟨_, rfl⟩ := by simpa using h
      simp only [List.length_drop, List.length_cons]
      omega
    · obtain ⟨⟨value, rest⟩, taken, eq⟩ := Option.map_eq_some_iff.1 h
      obtain ⟨_, rfl⟩ := by simpa using eq
      exact Nat.le_succ_of_le (ih taken)

/-! ### String literals -/

/-- The value of the string literal in front of a text, if there is one. -/
def takeQuoted : List Char → Option (List Char × List Char)
  | '"' :: cs => takeEscaped cs
  | 'r' :: cs =>
    match cs.dropWhile (· == '#') with
    | '"' :: rest => takeRaw (cs.takeWhile (· == '#')) rest
    | _ => none
  | _ => none

/-- `cs` without the suffix of a literal. -/
def withoutSuffix (cs : List Char) : List Char :=
  match Text.takeIdentifier cs with
  | some (_, rest) => rest
  | none => cs

/-- The value of the string literal in front of a text, if there is one; its suffix is left out. -/
def takeLiteral (cs : List Char) : Option (List Char × List Char) :=
  (takeQuoted cs).map fun (value, rest) => (value, withoutSuffix rest)

theorem length_lt_of_takeQuoted {cs value rest : List Char}
    (h : takeQuoted cs = some (value, rest)) : rest.length < cs.length := by
  unfold takeQuoted at h
  split at h
  · exact Nat.lt_succ_of_le (length_le_of_takeEscaped h)
  · next cs =>
    have drop := (List.dropWhile_sublist (· == '#') (l := cs)).length_le
    split at h
    · next more eq =>
      have := length_le_of_takeRaw h
      rw [eq] at drop
      simp only [List.length_cons] at *
      omega
    · simp at h
  · simp at h

theorem length_withoutSuffix_le (cs : List Char) : (withoutSuffix cs).length ≤ cs.length := by
  unfold withoutSuffix
  split
  · next found => exact Nat.le_of_lt (Text.length_lt_of_takeIdentifier found)
  · exact Nat.le_refl _

theorem length_lt_of_takeLiteral {cs value rest : List Char}
    (h : takeLiteral cs = some (value, rest)) : rest.length < cs.length := by
  obtain ⟨⟨value, more⟩, found, eq⟩ := Option.map_eq_some_iff.1 h
  obtain ⟨_, rfl⟩ := by simpa using eq
  exact Nat.lt_of_le_of_lt (length_withoutSuffix_le more) (length_lt_of_takeQuoted found)

end RecordSql.Declaration
