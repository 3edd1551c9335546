import RecordSql.Declaration.Literal
import RecordSql.Text.Blank

/-!
# Tokens of attribute lists

What stands in the parentheses of an attribute is a sequence of tokens: words, string literals, commas,
equals signs, groups in parentheses, and anything else.  A word may carry the mark `r#`, which makes
an identifier of a keyword and is a part of the word.

White space and comments separate tokens and are none.  A comment runs to the end of its line, or between
`/*` and `*/` with other such comments in it.  Comments that document what follows are no separators.

Reading stops behind a group and behind anything that is no token of a list, since neither stands in a
well-formed list and what follows cannot mend it.
-/

namespace RecordSql.Declaration

/-- A token of an attribute list. -/
inductive Token where
  | word (text : String)
  | string (value : String)
  | comma
  | equals
  | parens
  | other
deriving DecidableEq, Repr

/-- The words that are no identifiers. -/
def keywords : List String := [
  "_", "abstract", "as", "async", "await", "become", "box", "break", "const", "continue", "crate",
  "do", "dyn", "else", "enum", "extern", "false", "final", "fn", "for", "if", "impl", "in", "let",
  "loop", "macro", "match", "mod", "move", "mut", "override", "priv", "pub", "ref", "return",
  "Self", "self", "static", "struct", "super", "trait", "true", "try", "type", "typeof", "unsafe",
  "unsized", "use", "virtual", "where", "while", "yield"]

/-! ### Separators -/

/-- Whether a character separates tokens: white space, or a mark of direction. -/
def isSeparator (c : Char) : Bool :=
  Text.isBlank c || c == '\u200e' || c == '\u200f'

/-- Whether a comment is documentation, by what follows its first two characters, the second of which is
`marker`: an exclamation mark, or the marker once more and no third time. -/
def isDocumentation (marker : Char) : List Char → Bool
  | [] => false
  | c :: cs => c == '!' || (c == marker && cs.head? != some marker && cs.head? != some '/')

/-- What follows a comment that is closed; `depth` other comments are open in it. -/
def afterClosed : Nat → List Char → Option (List Char)
  | _, [] => none
  | 0, '*' :: '/' :: cs => some cs
  | depth + 1, '*' :: '/' :: cs => afterClosed depth cs
  | depth, '/' :: '*' :: cs => afterClosed (depth + 1) cs
  | depth, _ :: cs => afterClosed depth cs

/-- What follows the comment in front of a text, if there is one that is no documentation. -/
def afterComment : List Char → Option (List Char)
  | '/' :: '/' :: cs =>
    if isDocumentation '/' cs then none else some (cs.dropWhile (· != '\n'))
  | '/' :: '*' :: cs => if isDocumentation '*' cs then none else afterClosed 0 cs
  | _ => none

theorem length_le_of_afterClosed {depth : Nat} {cs rest : List Char}
    (h : afterClosed depth cs = some rest) : rest.length ≤ cs.length := by
  fun_induction afterClosed depth cs with
  | case1 => simp at h
  | case2 =>
    obtain rfl := by simpa using h
    exact Nat.le_succ_of_le (Nat.le_succ _)
  | case3 _ _ ih => exact Nat.le_succ_of_le (Nat.le_succ_of_le (ih h))
  | case4 _ _ ih => exact Nat.le_succ_of_le (Nat.le_succ_of_le (ih h))
  | case5 _ _ _ _ _ _ ih => exact Nat.le_succ_of_le (ih h)

theorem length_lt_of_afterComment {cs rest : List Char}
    (h : afterComment cs = some rest) : rest.length < cs.length := by
  unfold afterComment at h
  split at h
  · next more =>
    have drop := (List.dropWhile_sublist (· != '\n') (l := more)).length_le
    obtain ⟨_, rfl⟩ := by simpa using h
    simp only [List.length_cons]
    omega
  · split at h
    · simp at h
    · have := length_le_of_afterClosed h
      simp only [List.length_cons]
      omega
  · simp at h

/-! ### Words -/

/-- The beginnings of literals that look like words. -/
def literalStarts : List String := [
  "r\"", "r#\"", "r##", "b\"", "b'", "br\"", "br#", "c\"", "cr\"", "cr#"]

/-- The words that the mark makes no identifiers of. -/
def unmarkable : List String := ["_", "crate", "self", "Self", "super"]

/-- The word in front of a text, if there is one. -/
def takeWord (cs : List Char) : Option (String × List Char) :=
  if literalStarts.any fun start => start.toList.isPrefixOf cs then none
  else
    match cs with
    | 'r' :: '#' :: marked =>
      match Text.takeIdentifier marked with
      | some (name, rest) =>
        if unmarkable.contains (String.ofList name) then none
        else some ("r#" ++ String.ofList name, rest)
      | none => none
    | _ => (Text.takeIdentifier cs).map fun (name, rest) => (String.ofList name, rest)

theorem length_lt_of_takeWord {cs rest : List Char} {word : String}
    (h : takeWord cs = some (word, rest)) : rest.length < cs.length := by
  unfold takeWord at h
  split at h
  · simp at h
  · split at h
    · split at h
      · next found =>
        split at h
        · simp at h
        · obtain ⟨_, rfl⟩ := by simpa using h
          exact Nat.lt_succ_of_lt (Nat.lt_succ_of_lt (Text.length_lt_of_takeIdentifier found))
      · simp at h
    · obtain ⟨⟨name, rest⟩, found, eq⟩ := Option.map_eq_some_iff.1 h
      obtain ⟨_, rfl⟩ := by simpa using eq
      exact Text.length_lt_of_takeIdentifier found

/-! ### Tokens -/

/-- The first token of a text that starts with no separator, and what follows it. -/
def takeToken (c : Char) (cs : List Char) : Token × List Char :=
  if c = ',' then (.comma, cs)
  else if c = '=' then (.equals, cs)
  else if c = '(' then (.parens, [])
  else
    match takeLiteral (c :: cs), takeWord (c :: cs) with
    | some (value, rest), _ => (.string (String.ofList value), rest)
    | none, some (word, rest) => (.word word, rest)
    | none, none => (.other, [])

theorem length_takeToken_le (c : Char) (cs : List Char) :
    (takeToken c cs).2.length ≤ cs.length := by
  unfold takeToken
  split
  · exact Nat.le_refl _
  split
  · exact Nat.le_refl _
  split
  · exact Nat.zero_le _
  split
  · next found => exact Nat.le_of_lt_succ (length_lt_of_takeLiteral found)
  · next found => exact Nat.le_of_lt_succ (length_lt_of_takeWord found)
  · exact Nat.zero_le _

/-- The tokens of a text. -/
def tokens (cs : List Char) : List Token :=
  match cs with
  | [] => []
  | c :: rest =>
    if isSeparator c then tokens rest
    else
      match h : afterComment (c :: rest) with
      | some more =>
        have := length_lt_of_afterComment h
        tokens more
      | none =>
        have := length_takeToken_le c rest
        (takeToken c rest).1 :: tokens (takeToken c rest).2
termination_by cs.length
decreasing_by all_goals simp only [List.length_cons] at *; omega

end RecordSql.Declaration
