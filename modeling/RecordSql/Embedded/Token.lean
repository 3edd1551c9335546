import RecordSql.Embedded.Name
import RecordSql.Embedded.Numeric
import RecordSql.Text.Blank

/-!
# Tokens of statements

A statement is a sequence of words, quoted names, literals, markers and signs, with blanks and comments
between them.  Some words are reserved and are no names.

A marker is `?`, which stands for the next value, `?N`, which stands for the `N`-th, or a name
after `$`, `:` or `@`, which takes the next value where it stands first and the same one after that.
-/

namespace RecordSql.Embedded

/-- A marker as it is written. -/
inductive Marker where
  | next
  | numbered (n : Nat)
  | named (name : String)
deriving DecidableEq, Repr

/-- A token of a statement. -/
inductive Token where
  | word (text : String)
  /-- A name in quotes. -/
  | quoted (name : String)
  | literal (cell : Cell)
  | marker (m : Marker)
  | sign (text : String)
  /-- What can stand in no statement. -/
  | stray
deriving DecidableEq, Repr

/-- A token with the numbers of characters that are left in the text before and after it. -/
structure Lexeme where
  token : Token
  before : Nat
  after : Nat
deriving DecidableEq, Repr

/-- The words that are no names. -/
def reserved : List String := [
  "add", "all", "alter", "and", "as", "autoincrement", "between", "case", "check", "collate",
  "commit", "constraint", "create", "default", "deferrable", "delete", "distinct", "drop", "else",
  "escape", "except", "exists", "foreign", "from", "group", "having", "in", "index", "insert",
  "intersect", "into", "is", "isnull", "join", "limit", "not", "nothing", "notnull", "null", "on",
  "or", "order", "primary", "references", "returning", "select", "set", "table", "then", "to",
  "transaction", "union", "unique", "update", "using", "values", "when", "where"]

/-- The words that are names of tables and columns only. -/
def joining : List String :=
  ["cross", "full", "indexed", "inner", "left", "natural", "outer", "right"]

/-- Whether a word is one of a list. -/
def isAmong (words : List String) (text : String) : Bool :=
  words.any (sameName text)

/-- Whether a character separates tokens. -/
def isSeparator (c : Char) : Bool :=
  c == ' ' || c == '\t' || c == '\n' || c == '\x0C' || c == '\r' || c == '\uFEFF'

/-- Whether a character can start a word. -/
def isWordStart (c : Char) : Bool :=
  c.isAlpha || c == '_' || 0x80 ≤ c.toNat

/-- Whether a character can stand in a word. -/
def isWordChar (c : Char) : Bool :=
  isWordStart c || c.isDigit || c == '$'

/-- What stands between quotes, in which two quotes stand for one, and what follows them. -/
def takeQuoted (q : Char) : List Char → Option (List Char × List Char)
  | [] => none
  | c :: cs =>
    if c ≠ q then (takeQuoted q cs).map fun (text, rest) => (c :: text, rest)
    else match cs with
      | d :: more =>
        if d = q then (takeQuoted q more).map fun (text, rest) => (q :: text, rest)
        else some ([], d :: more)
      | [] => some ([], [])

/-- What follows a comment that ends in `*/`. -/
def afterComment : List Char → List Char
  | [] => []
  | '*' :: '/' :: cs => cs
  | _ :: cs => afterComment cs

/-- What follows a comment that ends with its line. -/
def afterLine (cs : List Char) : List Char :=
  cs.dropWhile (· != '\n')

/-- The value of a hexadecimal digit. -/
def hexDigit? (c : Char) : Option Nat :=
  if c.isDigit then some (c.toNat - '0'.toNat)
  else if 'a' ≤ c.toLower && c.toLower ≤ 'f' then some (c.toLower.toNat - 'a'.toNat + 10)
  else none

/-- The bytes that pairs of hexadecimal digits denote. -/
def hexBytes? : List Char → Option (List UInt8)
  | [] => some []
  | [_] => none
  | a :: b :: cs => do
    let high ← hexDigit? a
    let low ← hexDigit? b
    let more ← hexBytes? cs
    return UInt8.ofNat (16 * high + low) :: more

/-- The signs of two characters. -/
def doubleSigns : List (Char × Char) :=
  [('=', '='), ('<', '='), ('<', '>'), ('<', '<'), ('>', '='), ('>', '>'), ('!', '='), ('|', '|')]

/-- The signs of one character. -/
def singleSigns : List Char :=
  ['(', ')', ',', ';', '.', '=', '<', '>', '+', '-', '*', '/', '%', '|', '&', '~']

/-- The word that starts with `c`, and what follows it. -/
def takeWord (c : Char) (cs : List Char) : String × List Char :=
  (String.ofList (c :: cs.takeWhile isWordChar), cs.dropWhile isWordChar)

/-- The token of a number: one that runs into a word is none. -/
def numberToken (cs : List Char) : Token × List Char :=
  match Number.takeUnsigned cs with
  | none => (.stray, cs.drop 1)
  | some (value, whole, rest) =>
    if rest.head?.any isWordChar then (.stray, rest.dropWhile isWordChar)
    else (.literal (Numeral.toCell ⟨false, value, whole⟩), rest)

/-- The token of something in quotes. -/
def quotedToken (make : List Char → Token) (q : Char) (cs : List Char) : Token × List Char :=
  match takeQuoted q cs with
  | some (text, rest) => (make text, rest)
  | none => (.stray, [])

/-- The token of bytes in quotes. -/
def blobToken (text : List Char) : Token :=
  match hexBytes? text with
  | some bytes => .literal (.blob bytes)
  | none => .stray

/-- The token of a marker with a number. -/
def numberedToken (digits : List Char) : Token :=
  match Text.readNat? digits with
  | some n => .marker (.numbered n)
  | none => .marker .next

/-- The token that starts with `c`, which is no separator, and what follows it. -/
def firstToken (c : Char) (cs : List Char) : Token × List Char :=
  if c.isDigit || (c == '.' && cs.head?.any Char.isDigit) then numberToken (c :: cs)
  else if c = '\'' then quotedToken (fun text => .literal (.ofChars text)) c cs
  else if c = '"' ∨ c = '\x60' then quotedToken (fun text => .quoted (String.ofList text)) c cs
  else if c = '[' then
    (.quoted (String.ofList (cs.takeWhile (· != ']'))), (cs.dropWhile (· != ']')).drop 1)
  else if c = '?' then (numberedToken (cs.takeWhile Char.isDigit), cs.dropWhile Char.isDigit)
  else if c = '$' ∨ c = ':' ∨ c = '@' then
    let name := cs.takeWhile isWordChar
    if name.isEmpty then (.stray, cs)
    else (.marker (.named (String.ofList (c :: name))), cs.dropWhile isWordChar)
  else if isWordStart c then
    match c.toLower, cs with
    | 'x', '\'' :: more => quotedToken blobToken '\'' more
    | _, _ =>
      let (word, rest) := takeWord c cs
      (.word word, rest)
  else match cs with
    | d :: more =>
      if (c, d) ∈ doubleSigns then (.sign (String.ofList [c, d]), more)
      else if c ∈ singleSigns then (.sign c.toString, cs)
      else (.stray, cs)
    | [] => if c ∈ singleSigns then (.sign c.toString, cs) else (.stray, cs)

/-- The tokens of a text, in at most `fuel` steps. -/
def lexemesIn : Nat → List Char → List Lexeme
  | 0, _ => []
  | _, [] => []
  | fuel + 1, c :: cs =>
    match c, cs with
    | '-', '-' :: more => lexemesIn fuel (afterLine more)
    | '/', '*' :: more => lexemesIn fuel (afterComment more)
    | _, _ =>
      if isSeparator c then lexemesIn fuel cs
      else
        let (token, rest) := firstToken c cs
        ⟨token, cs.length + 1, rest.length⟩ :: lexemesIn fuel rest

/-- The tokens of a text: every step takes at least one character. -/
def lexemes (cs : List Char) : List Lexeme :=
  lexemesIn cs.length cs

/-- Markers while they are being numbered: the number of values so far, and the named ones. -/
structure Numbering where
  count : Nat
  names : List (String × Nat)
deriving DecidableEq, Repr

namespace Numbering

/-- The number of a marker, and the numbering after it. -/
def number (n : Numbering) : Marker → Nat × Numbering
  | .next => (n.count + 1, { n with count := n.count + 1 })
  | .numbered k => (k, { n with count := max n.count k })
  | .named name =>
    match n.names.lookup name with
    | some k => (k, n)
    | none => (n.count + 1, ⟨n.count + 1, (name, n.count + 1) :: n.names⟩)

/-- Numbers the markers of a statement, and counts the values that they take. -/
def numberAll (n : Numbering) : List Lexeme → List Lexeme × Nat
  | [] => ([], n.count)
  | l :: rest =>
    match l.token with
    | .marker m =>
      let (k, n) := n.number m
      let (more, count) := n.numberAll rest
      ({ l with token := .marker (.numbered k) } :: more, count)
    | _ =>
      let (more, count) := n.numberAll rest
      (l :: more, count)

end Numbering

end RecordSql.Embedded
