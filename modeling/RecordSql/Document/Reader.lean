import RecordSql.Document.Scalar

/-!
# Reading documents

A document is a sequence of lines: blank ones, comments, headers, and pairs of a key and a value.  Texts
stand in single or double quotes, one or three of them: double quotes read escapes, three quotes let a
text run over lines.  Arrays and tables between braces may run over lines too, and may end in a comma.

Depth is limited: a key with dots has at most 80 parts, and at most 80 arrays and tables between braces
stand in one another.
-/

namespace RecordSql.Document

/-- A reading of the front of a document. -/
abbrev Reading (α : Type) := StateT (List Char) Option α

namespace Reading

/-- The next character, if there is one; it is not taken. -/
def peek : Reading (Option Char) := do
  return (← get).head?

/-- Takes the next character. -/
def take : Reading Char := do
  match ← get with
  | c :: cs =>
    set cs
    return c
  | [] => failure

/-- Takes the given characters if they come next. -/
def takeExactly? (cs : List Char) : Reading Bool := do
  let rest ← get
  if cs.isPrefixOf rest then
    set (rest.drop cs.length)
    return true
  else return false

/-- Takes the given characters. -/
def takeExactly (cs : List Char) : Reading Unit := do
  if ← takeExactly? cs then return () else failure

/-- Takes characters as long as they satisfy `p`. -/
def takeAll (p : Char → Bool) : Reading (List Char) := do
  let rest ← get
  set (rest.dropWhile p)
  return rest.takeWhile p

/-! ### Blanks and comments -/

/-- Whether a character separates what stands on one line. -/
def isBlank (c : Char) : Bool :=
  c == ' ' || c == '\t'

/-- Whether a character can stand in a comment, or in a text as it is. -/
def isPlain (c : Char) : Bool :=
  c == '\t' || (' ' ≤ c && c != '\x7F')

/-- Takes blanks. -/
def blanks : Reading Unit := do
  let _ ← takeAll isBlank

/-- Takes a comment, if there is one. -/
def comment : Reading Unit := do
  if ← takeExactly? ['#'] then
    let _ ← takeAll isPlain
    return ()
  else return ()

/-- Takes the end of a line, if it comes next. -/
def newline? : Reading Bool := do
  if ← takeExactly? ['\n'] then return true else takeExactly? ['\r', '\n']

/-- Takes the rest of a line on which nothing more stands. -/
def lineEnd : Reading Unit := do
  blanks
  comment
  if (← get).isEmpty then return ()
  else if ← newline? then return ()
  else failure

/-- Takes blanks, comments and ends of lines, at most `fuel` of the latter. -/
def linesIn : Nat → Reading Unit
  | 0 => return ()
  | fuel + 1 => do
    blanks
    comment
    if ← newline? then linesIn fuel else return ()

/-- Takes blanks, comments and ends of lines. -/
def lines : Reading Unit := do
  linesIn ((← get).length + 1)

/-! ### Texts -/

/-- The character with the number that exactly `n` hexadecimal digits denote. -/
def numbered (n : Nat) : Reading Char := do
  let rest ← get
  let digits := rest.take n
  set (rest.drop n)
  if digits.length = n ∧ digits.all Text.isHex then Text.charOf? digits else failure

/-- The character that an escape stands for, after its backslash. -/
def escaped : Reading Char := do
  match ← take with
  | 'b' => return '\x08'
  | 't' => return '\t'
  | 'n' => return '\n'
  | 'f' => return '\x0C'
  | 'r' => return '\r'
  | 'e' => return '\x1B'
  | '"' => return '"'
  | '\\' => return '\\'
  | 'x' => numbered 2
  | 'u' => numbered 4
  | 'U' => numbered 8
  | _ => failure

/-- The rest of a text on one line, of at most `fuel` characters. -/
def lineTextIn (q : Char) : Nat → Reading (List Char)
  | 0 => failure
  | fuel + 1 => do
    let c ← take
    if c = q then return []
    else if c = '\\' ∧ q = '"' then
      let d ← escaped
      let more ← lineTextIn q fuel
      return d :: more
    else if isPlain c then
      let more ← lineTextIn q fuel
      return c :: more
    else failure

/-- A text on one line, after its first quote. -/
def lineText (q : Char) : Reading (List Char) := do
  lineTextIn q ((← get).length + 1)

/-- Takes blanks and ends of lines, at most `fuel` of the latter. -/
def foldIn : Nat → Reading Unit
  | 0 => return ()
  | fuel + 1 => do
    blanks
    if ← newline? then foldIn fuel else return ()

/-- Takes the end of a line that a backslash has hidden, and the blanks after it, if that is what
follows the backslash. -/
def hiddenLine? : Reading Bool := do
  let start ← get
  blanks
  if ← newline? then
    foldIn ((← get).length + 1)
    return true
  else
    set start
    return false

/-- The rest of a text that runs over lines, of at most `fuel` characters.  Up to two quotes before the
last three belong to the text. -/
def longTextIn (q : Char) : Nat → Reading (List Char)
  | 0 => failure
  | fuel + 1 => do
    if ← takeExactly? [q, q, q] then
      if ← takeExactly? [q, q] then return [q, q]
      else if ← takeExactly? [q] then return [q]
      else return []
    else if ← takeExactly? ['\r', '\n'] then
      let more ← longTextIn q fuel
      return '\r' :: '\n' :: more
    else
      let c ← take
      if c = '\\' ∧ q = '"' then
        if ← hiddenLine? then longTextIn q fuel
        else
          let d ← escaped
          let more ← longTextIn q fuel
          return d :: more
      else if isPlain c ∨ c = '\n' then
        let more ← longTextIn q fuel
        return c :: more
      else failure

/-- A text that runs over lines, after its first quotes. -/
def longText (q : Char) : Reading (List Char) := do
  let _ ← newline?
  longTextIn q ((← get).length + 1)

/-- A text, after its first quote. -/
def text (q : Char) : Reading (List Char) := do
  if ← takeExactly? [q, q] then longText q else lineText q

/-! ### Keys -/

/-- Whether a character can stand in a key without quotes. -/
def isKeyChar (c : Char) : Bool :=
  c.isAlphanum || c == '_' || c == '-'

/-- A part of a key. -/
def keyPart : Reading String := do
  match ← peek with
  | some '"' | some '\'' => return String.ofList (← lineText (← take))
  | _ =>
    let cs ← takeAll isKeyChar
    if cs.isEmpty then failure else return String.ofList cs

/-- The parts of a key after `first`, at most `more` of them, and the blanks after it. -/
def keyIn : Nat → String → Reading Entries.Key
  | more, first => do
    blanks
    if ← takeExactly? ['.'] then
      match more with
      | 0 => failure
      | more + 1 =>
        blanks
        let key ← keyIn more (← keyPart)
        return ⟨first :: key.path, key.last⟩
    else return ⟨[], first⟩

/-- The greatest number of parts of a key, and of arrays and tables between braces in one another. -/
def greatestDepth : Nat := 80

/-- A key, and the blanks after it. -/
def key : Reading Entries.Key := do
  keyIn (greatestDepth - 1) (← keyPart)

/-! ### Values -/

/-- Whether a character can stand in a scalar. -/
def isScalarChar (c : Char) : Bool :=
  isKeyChar c || c == '+' || c == '.' || c == ':'

/-- A time of day that follows a date after a blank, with the blank. -/
def timeAfterBlank : Reading (List Char) := do
  match ← get with
  | ' ' :: c :: _ =>
    if c.isDigit then
      let _ ← take
      let time ← takeAll isScalarChar
      return ' ' :: time
    else return []
  | _ => return []

/-- A scalar. -/
def scalar : Reading Node := do
  let cs ← takeAll isScalarChar
  let more ← if afterDate cs == some [] then timeAfterBlank else pure []
  match scalar? (cs ++ more) with
  | some n => return n
  | none => failure

/-- The items of a list up to the sign `close`, at most `fuel` of them, with commas between them. -/
def listIn {α : Type} (item : Reading α) (close : Char) : Nat → Reading (List α)
  | 0 => failure
  | fuel + 1 => do
    lines
    if ← takeExactly? [close] then return []
    else
      let a ← item
      lines
      if ← takeExactly? [close] then return [a]
      else
        takeExactly [',']
        let more ← listIn item close fuel
        return a :: more

/-- A pair of a key and a value; `gap` takes what may stand around the equals sign. -/
def pairOf (gap : Reading Unit) (value : Reading Node) : Reading (Entries.Key × Node) := do
  let key ← key
  gap
  takeExactly ['=']
  gap
  let n ← value
  return (key, n)

/-- A text, if one comes next. -/
def text? : Reading (Option Node) := do
  if ← takeExactly? ['"'] then return some (.text (String.ofList (← text '"')))
  else if ← takeExactly? ['\''] then return some (.text (String.ofList (← text '\'')))
  else return none

/-- A value in which at most `depth` arrays and tables between braces stand in one another.  Between
braces a line may end wherever a blank may stand, but not inside a key. -/
def valueIn (depth : Nat) : Reading Node := do
  match ← text? with
  | some n => return n
  | none =>
    match depth with
    | 0 => scalar
    | depth + 1 =>
      if ← takeExactly? ['['] then
        return .array (← listIn (valueIn depth) ']' ((← get).length + 1))
      else if ← takeExactly? ['\x7B'] then
        let pairs ← listIn (pairOf lines (valueIn depth)) '\x7D' ((← get).length + 1)
        match Entries.addAll .braces pairs [] with
        | some es => return .table .braces es
        | none => failure
      else scalar

/-- A pair of a key and a value on one line. -/
def pair : Reading (Entries.Key × Node) :=
  pairOf blanks (valueIn greatestDepth)

/-! ### Sections -/

/-- A header after its first bracket. -/
def header : Reading Header := do
  let double ← takeExactly? ['[']
  blanks
  let key ← key
  takeExactly (if double then [']', ']'] else [']'])
  return if double then .element key else .table key

/-- The sections of a document, the first of which has the header `h`, in at most `fuel` lines. -/
def sectionsIn : Nat → Header → Reading (Section × List Section)
  | 0, _ => failure
  | fuel + 1, h => do
    lines
    match ← peek with
    | none => return (⟨h, []⟩, [])
    | some '[' =>
      let _ ← take
      let next ← header
      lineEnd
      let (s, more) ← sectionsIn fuel next
      return (⟨h, []⟩, s :: more)
    | some _ =>
      let p ← pair
      lineEnd
      let (s, more) ← sectionsIn fuel h
      return (⟨h, p :: s.pairs⟩, more)

/-- The sections of a document. -/
def sections : Reading (List Section) := do
  let (s, more) ← sectionsIn ((← get).length + 1) .none
  return s :: more

end Reading

/-- The entries of a document, if it is one.  A mark of the byte order may stand in front. -/
def read (source : String) : Option Entries := do
  let cs := match source.toList with
    | '\uFEFF' :: cs => cs
    | cs => cs
  let (sections, _) ← Reading.sections.run cs
  sections.foldlM Entries.addSection []

end RecordSql.Document
