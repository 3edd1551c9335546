import RecordSql.Embedded.Command
import RecordSql.Embedded.Token

/-!
# The grammar of statements

A phrase takes tokens from the front of a statement and answers with what they say, or fails.  Words
stand for themselves when the grammar asks for them and are names where they are not reserved.

Operators bind in levels, the loosest first: `OR`, `AND`, `NOT`, equality, order, sums.  Operators of
one level bind to the left.
-/

namespace RecordSql.Embedded

/-- A reading of the front of a statement. -/
abbrev Phrase (α : Type) := StateT (List Lexeme) Option α

namespace Phrase

/-- The next token, if there is one; it is not taken. -/
def peek : Phrase (Option Token) := do
  return (← get).head?.map (·.token)

/-- Takes the next token. -/
def take : Phrase Token := do
  match ← get with
  | l :: rest =>
    set rest
    return l.token
  | [] => failure

/-- Whether a token is the given word. -/
def isWord (word : String) : Token → Bool
  | .word text => sameName text word
  | _ => false

/-- Takes the next token if it is the given word. -/
def takeWord? (word : String) : Phrase Bool := do
  if (← peek).any (isWord word) then
    let _ ← take
    return true
  else return false

/-- Takes the given words. -/
def takeWords : List String → Phrase Unit
  | [] => return ()
  | word :: words => do
    if ← takeWord? word then takeWords words else failure

/-- Takes the next token if it is the given sign. -/
def takeSign? (sign : String) : Phrase Bool := do
  if (← peek) == some (.sign sign) then
    let _ ← take
    return true
  else return false

/-- Takes the given sign. -/
def takeSign (sign : String) : Phrase Unit := do
  if ← takeSign? sign then return () else failure

/-- The name that a token is, unless it is one of the given words.  Text in single quotes is one where
nothing but a name can stand. -/
def nameOf? (barred : List String) : Token → Option String
  | .word text => if isAmong barred text then none else some text
  | .quoted text => some text
  | .literal (.text bytes) => some (Text.Utf8.decodeLenient bytes)
  | _ => none

/-- A name. -/
def name : Phrase String := do
  match nameOf? reserved (← take) with
  | some text => return text
  | none => failure

/-- A name that is not of a table or a column, if one comes next. -/
def plainName? : Phrase (Option String) := do
  match (← peek).bind (nameOf? (reserved ++ joining)) with
  | some text =>
    let _ ← take
    return some text
  | none => return none

/-- The rest of a list with commas between its items, of at most `fuel` items. -/
def itemsAfter {α : Type} (item : Phrase α) : Nat → Phrase (List α)
  | 0 => return []
  | fuel + 1 => do
    if ← takeSign? "," then
      let a ← item
      let more ← itemsAfter item fuel
      return a :: more
    else return []

/-- A list of items with commas between them. -/
def items {α : Type} (item : Phrase α) : Phrase (List α) := do
  let a ← item
  let more ← itemsAfter item (← get).length
  return a :: more

/-- Something in parentheses. -/
def parens {α : Type} (inner : Phrase α) : Phrase α := do
  takeSign "("
  let a ← inner
  takeSign ")"
  return a

/-! ### Expressions -/

/-- The operator that a token stands for, and its level. -/
def operator? : Token → Option (BinaryOp × Nat)
  | .word text =>
    if sameName text "or" then some (.or, 1)
    else if sameName text "and" then some (.and, 2)
    else if sameName text "is" then some (.same, 4)
    else none
  | .sign "=" | .sign "==" => some (.equal, 4)
  | .sign "!=" | .sign "<>" => some (.notEqual, 4)
  | .sign "<" => some (.less, 5)
  | .sign "<=" => some (.lessOrEqual, 5)
  | .sign ">" => some (.greater, 5)
  | .sign ">=" => some (.greaterOrEqual, 5)
  | .sign "+" => some (.plus, 6)
  | .sign "-" => some (.minus, 6)
  | _ => none

/-- The level of what `NOT` applies to. -/
def notLevel : Nat := 3

/-- The level of what a sign applies to: nothing binds tighter. -/
def signLevel : Nat := 7

/-- The words for the present time. -/
def timeWords : List String := ["current_date", "current_time", "current_timestamp"]

/-- The words that start an expression of a form of its own. -/
def formWords : List String := ["cast", "raise"]

/-- The expression that a word or another token is by itself.  There is no clock: a word for the present
time stands for null. -/
def atom : Token → Option (Expr String)
  | .literal c => some (.literal c)
  | .marker (.numbered n) => some (.marker n)
  | .quoted name => some (.column name)
  | .word text =>
    if sameName text "null" || isAmong timeWords text then some (.literal .null)
    else if isAmong (reserved ++ formWords) text then none
    else some (.column text)
  | _ => none

/-- The test that a word after an expression stands for. -/
def nullTest? : Token → Option BinaryOp
  | .word text =>
    if sameName text "isnull" then some .same
    else if sameName text "notnull" then some .notSame
    else none
  | _ => none

mutual

/-- An expression of operators of at least the given level. -/
def exprIn : Nat → Nat → Phrase (Expr String)
  | 0, _ => failure
  | fuel + 1, level => do
    let first ← operandIn fuel
    continueIn fuel level first

/-- An expression that starts with no operator between two. -/
def operandIn : Nat → Phrase (Expr String)
  | 0 => failure
  | fuel + 1 => do
    let t ← take
    if isWord "not" t then return .not (← exprIn fuel notLevel)
    else if t == .sign "-" then return .negate (← exprIn fuel signLevel)
    else if t == .sign "+" then exprIn fuel signLevel
    else if t == .sign "(" then
      let e ← exprIn fuel 0
      takeSign ")"
      return e
    else match atom t with
      | some e => return e
      | none => failure

/-- What the expression `a` is the beginning of. -/
def continueIn : Nat → Nat → Expr String → Phrase (Expr String)
  | 0, _, _ => failure
  | fuel + 1, level, a => do
    match ← peek with
    | none => return a
    | some t =>
      match nullTest? t with
      | some op =>
        if 4 < level then return a
        else
          let _ ← take
          continueIn fuel level (.binary op a (.literal .null))
      | none =>
        match operator? t with
        | none => return a
        | some (op, own) =>
          if own < level then return a
          else
            let _ ← take
            let op ← if op = .same then
                (do if ← takeWord? "not" then return BinaryOp.notSame else return .same)
              else pure op
            let b ← exprIn fuel (own + 1)
            continueIn fuel level (.binary op a b)

end

/-- An expression.  Every step takes a token or stands before one that does. -/
def expr : Phrase (Expr String) := do
  exprIn (2 * (← get).length + 2) 0

/-! ### Queries -/

/-- The characters from `before` characters before the end to the last token that is not among the
`rest`. -/
def textBetween (source : List Char) (taken rest : List Lexeme) : String :=
  match taken.head?, taken[taken.length - rest.length - 1]? with
  | some first, some last =>
    String.ofList ((source.drop (source.length - first.before)).take (first.before - last.after))
  | _, _ => ""

/-- The name that an item is given, if it is given one. -/
def label? : Phrase (Option String) := do
  if ← takeWord? "as" then return some (← name) else plainName?

/-- An item of a result. -/
def item (source : List Char) : Phrase Item := do
  let start ← get
  let value ← expr
  let text := textBetween source start (← get)
  return ⟨value, ← label?, text⟩

/-- The number of rows as the only item of a result. -/
def countItem (source : List Char) : Phrase Projection := do
  let start ← get
  takeWords ["count"]
  takeSign "("
  takeSign "*"
  takeSign ")"
  let text := textBetween source start (← get)
  return .count ((← label?).getD text)

/-- What a query answers with. -/
def projection (source : List Char) : Phrase Projection := do
  if ← takeSign? "*" then return .all
  else (countItem source) <|> (Projection.items <$> items (item source))

/-- A condition, if there is one. -/
def condition : Phrase (Option (Expr String)) := do
  if ← takeWord? "where" then return some (← expr) else return none

/-- An expression to order by. -/
def orderTerm : Phrase OrderTerm := do
  let value ← expr
  if ← takeWord? "desc" then return ⟨value, true⟩
  else
    let _ ← takeWord? "asc"
    return ⟨value, false⟩

/-- A query after its first word. -/
def queryRest (source : List Char) : Phrase Query := do
  let projection ← projection source
  let table ← if ← takeWord? "from" then some <$> name else pure none
  let condition ← condition
  let order ← if ← takeWord? "order" then
      (do takeWords ["by"]; items orderTerm)
    else pure []
  return ⟨projection, table, condition, order⟩

/-- A query for a recursive relation, after its first word. -/
def recursion (source : List Char) : Phrase Recursion := do
  takeWords ["recursive"]
  let relation ← name
  let column ← parens name
  takeWords ["as"]
  takeSign "("
  takeWords ["select"]
  let first ← expr
  takeWords ["union", "all", "select"]
  let next ← queryRest source
  takeSign ")"
  takeWords ["select"]
  let main ← queryRest source
  return ⟨relation, column, first, next, main⟩

/-! ### Changes -/

/-- A list of expressions in parentheses. -/
def tuple : Phrase (List (Expr String)) :=
  parens (items expr)

/-- The rows of an insert. -/
def rowSource (source : List Char) : Phrase RowSource := do
  if ← takeWord? "default" then
    takeWords ["values"]
    return .defaults
  else if ← takeWord? "values" then return .tuples (← items tuple)
  else
    takeWords ["select"]
    return .query (← queryRest source)

/-- An insert after the words that say what it does with conflicts. -/
def insertRest (source : List Char) (onConflict : OnConflict) : Phrase Insertion := do
  takeWords ["into"]
  let table ← name
  let columns ← if (← peek) == some (.sign "(") then some <$> parens (items name) else pure none
  let rows ← rowSource source
  let returning ← if ← takeWord? "returning" then some <$> projection source else pure none
  return ⟨table, columns, rows, onConflict, returning⟩

/-- What an insert does with conflicts. -/
def onConflict : Phrase OnConflict := do
  if ← takeWord? "or" then
    if ← takeWord? "ignore" then return .ignore
    else if ← takeWord? "replace" then return .replace
    else
      takeWords ["abort"]
      return .abort
  else return .abort

/-- An assignment of an update. -/
def assignment : Phrase (String × Expr String) := do
  let column ← name
  takeSign "="
  return (column, ← expr)

/-! ### Tables -/

/-- What a declaration says about a column after its type. -/
structure ColumnMarks where
  /-- How often the column is declared to be the key. -/
  keys : Nat
  descending : Bool
  counting : Bool
  unique : Bool
  required : Bool
  initial : Cell

/-- The words of a type, at most `fuel` of them. -/
def typeWords : Nat → Phrase (List String)
  | 0 => return []
  | fuel + 1 => do
    match ← plainName? with
    | some word =>
      let more ← typeWords fuel
      return word :: more
    | none => return []

/-- A number with or without a sign. -/
def signedNumber : Phrase Unit := do
  let negative ← takeSign? "-"
  let _ ← if negative then pure false else takeSign? "+"
  match ← take with
  | .literal (.integer _) | .literal (.real _) => return ()
  | _ => failure

/-- The one or two numbers of a type, such as the greatest length of a text, if they come next. -/
def typeNumbers? : Phrase Bool := do
  if (← peek) == some (.sign "(") then
    let numbers ← parens (items signedNumber)
    if numbers.length ≤ 2 then return true else failure
  else return false

/-- The words of a type, none if there is no type, and whether numbers follow them. -/
def declaredType : Phrase (String × Bool) := do
  let words ← typeWords (← get).length
  return (" ".intercalate words, ← if words.isEmpty then pure false else typeNumbers?)

/-- The cell of a literal or of a word for null or for the present time. -/
def term : Token → Option Cell
  | .literal c => some c
  | .word text => if sameName text "null" || isAmong timeWords text then some .null else none
  | _ => none

/-- The cell of a word or of a text in quotes.  A word that is no truth value stands for itself. -/
def wordCell : Token → Option Cell
  | .quoted text => some (.ofChars text.toList)
  | .word text =>
    if sameName text "true" then some (.ofInt 1)
    else if sameName text "false" then some (.ofInt 0)
    else if isAmong reserved text then none
    else some (.ofChars text.toList)
  | _ => none

/-- A term with or without a sign, or a word without one. -/
def signedValue : Phrase Cell := do
  let negative ← takeSign? "-"
  let signed ← if negative then pure true else takeSign? "+"
  let t ← take
  match if signed then term t else (term t).or (wordCell t) with
  | some c => return if negative then c.negated else c
  | none => failure

/-- The initial value of a column. -/
def initialValue : Phrase Cell := do
  if (← peek) == some (.sign "(") then parens signedValue else signedValue

/-- The marks of a column, at most `fuel` of them. -/
def columnMarks : Nat → ColumnMarks → Phrase ColumnMarks
  | 0, m => return m
  | fuel + 1, m => do
    if ← takeWord? "primary" then
      takeWords ["key"]
      let descending ← takeWord? "desc"
      let _ ← takeWord? "asc"
      let counting ← takeWord? "autoincrement"
      columnMarks fuel
        { m with keys := m.keys + 1, descending := descending, counting := counting }
    else if ← takeWord? "not" then
      takeWords ["null"]
      columnMarks fuel { m with required := true }
    else if ← takeWord? "null" then columnMarks fuel m
    else if ← takeWord? "unique" then columnMarks fuel { m with unique := true }
    else if ← takeWord? "default" then
      let initial ← initialValue
      columnMarks fuel { m with initial := initial }
    else if ← takeWord? "constraint" then
      let _ ← name
      columnMarks fuel m
    else if ← takeWord? "collate" then
      takeWords ["binary"]
      columnMarks fuel m
    else return m

/-- A column, and how often it is declared to be the key.  A key of integer type is the number of the
row; only such a key counts up by itself. -/
def columnRule : Phrase (ColumnRule × Nat) := do
  let columnName ← name
  let (typeName, numbered) ← declaredType
  let m ← columnMarks (← get).length ⟨0, false, false, false, false, .null⟩
  let rowNumber := 0 < m.keys && !m.descending && !numbered && sameName typeName "integer"
  if m.counting && !rowNumber then failure
  else
    return (⟨columnName, .ofType typeName, rowNumber, m.unique || 0 < m.keys, m.required,
      m.initial⟩, m.keys)

/-- A declaration of a table after its first words. -/
def createTableRest : Phrase Command := do
  let unlessExists ← takeWord? "if"
  if unlessExists then takeWords ["not", "exists"]
  let table ← name
  let columns ← parens (items columnRule)
  let keys := columns.foldl (fun count c => count + c.2) 0
  return .createTable table (columns.map (·.1)) keys unlessExists

/-- The removal of a table after its first words. -/
def dropTableRest : Phrase Command := do
  let ifExists ← takeWord? "if"
  if ifExists then takeWords ["exists"]
  return .dropTable (← name) ifExists

/-! ### Statements -/

/-- A statement, whose first word is given. -/
def commandOf (source : List Char) (first : String) : Phrase Command :=
  match first with
  | "create" => do
    takeWords ["table"]
    createTableRest
  | "drop" => do
    takeWords ["table"]
    dropTableRest
  | "insert" => do
    let onConflict ← onConflict
    return .insert (← insertRest source onConflict)
  | "replace" => return .insert (← insertRest source .replace)
  | "update" => do
    let table ← name
    takeWords ["set"]
    let assigned ← items assignment
    return .update table assigned (← condition)
  | "delete" => do
    takeWords ["from"]
    let table ← name
    return .delete table (← condition)
  | "select" => return .query (← queryRest source)
  | "with" => return .recursion (← recursion source)
  | "begin" => do
    let _ ← takeWord? "deferred"
    let _ ← takeWord? "immediate"
    let _ ← takeWord? "exclusive"
    let _ ← takeWord? "transaction"
    return .start
  | "commit" | "end" => do
    let _ ← takeWord? "transaction"
    return .commit
  | "rollback" => do
    let _ ← takeWord? "transaction"
    return .rollback
  | _ => failure

/-- A whole statement: nothing but a semicolon may follow it. -/
def command (source : List Char) : Phrase Command := do
  match ← take with
  | .word first =>
    let c ← commandOf source (String.ofList (folded first))
    let _ ← takeSign? ";"
    if (← get).isEmpty then return c else failure
  | _ => failure

end Phrase

/-- The command that a text stands for, and the number of values that its markers take. -/
def readCommand (text : String) : Except Issue (Command × Nat) :=
  let source := text.toList
  let (tokens, values) := (Numbering.mk 0 []).numberAll (lexemes source)
  match (Phrase.command source).run tokens with
  | some (c, _) => .ok (c, values)
  | none => .error .unreadable

end RecordSql.Embedded
