import RecordSql.Config
import RecordSql.Document.Reader

/-!
# Configurations in documents

A document may say the dialect of a configuration, under `dialect`, and its sigil, under
`param_prefix`; what it does not say is as usual, and what else it says is ignored.  A dialect is given
by name: as a text, or as the only key of a table whose value is empty.  A sigil is a text of one
character.
-/

namespace RecordSql

/-- The dialect with the given name. -/
def Dialect.ofName? : String → Option Dialect
  | "sqlite" => some .sqlite
  | "mysql" => some .mysql
  | "postgres" | "postgresql" => some .postgres
  | _ => none

namespace Document.Node

/-- Whether a value is a table or an array without content. -/
def isHollow : Node → Bool
  | table _ es => es.isEmpty
  | array items => items.isEmpty
  | _ => false

/-- The name that a value gives. -/
def name? : Node → Option String
  | text s => some s
  | table _ [(name, n)] => if n.isHollow then some name else none
  | _ => none

/-- The character that a value is. -/
def char? : Node → Option Char
  | text s =>
    match s.toList with
    | [c] => some c
    | _ => none
  | _ => none

end Document.Node

namespace Config

/-- The fault of a document that says no configuration. -/
def misread (reason : String) : Fault :=
  .config (.malformed reason)

/-- The configuration that a document says, usable or not. -/
def ofEntries (es : Document.Entries) : Except Fault Config := do
  let usual : Config := default
  let dialect ← match es.lookup "dialect" with
    | none => .ok usual.dialect
    | some n =>
      match n.name?.bind Dialect.ofName? with
      | some d => .ok d
      | none => .error (misread "no such dialect")
  let sigil ← match es.lookup "param_prefix" with
    | none => .ok usual.sigil
    | some n =>
      match n.char? with
      | some c => .ok c
      | none => .error (misread "the parameter prefix is not a single character")
  return ⟨dialect, sigil⟩

/-- The usable configuration that a document says. -/
def ofDocument (source : String) : Except Fault Config := do
  match Document.read source with
  | none => .error (misread "the document cannot be read")
  | some es =>
    let c ← ofEntries es
    c.validate
    return c

end Config

end RecordSql
