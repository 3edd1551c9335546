import RecordSql.Dialect
import RecordSql.Fault
import RecordSql.Text.Alphanumeric

/-!
# Texts with named parameters

In a query text a parameter is a sigil followed by a name, which is the longest run of name characters
there and may be empty.  The character that ends a name belongs to the text around it, even when it is
the sigil.  A `Template` is the text cut at its parameters; it keeps every character, so the text can be
put together again from it (`Template.source`), with markers in place of the parameters
(`Template.render`), or with anything else (`Template.fill`).
-/

namespace RecordSql

/-- The characters of a parameter's name: letters and numbers of any script, `_` and `-`. -/
def isNameChar (c : Char) : Bool :=
  Text.isAlphanumeric c || c == '_' || c == '-'

/-- The sigil of parameters unless another one is chosen. -/
def defaultSigil : Char := '@'

/-- A parameter and the text after it, up to the next parameter. -/
structure Parameter where
  name : List Char
  after : List Char
deriving DecidableEq, Repr

/-- A text cut at its parameters: what stands before the first one, and the parameters. -/
structure Template where
  head : List Char
  parameters : List Parameter
deriving DecidableEq, Repr

namespace Template

/-- The template with `c` in front. -/
def push (c : Char) (t : Template) : Template :=
  { t with head := c :: t.head }

mutual

/-- Cuts a text that starts outside a parameter. -/
def outside (sigil : Char) : List Char → Template
  | [] => ⟨[], []⟩
  | c :: cs =>
    if c = sigil then
      let (name, rest) := inside sigil cs
      ⟨[], ⟨name, rest.head⟩ :: rest.parameters⟩
    else push c (outside sigil cs)

/-- Cuts a text that starts inside a name: the rest of the name, and what follows it. -/
def inside (sigil : Char) : List Char → List Char × Template
  | [] => ([], ⟨[], []⟩)
  | c :: cs =>
    if isNameChar c then
      let (name, rest) := inside sigil cs
      (c :: name, rest)
    else ([], push c (outside sigil cs))

end

/-- The template of a text. -/
def ofText (sigil : Char) (text : String) : Template :=
  outside sigil text.toList

/-- The names of the parameters, one for each occurrence. -/
def names (t : Template) : List String :=
  t.parameters.map fun p => String.ofList p.name

/-- The text with the `k`-th parameter, counted from 0, replaced by `put k name`. -/
def fillFrom (put : Nat → List Char → List Char) : Nat → List Parameter → List Char
  | _, [] => []
  | k, p :: ps => put k p.name ++ p.after ++ fillFrom put (k + 1) ps

/-- The text with every parameter replaced. -/
def fill (put : Nat → List Char → List Char) (t : Template) : List Char :=
  t.head ++ fillFrom put 0 t.parameters

/-- The text the template was cut from. -/
def source (sigil : Char) (t : Template) : List Char :=
  t.fill fun _ name => sigil :: name

/-- The text with markers in place of the parameters, after `used` markers have been used. -/
def render (style : MarkerStyle) (used : Nat) (t : Template) : List Char :=
  t.fill fun k _ => style.marker (used + k + 1)

end Template

/-- A query text with markers, and the names of its parameters in the order of the markers. -/
structure Compiled where
  sql : String
  params : List String
deriving DecidableEq, Repr

/-- Replaces the parameters of a text by the next markers of a sequence. -/
def compile (sigil : Char) (m : Markers) (text : String) : Compiled × Markers :=
  let t := Template.ofText sigil text
  (⟨String.ofList (t.render m.style m.count), t.names⟩,
    { m with count := m.count + t.parameters.length })

/-- A value under the name of a parameter. -/
structure Argument where
  name : String
  value : Value
deriving DecidableEq, Repr

/-- The value of the last argument with the given name. -/
def lookup? (args : List Argument) (name : String) : Option Value :=
  (args.reverse.find? (·.name == name)).map (·.value)

/-- The value of each parameter, in order. -/
def bindArguments (params : List String) (args : List Argument) : Except Fault (List Value) :=
  params.mapM fun name =>
    match lookup? args name with
    | some v => .ok v
    | none => .error (.unknownParameter name)

end RecordSql
