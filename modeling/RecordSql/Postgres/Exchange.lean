import RecordSql.Client
import RecordSql.Postgres.Wire

/-!
# Exchanges with a server

A statement takes two messages: its text, which the server describes by the types of its parameters and
of its columns, and then the parameters, encoded for the described types.  Parameters of the wrong
number, or one that has no binary form, end the exchange after the first message.  The server answers
with rows of binary cells and a tag, whose last word is the number of rows affected.

The server here is laid out in advance: it accepts any text, and gives the same description and the
same answer to each, or none at all.
-/

namespace RecordSql.Postgres

/-- A message to the server. -/
inductive Message where
  | parse (sql : String)
  | bind (cells : List (Option (List UInt8)))
deriving DecidableEq, Repr

/-- A column as the server describes it. -/
structure ColumnDescription where
  name : String
  type : DataType
deriving DecidableEq, Repr

/-- A server and the messages it has got. -/
structure Server where
  parameters : List DataType
  columns : List ColumnDescription
  rows : List (List (Option (List UInt8)))
  tag : String
  /-- The server never answers. -/
  silent : Bool
  messages : List Message
deriving Repr

/-- The number of rows that a tag reports: its last word, or zero if that is no number. -/
def affectedRows (tag : String) : Nat :=
  let word := (tag.toList.reverse.takeWhile (· != ' ')).reverse
  let digits := match word with
    | '+' :: rest => rest
    | _ => word
  match Text.readNat? digits with
  | some n => if n < 0x10000000000000000 then n else 0
  | none => 0

/-- The parameters from the `index`-th on, encoded for their types. -/
def encodeFrom (index : Nat) :
    List (DataType × Value) → Except Fault (List (Option (List UInt8)))
  | [] => .ok []
  | (t, v) :: rest =>
    match encode t v with
    | .error _ => .error (.postgres ("error serializing parameter " ++ Text.showNat index))
    | .ok cell => do
      let more ← encodeFrom (index + 1) rest
      return cell :: more

/-- The parameters of a statement, encoded for the types that the server describes. -/
def encodeParameters (types : List DataType) (values : List Value) :
    Except Fault (List (Option (List UInt8))) :=
  if types.length ≠ values.length then
    .error (.postgres ("expected " ++ Text.showNat types.length ++ " parameters but got "
      ++ Text.showNat values.length))
  else encodeFrom 0 (types.zip values)

/-- The fault of a cell in the column with the given index. -/
def cellFault (index : Nat) (c : ColumnDescription) : DecodeIssue → Fault
  | .malformed => .decode c.name ("error deserializing column " ++ Text.showNat index)
  | .unsupported typeName => .decode c.name ("unsupported column type " ++ typeName)

/-- The cells of a row from the `index`-th on. -/
def decodeFrom (index : Nat) :
    List (ColumnDescription × Option (List UInt8)) → Except Fault (List Value)
  | [] => .ok []
  | (c, cell) :: rest => do
    let v ← (decode c.type cell).mapError (cellFault index c)
    let more ← decodeFrom (index + 1) rest
    return v :: more

/-- A row of cells. -/
def decodeRow (columns : List ColumnDescription) (cells : List (Option (List UInt8))) :
    Except Fault FetchedRow := do
  let values ← decodeFrom 0 (columns.zip cells)
  return ⟨columns.map (·.name), values⟩

namespace Server

/-- The server after the messages of a statement. -/
def receive (st : Statement) (s : Server) : Server :=
  let bound : List Message :=
    if s.silent then []
    else match encodeParameters s.parameters st.args with
      | .ok cells => [.bind cells]
      | .error _ => []
  { s with messages := s.messages ++ .parse st.sql :: bound }

/-- A statement on its way to the server, answered by `answer` once its parameters are accepted. -/
def pending {α : Type} (answer : Server → Except Fault α) (st : Statement) : Pending Server α where
  start := receive st
  duration s := if s.silent then none else some 0
  finish s := ((encodeParameters s.parameters st.args).bind fun _ => answer s, s)

/-- The client of a server. -/
def client : Client Server where
  execute := pending fun s => .ok ⟨affectedRows s.tag, none⟩
  query := pending fun s => s.rows.mapM (decodeRow s.columns)

end Server

end RecordSql.Postgres
