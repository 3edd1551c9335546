import RecordSql.Value
import RecordSql.Text.Blank
import RecordSql.Text.Numeral
import RecordSql.Text.Utf8

/-!
# Reading a value into a field

A field has a scalar type and may be optional.  Reading accepts, besides the kind of the field itself,
the kinds a database may hand back in its place: integers of any width, truth values and decimal text
for an integer field; the integers zero and one for a truth value; small enough integers for a double;
text and bytes for one another.  An optional field reads null as absent.

What is read is again a `Value`, of the kind of the field's type; the absent value is null.
-/

namespace RecordSql

/-- The scalar types of fields. -/
inductive Scalar where
  | bool
  | int (t : IntType)
  | float
  | text
  | bytes
  | any
deriving DecidableEq, Repr

/-- The type of a field. -/
structure FieldType where
  scalar : Scalar
  optional : Bool
deriving DecidableEq, Repr

/-- The name of a scalar type in messages. -/
def Scalar.name : Scalar → String
  | bool => "bool"
  | int t => t.name
  | float => "f64"
  | text => "text"
  | bytes => "bytes"
  | any => "value"

/-- Why a value does not fit a field. -/
inductive FieldIssue where
  /-- The kind of the value is none that the type reads. -/
  | mismatch (wanted : Scalar) (got : Kind)
  /-- The integer lies outside the range of the type. -/
  | outOfRange (n : Int) (t : IntType)
  /-- The bytes are no text. -/
  | notText (issue : Text.Utf8.Issue)
deriving DecidableEq, Repr

/-- The text of a malformed byte sequence. -/
def Text.Utf8.Issue.message (issue : Utf8.Issue) : String :=
  match issue.width with
  | some n =>
    "invalid utf-8 sequence of " ++ showNat n ++ " bytes from index " ++ showNat issue.index
  | none => "incomplete utf-8 byte sequence from index " ++ showNat issue.index

/-- The text of an issue. -/
def FieldIssue.message : FieldIssue → String
  | mismatch wanted got => "expected " ++ wanted.name ++ ", got " ++ got.name
  | outOfRange n t => "value " ++ Text.showInt n ++ " out of range for " ++ t.name
  | notText issue => issue.message

/-- The integer that a text denotes: a numeral between blanks whose number fits 128 bits. -/
def Text.integer? (s : String) : Option Int :=
  (readInt? (trimBlanks s.toList)).filter fun n => decide (IntType.i128.Holds n)

/-- The integer that a value denotes to an integer field. -/
def Value.denoted? : Value → Option Int
  | .bool b => some (if b then 1 else 0)
  | .int _ n => some n.val
  | .text s => Text.integer? s
  | _ => none

namespace Scalar

/-- Reads an integer field. -/
def readInt (t : IntType) (v : Value) : Except FieldIssue Value :=
  match v.denoted? with
  | none => .error (.mismatch (.int t) v.kind)
  | some n =>
    match Ranged.ofInt? t n with
    | some r => .ok (.int t r)
    | none => .error (.outOfRange n t)

/-- Reads a truth value. -/
def readBool (v : Value) : Except FieldIssue Value :=
  match v with
  | .bool b => .ok (.bool b)
  | _ =>
    match v.integer? with
    | some 0 => .ok (.bool false)
    | some 1 => .ok (.bool true)
    | _ => .error (.mismatch .bool v.kind)

/-- Reads a double. -/
def readFloat (v : Value) : Except FieldIssue Value :=
  match v with
  | .float x => .ok (.float x)
  | _ =>
    match v.word? with
    | some n => .ok (.float (.ofInt n.val))
    | none => .error (.mismatch .float v.kind)

/-- Reads a text. -/
def readText : Value → Except FieldIssue Value
  | .text s => .ok (.text s)
  | .bytes bs =>
    match Text.Utf8.decode bs with
    | .ok s => .ok (.text s)
    | .error issue => .error (.notText issue)
  | v => .error (.mismatch .text v.kind)

/-- Reads bytes.  Null is the empty sequence. -/
def readBytes : Value → Except FieldIssue Value
  | .bytes bs => .ok (.bytes bs)
  | .text s => .ok (.bytes (Text.Utf8.encode s))
  | .null => .ok (.bytes [])
  | v => .error (.mismatch .bytes v.kind)

/-- Reads a field that is not optional. -/
def read : Scalar → Value → Except FieldIssue Value
  | bool => readBool
  | int t => readInt t
  | float => readFloat
  | text => readText
  | bytes => readBytes
  | any => .ok

end Scalar

/-- Reads a field. -/
def FieldType.read (t : FieldType) (v : Value) : Except FieldIssue Value :=
  if t.optional && v.isNull then .ok .null else t.scalar.read v

end RecordSql
