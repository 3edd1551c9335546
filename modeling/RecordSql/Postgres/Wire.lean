import RecordSql.Number.Double
import RecordSql.Postgres.DataType
import RecordSql.Postgres.Word
import RecordSql.Text.Numeral
import RecordSql.Text.Utf8
import RecordSql.Value

/-!
# The binary form of values

A parameter is encoded for the type that the server expects.  Integers adapt to the type: they take its
width if they fit, and become decimal text or the nearest double where the type asks for that; for a type
that is none of these they are sent as eight bytes.  Doubles become singles for a type of four bytes.
Truth values, texts and bytes have one form each, whatever the type.

A cell is decoded by the type of its column, and only at its exact width; null is null in every type.
-/

namespace RecordSql.Postgres

/-- Why a value has no binary form: an integer outside the range of its target. -/
inductive EncodeIssue where
  | tooLarge
  | tooSmall
deriving DecidableEq, Repr

/-- The text of an issue. -/
def EncodeIssue.message : EncodeIssue → String
  | tooLarge => "number too large to fit in target type"
  | tooSmall => "number too small to fit in target type"

/-- An integer in `width` bytes, if it lies in the range of `t`. -/
def encodeInteger (t : IntType) (width : Nat) (n : Int) : Except EncodeIssue (List UInt8) :=
  if t.greatest < n then .error .tooLarge
  else if n < t.least then .error .tooSmall
  else .ok (integerBytes width n)

/-- A double in eight bytes. -/
def doubleBytes (x : Number.Double) : List UInt8 :=
  wordBytes 8 x.bits.toNat

/-- A single in four bytes. -/
def singleBytes (x : Number.Single) : List UInt8 :=
  wordBytes 4 x.bits.toNat

/-- An integer as a parameter of a type. -/
def encodeInt (t : DataType) (n : Int) : Except EncodeIssue (List UInt8) :=
  match t with
  | .char => encodeInteger .i8 1 n
  | .int2 => encodeInteger .i16 2 n
  | .int4 => encodeInteger .i32 4 n
  | .oid => encodeInteger .u32 4 n
  | .text | .varchar | .bpchar | .name => .ok (Text.Utf8.encode (Text.showInt n))
  | .float8 => .ok (doubleBytes (.ofInt n))
  | _ => encodeInteger .i64 8 n

/-- A value as a parameter of a type; `none` is the null of the wire. -/
def encode (t : DataType) : Value → Except EncodeIssue (Option (List UInt8))
  | .null => .ok none
  | .bool b => .ok (some [if b then 1 else 0])
  | .int _ n => (encodeInt t n.val).map some
  | .float x => .ok (some (if t = .float4 then singleBytes x.toSingle else doubleBytes x))
  | .text s => .ok (some (Text.Utf8.encode s))
  | .bytes bs => .ok (some bs)

/-- Why a cell cannot be decoded. -/
inductive DecodeIssue where
  /-- The bytes are no value of the column's type. -/
  | malformed
  /-- The column's type has no reading. -/
  | unsupported (typeName : String)
deriving DecidableEq, Repr

/-- The bytes as an integer of type `t`, if there are `width` of them. -/
def decodeInteger (t : IntType) (width : Nat) (n : Int) (bytes : List UInt8) :
    Except DecodeIssue Value :=
  if bytes.length ≠ width then .error .malformed
  else match Ranged.ofInt? t n with
    | some r => .ok (.int t r)
    | none => .error .malformed

/-- The bytes as a value of a type. -/
def decodeBytes (t : DataType) (bytes : List UInt8) : Except DecodeIssue Value :=
  match t with
  | .bool =>
    match bytes with
    | [b] => .ok (.bool (b != 0))
    | _ => .error .malformed
  | .char => decodeInteger .i8 1 (integerOf bytes) bytes
  | .int2 => decodeInteger .i16 2 (integerOf bytes) bytes
  | .int4 => decodeInteger .i32 4 (integerOf bytes) bytes
  | .int8 => decodeInteger .i64 8 (integerOf bytes) bytes
  | .oid => decodeInteger .u32 4 (wordOf bytes) bytes
  | .float4 =>
    if bytes.length ≠ 4 then .error .malformed
    else .ok (.float (Number.Single.mk (UInt32.ofNat (wordOf bytes))).toDouble)
  | .float8 =>
    if bytes.length ≠ 8 then .error .malformed
    else .ok (.float ⟨UInt64.ofNat (wordOf bytes)⟩)
  | .bytea => .ok (.bytes bytes)
  | .text | .varchar | .bpchar | .name | .unknown =>
    match Text.Utf8.decode bytes with
    | .ok s => .ok (.text s)
    | .error _ => .error .malformed
  | .other typeName => .error (.unsupported typeName)

/-- A cell of a column of a type. -/
def decode (t : DataType) (cell : Option (List UInt8)) : Except DecodeIssue Value :=
  match t, cell with
  | .other typeName, _ => .error (.unsupported typeName)
  | _, none => .ok .null
  | t, some bytes => decodeBytes t bytes

end RecordSql.Postgres
