import RecordSql.Value
import RecordSql.Number.Layout
import RecordSql.Text.Quoted

/-!
# Values as text

Messages and log entries show a value as the name of its kind with the content in parentheses, and a
list in brackets.
-/

namespace RecordSql

/-- Texts in brackets. -/
def bracketed (items : List String) : String :=
  "[" ++ ", ".intercalate items ++ "]"

/-- The name of an integer kind in the text of a value. -/
def IntType.label : IntType → String
  | .i8 => "I8"
  | .i16 => "I16"
  | .i32 => "I32"
  | .i64 => "I64"
  | .u8 => "U8"
  | .u16 => "U16"
  | .u32 => "U32"
  | .u64 => "U64"
  | .i128 => "BigInt"

/-- The text of a value. -/
def Value.display : Value → String
  | .null => "Null"
  | .bool b => "Bool(" ++ (if b then "true" else "false") ++ ")"
  | .int t n => t.label ++ "(" ++ Text.showInt n.val ++ ")"
  | .float x => "F64(" ++ x.display ++ ")"
  | .text s => "Text(" ++ Text.quote s ++ ")"
  | .bytes bs => "Bytes(" ++ bracketed (bs.map fun b => Text.showNat b.toNat) ++ ")"

/-- The text of a list of values. -/
def showValues (vs : List Value) : String :=
  bracketed (vs.map Value.display)

end RecordSql
