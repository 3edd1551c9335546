import RecordSql.Number.Double

/-!
# Column values

A `Value` is one cell of a row: null, a truth value, an integer of one of nine types, a double, a text
or a sequence of bytes.  An integer carries the proof that it lies in the range of its type, so a value
that exists can always be stored in a field of that type.

The eight types of at most 64 bits are the fixed-width integers of a database; `i128` is wider than any
of them and travels as decimal text.
-/

namespace RecordSql

/-- The integer types. -/
inductive IntType where
  | i8
  | i16
  | i32
  | i64
  | u8
  | u16
  | u32
  | u64
  | i128
deriving DecidableEq, Repr

namespace IntType

/-- The name of the type. -/
def name : IntType → String
  | i8 => "i8"
  | i16 => "i16"
  | i32 => "i32"
  | i64 => "i64"
  | u8 => "u8"
  | u16 => "u16"
  | u32 => "u32"
  | u64 => "u64"
  | i128 => "i128"

/-- The least integer of the type. -/
def least : IntType → Int
  | i8 => -0x80
  | i16 => -0x8000
  | i32 => -0x80000000
  | i64 => -0x8000000000000000
  | i128 => -0x80000000000000000000000000000000
  | _ => 0

/-- The greatest integer of the type. -/
def greatest : IntType → Int
  | i8 => 0x7F
  | i16 => 0x7FFF
  | i32 => 0x7FFFFFFF
  | i64 => 0x7FFFFFFFFFFFFFFF
  | u8 => 0xFF
  | u16 => 0xFFFF
  | u32 => 0xFFFFFFFF
  | u64 => 0xFFFFFFFFFFFFFFFF
  | i128 => 0x7FFFFFFFFFFFFFFFFFFFFFFFFFFFFFFF

/-- Whether `n` lies in the range of the type. -/
def Holds (t : IntType) (n : Int) : Prop :=
  t.least ≤ n ∧ n ≤ t.greatest

instance (t : IntType) (n : Int) : Decidable (t.Holds n) :=
  inferInstanceAs (Decidable (_ ∧ _))

end IntType

/-- An integer in the range of `t`. -/
structure Ranged (t : IntType) where
  val : Int
  holds : t.Holds val
deriving DecidableEq, Repr

/-- `n` as an integer of type `t`, if it fits. -/
def Ranged.ofInt? (t : IntType) (n : Int) : Option (Ranged t) :=
  if h : t.Holds n then some ⟨n, h⟩ else none

theorem Ranged.ofInt?_val {t : IntType} (n : Ranged t) : ofInt? t n.val = some n := by
  simp [ofInt?, n.holds]

theorem Ranged.ofInt?_eq_some_iff {t : IntType} {n : Int} {r : Ranged t} :
    ofInt? t n = some r ↔ r.val = n := by
  constructor
  · intro h
    unfold ofInt? at h
    split at h
    · cases h
      rfl
    · cases h
  · rintro rfl
    exact ofInt?_val r

/-- The kind of a value, without its content. -/
inductive Kind where
  | null
  | bool
  | int (t : IntType)
  | float
  | text
  | bytes
deriving DecidableEq, Repr

/-- A cell of a row. -/
inductive Value where
  | null
  | bool (b : Bool)
  | int (t : IntType) (n : Ranged t)
  | float (x : Number.Double)
  | text (s : String)
  | bytes (bs : List UInt8)
deriving DecidableEq, Repr

namespace Kind

/-- The name of the kind in messages.  The widest integers go by the name of their column. -/
def name : Kind → String
  | null => "null"
  | bool => "bool"
  | int .i128 => "bigint"
  | int t => t.name
  | float => "f64"
  | text => "text"
  | bytes => "bytes"

/-- Whether the kind is a fixed-width integer. -/
def isInteger : Kind → Bool
  | int t => t != .i128
  | _ => false

/-- The integer `n` as a value of the kind.  Null has no width of its own and takes `n` as it is. -/
def narrow (n : Ranged .i64) : Kind → Option Value
  | null => some (.int .i64 n)
  | int t => (Ranged.ofInt? t n.val).map (.int t)
  | _ => none

end Kind

namespace Value

/-- The kind of a value. -/
def kind : Value → Kind
  | null => .null
  | bool _ => .bool
  | int t _ => .int t
  | float _ => .float
  | text _ => .text
  | bytes _ => .bytes

/-- Whether the value is null. -/
def isNull : Value → Bool
  | null => true
  | _ => false

/-- Whether the value is a sequence of bytes.  Such values take no part in comparisons. -/
def isBytes : Value → Bool
  | bytes _ => true
  | _ => false

/-- The integer that a value of an integer kind holds. -/
def integer? : Value → Option Int
  | int _ n => some n.val
  | _ => none

/-- The integer of an integer kind, if it fits 64 bits with a sign. -/
def word? (v : Value) : Option (Ranged .i64) :=
  v.integer?.bind (Ranged.ofInt? .i64)

/-- Whether two values are equal: of one kind, and doubles by the numbers they stand for. -/
def same : Value → Value → Bool
  | float x, float y => x.same y
  | v, w => v == w

/-- The column type that a value calls for when its column declares none. -/
def inferredType (v : Value) : String :=
  if v.kind.isInteger then "int" else "varchar(255)"

end Value

/-- What a field can hold in a column. -/
class ToValue (α : Type) where
  /-- The cell that holds `x`. -/
  toValue : α → Value

export ToValue (toValue)

instance : ToValue Value := ⟨id⟩

instance : ToValue Bool := ⟨.bool⟩

instance {t : IntType} : ToValue (Ranged t) := ⟨.int t⟩

instance : ToValue Number.Double := ⟨.float⟩

instance : ToValue Number.Single := ⟨fun x => .float x.toDouble⟩

instance : ToValue String := ⟨.text⟩

instance : ToValue (List UInt8) := ⟨.bytes⟩

/-- An absent value is null, however deeply it is nested. -/
instance {α : Type} [ToValue α] : ToValue (Option α) := ⟨fun x => (x.map toValue).getD .null⟩

end RecordSql
