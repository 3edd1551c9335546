import Mathlib.Tactic.ByContra
import RecordSql.Postgres.Wire
import RecordSql.Proofs.IntegerRange
import RecordSql.Proofs.Postgres.Word
import RecordSql.Proofs.Text.Numeral
import RecordSql.Proofs.Text.Utf8

/-!
# Integers as parameters

The types that hold integers, and those that hold texts, have room for the integers of one of the integer
types: `DataType.range?`.  An integer in that range becomes a cell from which a field of the widest type
reads the same integer, whatever types it came from; one that lies above or below is refused as such
(`encode_integer_exact`).

The fixed widths need one argument for all of them, because a column of integers reads with some
`FixedWidth` (`exists_fixedWidth`); texts go through the numeral of the integer.
-/

namespace RecordSql

/-! ### The widest integer type -/

/-- The same integer as one of the widest type. -/
def Ranged.widest {t : IntType} (n : Ranged t) : Ranged .i128 :=
  ⟨n.val, n.holds.widest⟩

/-- A field of the widest type reads whatever denotes an integer of any type. -/
theorem FieldType.read_widest {v : Value} {t : IntType} (n : Ranged t) (h : v.denoted? = some n.val) :
    FieldType.read ⟨.int .i128, false⟩ v = .ok (.int .i128 n.widest) :=
  Scalar.readInt_of_denoted? h

namespace Postgres

/-! ### Fixed widths -/

section FixedWidth

variable {t : IntType} {width : Nat} {read : List UInt8 → Int}

/-- An integer in range is sent in two's complement. -/
theorem encodeInteger_of_holds {n : Int} (width : Nat) (holds : t.Holds n) :
    encodeInteger t width n = .ok (integerBytes width n) := by
  rw [encodeInteger, if_neg (Int.not_lt.mpr holds.2), if_neg (Int.not_lt.mpr holds.1)]

/-- One above the range is too large. -/
theorem encodeInteger_of_greatest_lt {n : Int} (width : Nat) (h : t.greatest < n) :
    encodeInteger t width n = .error .tooLarge := by
  rw [encodeInteger, if_pos h]

/-- One below the range is too small. -/
theorem encodeInteger_of_lt_least {n : Int} (width : Nat) (h : n < t.least) :
    encodeInteger t width n = .error .tooSmall := by
  have hle := t.least_le_greatest
  rw [encodeInteger, if_neg (by omega), if_pos h]

/-- Bytes of the width are read as the integer that they are. -/
theorem decodeInteger_eq {n : Int} {bytes : List UInt8} (hlength : bytes.length = width)
    (holds : t.Holds n) : decodeInteger t width n bytes = .ok (.int t ⟨n, holds⟩) := by
  have hsome : Ranged.ofInt? t n = some ⟨n, holds⟩ := Ranged.ofInt?_eq_some_iff.mpr rfl
  rw [decodeInteger, if_neg (by simpa using hlength), hsome]

/-- What is encoded at a fixed width is decoded again. -/
theorem FixedWidth.decodeInteger_integerBytes (h : FixedWidth t width read) {n : Int}
    (holds : t.Holds n) :
    decodeInteger t width (read (integerBytes width n)) (integerBytes width n) =
      .ok (.int t ⟨n, holds⟩) := by
  rw [h.read_integerBytes holds]
  exact decodeInteger_eq (length_integerBytes width n) holds

/-- What is decoded at a fixed width is encoded again. -/
theorem FixedWidth.encodeInteger_of_decodeInteger (h : FixedWidth t width read) {bytes : List UInt8}
    {v : Value} (hv : decodeInteger t width (read bytes) bytes = .ok v) :
    ∃ n : Ranged t, v = .int t n ∧ encodeInteger t width n.val = .ok bytes := by
  by_cases hlength : bytes.length = width
  · have holds := h.holds_read hlength
    rw [decodeInteger_eq hlength holds] at hv
    cases hv
    refine ⟨_, rfl, ?_⟩
    rw [encodeInteger_of_holds width holds, h.integerBytes_read hlength]
  · rw [decodeInteger, if_pos hlength] at hv
    cases hv

end FixedWidth

/-! ### The types of cells -/

namespace DataType

/-- The integer type of a column of integers. -/
def word? : DataType → Option IntType
  | char => some .i8
  | int2 => some .i16
  | int4 => some .i32
  | int8 => some .i64
  | oid => some .u32
  | _ => none

/-- Whether a column holds texts. -/
def isText : DataType → Bool
  | text | varchar | bpchar | name | unknown => true
  | _ => false

/-- The integers that a parameter may be and still be read as an integer.  A text has room for the numeral
of every integer there is; only an unknown type is not asked for one. -/
def range? : DataType → Option IntType
  | text | varchar | bpchar | name => some .i128
  | t => t.word?

end DataType

theorem decode_some (t : DataType) (bytes : List UInt8) :
    decode t (some bytes) = decodeBytes t bytes := by
  cases t <;> rfl

/-- A column of integers reads and writes its cells at one fixed width. -/
theorem exists_fixedWidth {t : DataType} {range : IntType} (h : t.word? = some range) :
    ∃ width read, FixedWidth range width read ∧
      (∀ n, encodeInt t n = encodeInteger range width n) ∧
      ∀ bytes, decodeBytes t bytes = decodeInteger range width (read bytes) bytes := by
  cases t with
  | char =>
    cases h
    exact ⟨1, integerOf, .signed (by decide) (by decide), fun _ => rfl, fun _ => rfl⟩
  | int2 =>
    cases h
    exact ⟨2, integerOf, .signed (by decide) (by decide), fun _ => rfl, fun _ => rfl⟩
  | int4 =>
    cases h
    exact ⟨4, integerOf, .signed (by decide) (by decide), fun _ => rfl, fun _ => rfl⟩
  | int8 =>
    cases h
    exact ⟨8, integerOf, .signed (by decide) (by decide), fun _ => rfl, fun _ => rfl⟩
  -- the only one without negative integers
  | oid =>
    cases h
    exact ⟨4, _, .unsigned (by decide) (by decide), fun _ => rfl, fun _ => rfl⟩
  | _ => cases h

/-- The bytes of a text are a cell of every type of texts. -/
theorem decodeBytes_encode {t : DataType} (h : t.isText = true) (s : String) :
    decodeBytes t (Text.Utf8.encode s) = .ok (.text s) := by
  have hdecode := Text.Utf8.decode_encode s
  cases t with
  | text | varchar | bpchar | name | unknown =>
    unfold decodeBytes
    dsimp only
    rw [hdecode]
  | _ => cases h

/-- Bytes that are no text are no cell of a type of texts. -/
theorem decodeBytes_of_decode_error {t : DataType} (h : t.isText = true) {bytes : List UInt8}
    {issue : Text.Utf8.Issue} (hdecode : Text.Utf8.decode bytes = .error issue) :
    decodeBytes t bytes = .error .malformed := by
  cases t with
  | text | varchar | bpchar | name | unknown =>
    unfold decodeBytes
    dsimp only
    rw [hdecode]
  | _ => cases h

/-- The types that take any integer take it as a text. -/
theorem encodeInt_of_range_widest {t : DataType} (h : t.range? = some .i128) (n : Int) :
    t.isText = true ∧ encodeInt t n = .ok (Text.Utf8.encode (Text.showInt n)) := by
  cases t with
  | text | varchar | bpchar | name => exact ⟨rfl, rfl⟩
  | _ => cases h

/-- Every other type that takes integers has words of its own. -/
theorem word?_of_range? {t : DataType} {range : IntType} (h : t.range? = some range)
    (narrow : range ≠ .i128) : t.word? = some range := by
  cases t with
  | text | varchar | bpchar | name =>
    cases h
    exact absurd rfl narrow
  | _ => exact h

theorem range_eq_widest {t : DataType} {range : IntType} (h : t.range? = some range)
    (text : t.isText = true) : range = .i128 := by
  cases t with
  | text | varchar | bpchar | name =>
    cases h
    rfl
  | unknown => cases h
  | _ => cases text

/-- An integer in the range of a type becomes a cell that denotes it. -/
theorem exists_encodeInt_eq_ok {t : DataType} {range : IntType} (h : t.range? = some range) {n : Int}
    (holds : range.Holds n) :
    ∃ bytes v, encodeInt t n = .ok bytes ∧ decodeBytes t bytes = .ok v ∧ v.denoted? = some n := by
  by_cases htext : range = .i128
  · -- a text: its numeral
    subst htext
    obtain ⟨text, hencode⟩ := encodeInt_of_range_widest h n
    exact ⟨_, _, hencode, decodeBytes_encode text _, Text.integer?_showInt holds⟩
  · -- a fixed width: its word
    obtain ⟨width, read, fixed, hencode, hdecode⟩ := exists_fixedWidth (word?_of_range? h htext)
    have hread : decodeBytes t (integerBytes width n) = .ok (.int range ⟨n, holds⟩) := by
      rw [hdecode]
      exact fixed.decodeInteger_integerBytes holds
    rw [hencode]
    exact ⟨_, _, encodeInteger_of_holds width holds, hread, rfl⟩

/-- An integer outside the range of a type is refused by the side on which it lies. -/
theorem encodeInt_eq_error {t : DataType} {range : IntType} (h : t.range? = some range) {n : Int}
    (widest : IntType.i128.Holds n) :
    (range.greatest < n → encodeInt t n = .error .tooLarge) ∧
      (n < range.least → encodeInt t n = .error .tooSmall) := by
  by_cases htext : range = .i128
  · -- no integer is too great for its numeral
    subst htext
    unfold IntType.Holds at widest
    constructor <;> intro hout <;> omega
  · obtain ⟨width, read, -, hencode, -⟩ := exists_fixedWidth (word?_of_range? h htext)
    rw [hencode]
    exact ⟨encodeInteger_of_greatest_lt width, encodeInteger_of_lt_least width⟩

/-! ### Integers on the wire and back -/

theorem encode_int (t : DataType) {it : IntType} (n : Ranged it) :
    encode t (.int it n) = (encodeInt t n.val).map some := rfl

/-- What is encoded for a type lies in its range. -/
theorem holds_of_encode_int {t : DataType} {range it : IntType} (takes : t.range? = some range)
    {n : Ranged it} {cell : Option (List UInt8)} (h : encode t (.int it n) = .ok cell) :
    range.Holds n.val := by
  obtain ⟨above, below⟩ := encodeInt_eq_error takes n.holds.widest
  -- on either side there would be an error
  constructor
  · by_contra hlt
    rw [encode_int, below (Int.not_le.mp hlt)] at h
    cases h
  · by_contra hlt
    rw [encode_int, above (Int.not_le.mp hlt)] at h
    cases h

/-- **Integers come through exactly or are refused.**  An integer of any type is encoded exactly if it lies
in the range of the type it is sent as, which every integer does if that is a type of texts; then a field
of the widest type reads it from the cell.  Otherwise it is refused as too large or as too small. -/
theorem encode_integer_exact {t : DataType} {range it : IntType} (takes : t.range? = some range)
    (n : Ranged it) :
    ((∃ cell, encode t (.int it n) = .ok cell) ↔ range.Holds n.val) ∧
    (t.isText = true → range.Holds n.val) ∧
    (∀ cell, encode t (.int it n) = .ok cell →
      ∃ v, decode t cell = .ok v ∧
        FieldType.read ⟨.int .i128, false⟩ v = .ok (.int .i128 n.widest)) ∧
    (range.greatest < n.val → encode t (.int it n) = .error .tooLarge) ∧
    (n.val < range.least → encode t (.int it n) = .error .tooSmall) := by
  obtain ⟨above, below⟩ := encodeInt_eq_error takes n.holds.widest
  refine ⟨⟨fun ⟨_, h⟩ => holds_of_encode_int takes h, fun holds => ?_⟩, fun text => ?_,
    fun cell h => ?_, fun h => ?_, fun h => ?_⟩
  · obtain ⟨bytes, v, hencode, -⟩ := exists_encodeInt_eq_ok takes holds
    rw [encode_int, hencode]
    exact ⟨some bytes, rfl⟩
  · -- a text takes any integer, so its range is the widest one
    rw [range_eq_widest takes text]
    exact n.widest.holds
  · have holds := holds_of_encode_int takes h
    obtain ⟨bytes, v, hencode, hdecode, denoted⟩ := exists_encodeInt_eq_ok takes holds
    rw [encode_int, hencode] at h
    cases h
    exact ⟨v, by rw [decode_some, hdecode], FieldType.read_widest n denoted⟩
  · rw [encode_int, above h]
    rfl
  · rw [encode_int, below h]
    rfl

/-- A text takes an integer that no fixed width has room for. -/
theorem encode_integer_exact_great :
    let n : Ranged .i128 := ⟨-100000000000000000000, by decide⟩
    DataType.range? .bpchar = some .i128 ∧ DataType.range? .int8 = some .i64 ∧
      (∃ cell v, encode .bpchar (.int .i128 n) = .ok cell ∧ decode .bpchar cell = .ok v ∧
        FieldType.read ⟨.int .i128, false⟩ v = .ok (.int .i128 n)) ∧
      encode .int8 (.int .i128 n) = .error .tooSmall := by
  intro n
  have text : DataType.range? .bpchar = some .i128 := rfl
  have fixed : DataType.range? .int8 = some .i64 := rfl
  obtain ⟨encoded, holds, come, -⟩ := encode_integer_exact text n
  obtain ⟨cell, hcell⟩ := encoded.mpr (holds rfl)
  obtain ⟨v, hdecode, hread⟩ := come cell hcell
  obtain ⟨-, -, -, -, below⟩ := encode_integer_exact fixed n
  exact ⟨text, fixed, ⟨cell, v, hcell, hdecode, hread⟩, below (by decide)⟩

end Postgres

end RecordSql
