import RecordSql.Embedded.Cell
import RecordSql.Proofs.Declaration.Content
import RecordSql.Proofs.IntegerRange
import RecordSql.Proofs.Text.Utf8

/-!
# Contents of fields as cells

What a field holds goes into a cell of the embedded database as a value of one of five classes, and a
cell knows less than a field: an integer has lost its type, a truth value is an integer, and an integer
of 128 bits is a text.  The type of the field makes up for that.  Every content has a cell, except the
unsigned integers that exceed 64 bits with a sign (`ofValue?_value_eq_none_iff`), and a field that is
given its cell back reads the same content from it (`read_cell_iff`).
-/

namespace RecordSql

open Embedded

/-- An unsigned integer that does not fit 64 bits with a sign. -/
def Value.IsTooGreat (v : Value) : Prop :=
  ∃ n : Ranged .u64, v = toValue n ∧ IntType.i64.greatest < n.val

/-! ### The cells of integers -/

namespace Embedded.Cell

/-- An integer of at most 64 bits is bound as an integer, if that fits 64 bits with a sign. -/
theorem ofValue?_int {t : IntType} (fixed : t ≠ .i128) (n : Ranged t) :
    ofValue? (.int t n) = (Ranged.ofInt? .i64 n.val).map integer := by
  cases t with
  | i128 => exact absurd rfl fixed
  | _ => rfl

/-- So the only integers without a cell are unsigned ones that are too great. -/
theorem ofValue?_int_eq_none_iff {t : IntType} (n : Ranged t) :
    ofValue? (.int t n) = none ↔ (Value.int t n).IsTooGreat := by
  by_cases fixed : t = .i128
  · subst fixed
    exact ⟨fun h => (by cases h), fun ⟨m, hm, _⟩ => (by cases hm)⟩
  · rw [ofValue?_int fixed, Option.map_eq_none_iff, Ranged.ofInt?_eq_none_iff,
      IntType.holds_i64_iff fixed, Classical.not_not]
    constructor
    · rintro ⟨rfl, great⟩
      exact ⟨n, rfl, great⟩
    · rintro ⟨m, hm, great⟩
      cases hm
      exact ⟨rfl, great⟩

/-- An integer field reads its integer from the cell of it. -/
theorem readInt_of_ofValue? {t : IntType} {n : Ranged t} {c : Cell}
    (h : ofValue? (.int t n) = some c) : Scalar.readInt t c.toValue = .ok (.int t n) := by
  by_cases fixed : t = .i128
  · -- the cell holds the numeral
    subst fixed
    obtain rfl := Option.some.inj h
    have hvalue : (ofChars (Text.numeral n.val)).toValue = .text (Text.showInt n.val) :=
      congrArg Value.text (Text.Utf8.decodeLenient_encode _)
    exact Scalar.readInt_of_denoted? (hvalue ▸ Text.integer?_showInt n.holds)
  · rw [ofValue?_int fixed, Option.map_eq_some_iff] at h
    obtain ⟨m, hm, rfl⟩ := h
    exact Scalar.readInt_of_denoted? (congrArg some (Ranged.ofInt?_eq_some_iff.mp hm))

/-- A truth value has a cell, and its field reads it from there. -/
theorem exists_ofValue?_bool (b : Bool) :
    ∃ c, ofValue? (.bool b) = some c ∧ Scalar.readBool c.toValue = .ok (.bool b) := by
  cases b with
  | true => exact ⟨_, rfl, rfl⟩
  | false => exact ⟨_, rfl, rfl⟩

theorem toValue_text (s : String) : (text (Text.Utf8.encode s)).toValue = .text s :=
  congrArg Value.text (Text.Utf8.decodeLenient_encode s)

/-- Only null comes back as null. -/
theorem isNull_toValue {v : Value} {c : Cell} (h : ofValue? v = some c) :
    c.toValue.isNull = v.isNull := by
  cases v with
  | bool b =>
    cases b <;>
    · obtain rfl := Option.some.inj h
      rfl
  | int t n =>
    -- an integer of 128 bits is bound as a text, every other one as an integer
    by_cases fixed : t = .i128
    · subst fixed
      obtain rfl := Option.some.inj h
      rfl
    · rw [ofValue?_int fixed, Option.map_eq_some_iff] at h
      obtain ⟨m, -, rfl⟩ := h
      rfl
  | _ =>
    obtain rfl := Option.some.inj h
    rfl

end Embedded.Cell

open Embedded.Cell

/-! ### The cells of contents -/

namespace Scalar

variable {s : Scalar} (plain : s ≠ any) (x : s.Content)
include plain

/-- No content of a scalar type but such an integer is without a cell. -/
theorem ofValue?_value_eq_none_iff : ofValue? (s.value x) = none ↔ (s.value x).IsTooGreat := by
  cases s with
  | any => exact absurd rfl plain
  | int t => exact ofValue?_int_eq_none_iff x
  | bool =>
    obtain ⟨c, hc, -⟩ := exists_ofValue?_bool x
    exact ⟨fun h => (by cases hc.symm.trans h), fun ⟨n, hn, _⟩ => (by cases hn)⟩
  | _ => exact ⟨fun h => (by cases h), fun ⟨n, hn, _⟩ => (by cases hn)⟩

/-- A field that is not optional reads its content from the cell of it. -/
theorem read_of_ofValue? {c : Cell} (h : ofValue? (s.value x) = some c) :
    s.read c.toValue = .ok (s.value x) := by
  cases s with
  | any => exact absurd rfl plain
  -- the cell has forgotten the type of the integer, and the field knows it
  | int t => exact readInt_of_ofValue? h
  | bool =>
    obtain ⟨c', hc', hread⟩ := exists_ofValue?_bool x
    obtain rfl := Option.some.inj (hc'.symm.trans h)
    exact hread
  | text =>
    obtain rfl := Option.some.inj h
    exact congrArg readText (toValue_text x)
  | _ =>
    obtain rfl := Option.some.inj h
    rfl

end Scalar

namespace FieldType

/-- No content of a field but an integer that is too great is without a cell; a field that holds
nothing has null for its cell. -/
theorem ofValue?_value_eq_none_iff {t : FieldType} (plain : t.scalar ≠ .any) (x : t.Content) :
    ofValue? (t.value x) = none ↔ (t.value x).IsTooGreat := by
  obtain ⟨s, optional⟩ := t
  cases optional with
  | false => exact Scalar.ofValue?_value_eq_none_iff plain x
  | true =>
    cases x with
    | none => exact ⟨fun h => (by cases h), fun ⟨n, hn, _⟩ => (by cases hn)⟩
    | some x => exact Scalar.ofValue?_value_eq_none_iff plain x

/-- A field reads a content back from the cell that its value is bound as. -/
theorem read_of_ofValue? {t : FieldType} (plain : t.scalar ≠ .any) {x : t.Content} {c : Cell}
    (h : ofValue? (t.value x) = some c) : t.read c.toValue = .ok (t.value x) := by
  have hnull := isNull_toValue h
  obtain ⟨s, optional⟩ := t
  cases optional with
  | false => exact Scalar.read_of_ofValue? plain x h
  | true =>
    cases x with
    | none =>
      obtain rfl := Option.some.inj h
      rfl
    | some x =>
      rw [show (value ⟨s, true⟩ (some x)).isNull = false from Scalar.isNull_value plain x] at hnull
      rw [read, hnull, Bool.and_false, if_neg Bool.false_ne_true]
      exact Scalar.read_of_ofValue? plain x h

/-- **A field gets its content back from the cell of it**, and has a cell for every content but an
unsigned integer that is too great. -/
theorem read_cell_iff (t : FieldType) (plain : t.scalar ≠ .any) (x : t.Content) :
    (ofValue? (t.value x) = none ↔ (t.value x).IsTooGreat) ∧
    ∀ c, ofValue? (t.value x) = some c → ∀ y, t.read c.toValue = .ok (t.value y) ↔ y = x := by
  refine ⟨ofValue?_value_eq_none_iff plain x, fun c hc y => ?_⟩
  have hinj : t.value x = t.value y ↔ x = y := (value_injective fun _ => plain).eq_iff
  rw [read_of_ofValue? plain hc, Except.ok.injEq, hinj, eq_comm]

/-- The least integer of 128 bits is read back from a text of 40 characters. -/
theorem read_cell_least :
    let t : FieldType := ⟨.int .i128, true⟩
    let least : Ranged .i128 := ⟨IntType.i128.least, by decide⟩
    let x : t.Content := some least
    let c := Cell.ofChars "-170141183460469231731687303715884105728".toList
    t.scalar ≠ .any ∧ (ofValue? (t.value x) = none ↔ (t.value x).IsTooGreat) ∧
      ofValue? (t.value x) = some c ∧ ∀ y, t.read c.toValue = .ok (t.value y) ↔ y = x := by
  intro t least x c
  have plain : t.scalar ≠ .any := by decide
  have hcell : ofValue? (t.value x) = some c := by decide +kernel
  obtain ⟨hnone, hread⟩ := read_cell_iff t plain x
  exact ⟨plain, hnone, hcell, hread c hcell⟩

end FieldType

end RecordSql
