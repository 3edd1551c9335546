import RecordSql.Proofs.Embedded.Bound
import RecordSql.Proofs.Embedded.Storage
import RecordSql.Proofs.Lookup.Query
import RecordSql.Proofs.Text.Numeral
import RecordSql.Proofs.Text.Utf8
import RecordSql.Value.Field

/-!
# Values that are stored and read back

A value goes into a column without options as the cell that it is bound as, is stored there, and comes
back as the value of what is stored.  A field of its own type reads it again, unless it is a truth value
or a double: the columns of these are declared as texts, so they come back as texts, which their fields
do not read (`read_stored`).
-/

namespace RecordSql

open Embedded

/-- The kind of the values of a scalar type. -/
def Scalar.kind? : Scalar → Option Kind
  | bool => some .bool
  | int t => some (.int t)
  | float => some .float
  | text => some .text
  | bytes => some .bytes
  | any => none

/-- Whether a field of the given type can hold a value: one of its own kind, or null if it is optional. -/
def FieldType.Fits (t : FieldType) (v : Value) : Prop :=
  t.optional = true ∧ v = .null ∨ t.scalar.kind? = some v.kind

instance (t : FieldType) (v : Value) : Decidable (t.Fits v) :=
  inferInstanceAs (Decidable (_ ∨ _))

/-- Whether a value comes back as a text that its own type does not read. -/
def Value.isLost : Value → Bool
  | .bool _ | .float _ => true
  | _ => false

/-- The cell that a column without options holds of a value. -/
def Storage.stored (s : Storage) (v : Value) : Cell :=
  s.keep v.declared v.cell

/-- The eight integer types of at most 64 bits are declared as integers. -/
theorem Value.declared_int {t : IntType} (ht : t ≠ .i128) (n : Ranged t) :
    (Value.int t n).declared = .integers := by
  rw [Value.declared, if_pos]
  simpa [Value.kind, Kind.isInteger] using ht

/-- A fixed-width integer is bound as an integer, or as null if it is refused. -/
theorem Value.cell_int {t : IntType} (ht : t ≠ .i128) (n : Ranged t) :
    (∃ m : Ranged .i64, (Value.int t n).cell = .integer m) ∨ (Value.int t n).cell = .null := by
  rw [cell, Cell.ofValue?_int ht]
  cases Ranged.ofInt? .i64 n.val with
  | none => exact Or.inr rfl
  | some m => exact Or.inl ⟨m, rfl⟩

section Stored

variable {s : Storage} (lawful : s.IsLawful)
include lawful

/-- A value that is not lost is stored as it is bound. -/
theorem Storage.stored_of_not_isLost {v : Value} (kept : v.isLost = false) : s.stored v = v.cell := by
  cases v with
  | null => exact lawful.texts_null
  | bool b => cases kept
  | float x => cases kept
  | int t n =>
    by_cases ht : t = .i128
    · -- integers of 128 bits are texts
      subst ht
      exact lawful.text _
    · rw [stored, Value.declared_int ht]
      rcases Value.cell_int ht n with ⟨m, hm⟩ | hnull
      · rw [hm, lawful.integer]
      · rw [hnull, lawful.integers_null]
  | text str => exact lawful.text _
  | bytes bs => exact lawful.blob bs

/-- A value that is lost comes back as a text. -/
theorem Storage.toValue_stored_of_isLost {v : Value} (lost : v.isLost = true)
    (number : v.isNaN = false) : ∃ str, (s.stored v).toValue = .text str := by
  obtain ⟨cs, hkept⟩ : ∃ cs, s.stored v = .ofChars cs := by
    cases v with
    | bool b => cases b <;> exact ⟨_, lawful.numeral _⟩
    | float x => exact lawful.decimal number
    | _ => cases lost
  rw [hkept]
  exact ⟨_, rfl⟩

/-- **A field reads back what is stored of its value, unless that is a truth value or a double.** -/
theorem FieldType.read_stored {t : FieldType} {v : Value} (fits : t.Fits v)
    (number : v.isNaN = false) (accepted : Cell.ofValue? v ≠ none) :
    t.read (s.stored v).toValue =
      if v.isLost then .error (.mismatch t.scalar .text) else .ok v := by
  obtain ⟨c, hc⟩ := Option.ne_none_iff_exists'.mp accepted
  have hcell : v.cell = c := congrArg (·.getD .null) hc
  obtain ⟨scalar, optional⟩ := t
  have hread {u : Value} (hnull : u.isNull = false) :
      FieldType.read ⟨scalar, optional⟩ u = scalar.read u := by
    rw [FieldType.read, hnull, Bool.and_false, if_neg Bool.false_ne_true]
  cases hlost : v.isLost with
  | true =>
    obtain ⟨str, hstr⟩ := s.toValue_stored_of_isLost lawful hlost number
    rw [hstr, hread rfl, if_pos rfl]
    rcases fits with ⟨-, rfl⟩ | kind
    · cases hlost
    · -- the field is one of truth values or of doubles, which do not read texts
      cases v <;> cases hlost <;> cases scalar <;> cases kind <;> rfl
  | false =>
    rw [s.stored_of_not_isLost lawful hlost, hcell, if_neg Bool.false_ne_true]
    rcases fits with ⟨optional, rfl⟩ | kind
    · obtain rfl := Option.some.inj hc
      rw [FieldType.read, optional]
      rfl
    have hnull : c.toValue.isNull = false := by
      rw [Cell.isNull_toValue hc]
      cases v <;> first | rfl | (cases scalar <;> cases kind)
    rw [hread hnull]
    cases v with
    | null => cases scalar <;> cases kind
    | bool b => cases hlost
    | float x => cases hlost
    | int u n =>
      cases scalar <;> cases kind
      exact Cell.readInt_of_ofValue? hc
    | text str =>
      obtain rfl := Option.some.inj hc
      rw [Cell.toValue_text]
      cases scalar <;> cases kind
      rfl
    | bytes bs =>
      obtain rfl := Option.some.inj hc
      cases scalar <;> cases kind
      rfl

end Stored

end RecordSql
