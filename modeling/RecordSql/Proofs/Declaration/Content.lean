import RecordSql.Proofs.Text.Numeral
import RecordSql.Value.Field

/-!
# The contents of fields

A field of a given type holds a `Content` of that type, and goes into a column as the value of it.
Reading that value gives it back (`FieldType.read_value`), and no two contents have the same value
(`FieldType.value_injective`), as long as the field tells the absence of a content from every
content. An optional field for values of any kind does not: null is the value of nothing and of a
null.
-/

namespace RecordSql

namespace Scalar

/-- What a field of a scalar type holds. -/
def Content : Scalar → Type
  | bool => Bool
  | int t => Ranged t
  | float => Number.Double
  | text => String
  | bytes => List UInt8
  | any => Value

/-- The value of a content. -/
def value : (s : Scalar) → s.Content → Value
  | bool => (toValue : Bool → Value)
  | int t => (toValue : Ranged t → Value)
  | float => (toValue : Number.Double → Value)
  | text => (toValue : String → Value)
  | bytes => (toValue : List UInt8 → Value)
  | any => (toValue : Value → Value)

instance (s : Scalar) : ToValue s.Content := ⟨s.value⟩

variable (s : Scalar)

/-- Contents of a scalar type are read back from the values that stand for them. -/
theorem read_value (x : s.Content) : s.read (s.value x) = .ok (s.value x) := by
  cases s with
  | int t =>
    show readInt t (.int t x) = .ok (.int t x)
    exact readInt_of_denoted? rfl
  | _ => rfl

/-- Different contents of a scalar type have different values. -/
theorem value_injective : Function.Injective s.value := by
  intro x y h
  cases s with
  | bool => exact Value.bool.inj h
  | int t => exact eq_of_heq (Value.int.inj h).2
  | float => exact Value.float.inj h
  | text => exact Value.text.inj h
  | bytes => exact Value.bytes.inj h
  | any => exact h

section Plain

variable {s} (h : s ≠ any) (x : s.Content)
include h

/-- No content of a scalar type is written as null, except in a field of any kind. -/
theorem isNull_value : (s.value x).isNull = false := by
  cases s with
  | any => exact absurd rfl h
  | _ => rfl

theorem value_ne_null : s.value x ≠ .null := by
  intro hnull
  have hvalue := isNull_value h x
  rw [hnull] at hvalue
  cases hvalue

end Plain

end Scalar

namespace FieldType

/-- What a field holds. -/
def Content : FieldType → Type
  | ⟨s, true⟩ => Option s.Content
  | ⟨s, false⟩ => s.Content

/-- The value of a content. -/
def value : (t : FieldType) → t.Content → Value
  | ⟨s, true⟩ => (toValue : Option s.Content → Value)
  | ⟨s, false⟩ => (toValue : s.Content → Value)

/-- No content of a field has the value of an absent one. -/
def TellsAbsence (t : FieldType) : Prop :=
  t.optional = true → t.scalar ≠ .any

instance (t : FieldType) : Decidable t.TellsAbsence :=
  inferInstanceAs (Decidable (_ → _))

variable {t : FieldType}

/-- **A field reads the value of its content back.** -/
theorem read_value (h : t.TellsAbsence) (x : t.Content) : t.read (t.value x) = .ok (t.value x) := by
  obtain ⟨s, optional⟩ := t
  cases optional with
  | false => exact s.read_value x
  | true =>
    cases x with
    | none => rfl
    | some c =>
      have hnull : (s.value c).isNull = false := Scalar.isNull_value (h rfl) c
      show (if true && (s.value c).isNull then .ok .null else s.read (s.value c)) = _
      rw [hnull]
      exact s.read_value c

/-- Different contents of a field have different values, if null tells that there is none. -/
theorem value_injective (h : t.TellsAbsence) : Function.Injective t.value := by
  intro x y hvalue
  obtain ⟨s, optional⟩ := t
  cases optional with
  | false => exact s.value_injective hvalue
  -- null stands for no content, and no content of a scalar type is written as null
  | true =>
    cases x with
    | none =>
      cases y with
      | none => rfl
      | some d => exact absurd hvalue.symm (Scalar.value_ne_null (h rfl) d)
    | some c =>
      cases y with
      | none => exact absurd hvalue (Scalar.value_ne_null (h rfl) c)
      | some d => exact congrArg some (s.value_injective hvalue)

end FieldType

end RecordSql
