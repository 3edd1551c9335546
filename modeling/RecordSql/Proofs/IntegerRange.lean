import RecordSql.Value

/-!
# The ranges of the integer types

Every integer type holds zero and one, and the widest one holds what any of them holds.  An integer is
narrowed to a type exactly if the type holds it (`Kind.narrow_of_holds`, `Kind.narrow_of_not_holds`).
-/

namespace RecordSql

namespace IntType

theorem least_le_greatest (t : IntType) : t.least ≤ t.greatest := by
  cases t <;> decide

theorem holds_zero (t : IntType) : t.Holds 0 := by
  cases t <;> decide

theorem holds_one (t : IntType) : t.Holds 1 := by
  cases t <;> decide

/-- What any type holds, the widest one holds. -/
theorem Holds.widest {t : IntType} {n : Int} (h : t.Holds n) : IntType.i128.Holds n := by
  have least : IntType.i128.least ≤ t.least := by cases t <;> decide
  have greatest : t.greatest ≤ IntType.i128.greatest := by cases t <;> decide
  exact ⟨Int.le_trans least h.1, Int.le_trans h.2 greatest⟩

/-- A fixed-width integer needs 64 bits with a sign; only the unsigned ones of 64 bits need more. -/
theorem holds_i64_iff {t : IntType} (fixed : t ≠ .i128) (n : Ranged t) :
    IntType.i64.Holds n.val ↔ ¬ (t = .u64 ∧ IntType.i64.greatest < n.val) := by
  have holds := n.holds
  generalize n.val = n at holds ⊢
  cases t with
  | i128 => exact absurd rfl fixed
  | _ =>
    simp only [Holds, least, greatest, reduceCtorEq, false_and, true_and, not_false_eq_true,
      iff_true] at holds ⊢
    omega

end IntType

namespace Ranged

variable {t : IntType} {n : Int}

theorem ofInt?_of_holds (h : t.Holds n) : ofInt? t n = some ⟨n, h⟩ :=
  ofInt?_eq_some_iff.mpr rfl

/-- An integer is out of range exactly if the type does not hold it. -/
theorem ofInt?_eq_none_iff : ofInt? t n = none ↔ ¬ t.Holds n := by
  unfold ofInt?
  split <;> simp_all

end Ranged

namespace Kind

variable {t : IntType} {n : Ranged .i64}

/-- An integer is narrowed to a type that holds it. -/
theorem narrow_of_holds (h : t.Holds n.val) : (int t).narrow n = some (.int t ⟨n.val, h⟩) := by
  rw [narrow, Ranged.ofInt?_of_holds h, Option.map_some]

/-- It is narrowed to no other type. -/
theorem narrow_of_not_holds (h : ¬ t.Holds n.val) : (int t).narrow n = none := by
  rw [narrow, Ranged.ofInt?_eq_none_iff.mpr h, Option.map_none]

end Kind

end RecordSql
