import RecordSql.Proofs.FetchedKey
import RecordSql.Proofs.IntegerField

/-!
# Integer keys and integer fields

A fetched integer becomes a key by way of 64 bits with a sign, whatever its own type and that of the key
column.  A field of the column's type reads it without such a detour.  Where the integer has room there,
the two agree: they accept the same integers, the key is read as the fetched value is, and an integer that
does not fit is reported as an overflow.  Where it has not, the key is refused for its kind, also by a
column of this very kind, and there is no overflow to report (`coerceFetched_followsField_iff`).
-/

namespace RecordSql.Key

/-- Whether a fetched value is taken as a key the way that a field of type `t` reads it. -/
structure FollowsField (key : Column) (t : IntType) (v : Value) : Prop where
  /-- It is taken exactly if the field reads it. -/
  ok_iff : (∃ w, coerceFetched key v = .ok w) ↔ ∃ w, (Scalar.int t).read v = .ok w
  /-- The field reads the key as it reads the fetched value. -/
  read_eq : ∀ w, coerceFetched key v = .ok w → (Scalar.int t).read w = (Scalar.int t).read v
  /-- An integer that does not fit the field is an overflow. -/
  overflow : ∀ n, v.integer? = some n → ¬ t.Holds n →
    coerceFetched key v = .error (.keyOverflow key.name n (.int t))

variable {key : Column} {s t : IntType}

/-! ### Coercion -/

section Coerce

variable (hkind : key.value.kind = .int t) {n : Ranged .i64}
include hkind

theorem coerce_of_holds (h : t.Holds n.val) : coerce key n = .ok (.int t ⟨n.val, h⟩) := by
  rw [coerce_eq_ok_iff, hkind]
  exact Kind.narrow_of_holds h

theorem coerce_of_not_holds (h : ¬ t.Holds n.val) :
    coerce key n = .error (.keyOverflow key.name n.val (.int t)) := by
  unfold coerce
  rw [hkind, Kind.narrow_of_not_holds h]
  rfl

end Coerce

/-- An integer beyond 64 bits with a sign is refused for its kind. -/
theorem coerceFetched_of_not_holds {n : Ranged s} (h : ¬ IntType.i64.Holds n.val) (key : Column) :
    coerceFetched key (.int s n) =
      .error (.decode key.name ("cannot use " ++ (Kind.int s).name ++ " as primary key")) := by
  have hword : (Value.int s n).word? = none := Ranged.ofInt?_eq_none_iff.mpr h
  unfold coerceFetched
  dsimp only
  rw [hword]
  rfl

/-! ### Agreement -/

/-- Within 64 bits with a sign, a fetched key is what a field of its type reads. -/
theorem followsField_of_holds (hkind : key.value.kind = .int t) {n : Ranged s}
    (h : IntType.i64.Holds n.val) : FollowsField key t (.int s n) := by
  have hfetched : coerceFetched key (.int s n) = coerce key ⟨n.val, h⟩ :=
    coerceFetched_of_integer? key rfl
  have hdenotes : (Value.int s n).Denotes n.val := .integer n
  -- the key and the field narrow the same integer to the same type
  by_cases holds : t.Holds n.val
  · have hkey : coerceFetched key (.int s n) = .ok (.int t ⟨n.val, holds⟩) :=
      hfetched.trans (coerce_of_holds hkind holds)
    have hread : (Scalar.int t).read (.int s n) = .ok (.int t ⟨n.val, holds⟩) :=
      Scalar.readInt_of_denotes (n := ⟨n.val, holds⟩) hdenotes
    refine ⟨⟨fun _ => ⟨_, hread⟩, fun _ => ⟨_, hkey⟩⟩, fun w hw => ?_, ?_⟩
    · obtain rfl := Except.ok.inj (hkey.symm.trans hw)
      exact (Scalar.readInt_of_denotes (.integer _)).trans hread.symm
    · rintro _ ⟨⟩ beyond
      exact absurd holds beyond
  · have hkey : coerceFetched key (.int s n) = .error (.keyOverflow key.name n.val (.int t)) :=
      hfetched.trans (coerce_of_not_holds hkind holds)
    have hread : (Scalar.int t).read (.int s n) = .error (.outOfRange n.val t) :=
      Scalar.readInt_of_not_holds hdenotes holds
    refine ⟨?_, fun w hw => ?_, ?_⟩
    · rw [hkey, hread]
      simp
    · cases hkey.symm.trans hw
    · rintro _ ⟨⟩ -
      exact hkey

/-- What follows the field is read or an overflow, and refused for nothing else. -/
theorem FollowsField.ne_decode {n : Ranged s} (follows : FollowsField key t (.int s n))
    (column reason : String) : coerceFetched key (.int s n) ≠ .error (.decode column reason) := by
  intro hkey
  by_cases holds : t.Holds n.val
  · obtain ⟨w, hw⟩ := follows.ok_iff.mpr
      ⟨_, Scalar.readInt_of_denotes (n := ⟨n.val, holds⟩) (.integer n)⟩
    cases hkey.symm.trans hw
  · cases hkey.symm.trans (follows.overflow n.val rfl holds)

/-- **A fetched integer is taken as a key the way that a field reads it exactly if it fits 64 bits with a
sign.**  Any other is refused for its kind. -/
theorem coerceFetched_followsField_iff (hkind : key.value.kind = .int t) (n : Ranged s) :
    (FollowsField key t (.int s n) ↔ IntType.i64.Holds n.val) ∧
    (coerceFetched key (.int s n) =
      .error (.decode key.name ("cannot use " ++ (Kind.int s).name ++ " as primary key")) ↔
        ¬ IntType.i64.Holds n.val) := by
  refine ⟨⟨fun follows => ?_, followsField_of_holds hkind⟩, fun hkey holds => ?_,
    fun h => coerceFetched_of_not_holds h key⟩
  · by_contra h
    exact follows.ne_decode _ _ (coerceFetched_of_not_holds h key)
  · exact (followsField_of_holds hkind holds).ne_decode _ _ hkey

/-- An integer that does not fit the column is an overflow, whatever its own type is. -/
theorem coerceFetched_followsField_overflow :
    let key : Column := ⟨"id", .int .i8 ⟨0, by decide⟩, some .generatedKey⟩
    let n : Ranged .i128 := ⟨IntType.i64.least, by decide⟩
    key.value.kind = .int .i8 ∧ FollowsField key .i8 (.int .i128 n) ∧
      coerceFetched key (.int .i128 n) = .error (.keyOverflow "id" IntType.i64.least (.int .i8)) := by
  intro key n
  have hkind : key.value.kind = .int .i8 := rfl
  have follows : FollowsField key .i8 (.int .i128 n) :=
    (coerceFetched_followsField_iff hkind n).1.mpr (by decide)
  exact ⟨hkind, follows, follows.overflow n.val rfl (by decide)⟩

/-- An unsigned key of 64 bits is refused by a column of its own kind, whose field reads it. -/
theorem coerceFetched_unsigned_refused :
    let key : Column := ⟨"id", .int .u64 ⟨0, by decide⟩, some .generatedKey⟩
    let v : Value := .int .u64 ⟨0x8000000000000000, by decide⟩
    v.kind = key.value.kind ∧
      coerceFetched key v = .error (.decode "id" "cannot use u64 as primary key") ∧
      (Scalar.int .u64).read v = .ok v :=
  ⟨rfl, rfl, rfl⟩

end RecordSql.Key
